import FormCompiler.Number.Shortest
import FormCompiler.Proofs.Json.Reader
import Mathlib.Algebra.Order.Field.Basic
import Mathlib.Data.Rat.Cast.Defs
import Mathlib.Tactic.Common
import Mathlib.Tactic.FieldSimp
import Mathlib.Tactic.Ring

set_option autoImplicit false

namespace FormCompiler.Json

open Reader

section Digits

def AreDigits (chars : List Char) : Prop :=
  ∀ c ∈ chars, c.isDigit = true

theorem areDigits_append {first second : List Char} :
    AreDigits (first ++ second) ↔ AreDigits first ∧ AreDigits second := by
  simp [AreDigits, or_imp, forall_and]

theorem areDigits_zeros (count : Nat) : AreDigits (List.replicate count '0') := by
  intro c member
  rw [List.eq_of_mem_replicate member]
  decide

theorem areDigits_toDigits (n : Nat) : AreDigits (Nat.toDigits 10 n) :=
  fun _ member => Nat.isDigit_of_mem_toDigits (by decide) (by decide) member

def NoDigitNext (chars : List Char) : Prop :=
  ∀ c ∈ chars.head?, c.isDigit = false

theorem takeWhile_digits {digits rest : List Char} (all : AreDigits digits)
    (stops : NoDigitNext rest) : (digits ++ rest).takeWhile Char.isDigit = digits := by
  rw [List.takeWhile_append_of_pos all]
  cases rest with
  | nil => simp
  | cons c rest => simp [stops c rfl]

theorem dropWhile_digits {digits rest : List Char} (all : AreDigits digits)
    (stops : NoDigitNext rest) : (digits ++ rest).dropWhile Char.isDigit = rest := by
  rw [List.dropWhile_append_of_pos all]
  cases rest with
  | nil => simp
  | cons c rest => simp [stops c rfl]

theorem ofDigitChars_zeros (count value : Nat) :
    Nat.ofDigitChars 10 (List.replicate count '0') value = value * 10 ^ count := by
  induction count generalizing value with
  | zero => simp [Nat.ofDigitChars]
  | succ count ih =>
    rw [List.replicate_succ, Nat.ofDigitChars_cons, ih]
    simp only [Nat.sub_self, Nat.add_zero, Nat.pow_succ]
    ring

theorem head_toDigits {n : Nat} (positive : n ≠ 0) : (Nat.toDigits 10 n).head? ≠ some '0' := by
  induction n using Nat.strongRecOn with
  | ind n ih =>
    by_cases small : n < 10
    · have digit : ∀ digit < 10, digit ≠ 0 → Nat.digitChar digit ≠ '0' := by decide
      simpa [Nat.toDigits_of_lt_base small] using digit n small positive
    · have front := ih (n / 10) (by omega) (by omega)
      rwa [Nat.toDigits_of_base_le (by decide) (Nat.not_lt.mp small),
        List.head?_append_of_ne_nil _ Nat.toDigits_ne_nil]

end Digits

section Grammar

structure LeadDigits (whole : List Char) : Prop where
  digits : AreDigits whole
  nonempty : whole ≠ []
  zero : whole.head? = some '0' → whole.length = 1

def pointed (fraction : List Char) : List Char :=
  if fraction.isEmpty then [] else '.' :: fraction

theorem fraction?_pointed {fraction rest : List Char} (digits : AreDigits fraction)
    (stops : NoDigitNext rest) (pointless : rest.head? ≠ some '.') :
    fraction? (pointed fraction ++ rest) = some (fraction, rest) := by
  by_cases none : fraction = []
  · subst none
    cases rest with
    | nil => rfl
    | cons c rest =>
      have noPoint : c ≠ '.' := by simpa using pointless
      rw [pointed, List.isEmpty_nil, if_pos rfl, List.nil_append, fraction?]
      exact fun rest same => noPoint (List.cons.inj same).1
  · simp [pointed, none, fraction?, takeWhile_digits digits stops, dropWhile_digits digits stops]

structure ExponentText (chars : List Char) (exponent : Option Int) : Prop where
  read : exponent? chars = some exponent
  stops : NoDigitNext chars
  pointless : chars.head? ≠ some '.'

theorem ExponentText.nil : ExponentText [] none :=
  ⟨rfl, by simp [NoDigitNext], by simp⟩

theorem LeadDigits.guard {whole : List Char} (lead : LeadDigits whole) :
    (whole.isEmpty || (whole.head? == some '0' && whole.length != 1)) = false := by
  have zero := lead.zero
  by_cases leading : whole.head? = some '0' <;> simp [lead.nonempty, leading, zero]

theorem noDigitNext_pointed {fraction tail : List Char} (stops : NoDigitNext tail) :
    NoDigitNext (pointed fraction ++ tail) := by
  cases fraction with
  | nil => simpa [pointed] using stops
  | cons digit fraction =>
    intro c first
    cases first
    decide

theorem unsigned?_parts {whole fraction tail : List Char} {exponent : Option Int} (negative : Bool)
    (lead : LeadDigits whole) (digits : AreDigits fraction) (power : ExponentText tail exponent)
    (broken : fraction ≠ [] ∨ exponent ≠ none) :
    unsigned? negative (whole ++ (pointed fraction ++ tail)) =
      some (.decimal negative (Nat.ofDigitChars 10 (whole ++ fraction) 0 *
        10 ^ (exponent.getD 0 - fraction.length))) := by
  have stops : NoDigitNext (pointed fraction ++ tail) := noDigitNext_pointed power.stops
  have notWhole (none : fraction = []) : exponent ≠ Option.none :=
    broken.resolve_left (not_not_intro none)
  simpa [unsigned?, takeWhile_digits lead.digits stops, dropWhile_digits lead.digits stops,
    lead.guard, fraction?_pointed digits power.stops power.pointless, power.read] using notWhole

theorem unsigned?_whole {whole : List Char} (negative : Bool) (lead : LeadDigits whole) :
    unsigned? negative whole =
      some (.whole (Double.signed negative (Nat.ofDigitChars 10 whole 0))) := by
  have stops : NoDigitNext [] := by simp [NoDigitNext]
  have front := takeWhile_digits lead.digits stops
  have back := dropWhile_digits lead.digits stops
  rw [List.append_nil] at front back
  simp [unsigned?, front, back, lead.guard, fraction?, exponent?]

end Grammar

section Layouts

open Double (Layout digitsText exponentText)

theorem exponentText_read (layout : Layout) (exponent : Int) :
    ExponentText (exponentText layout exponent).toList (some exponent) := by
  have digits : AreDigits (Text.zeroPadded layout.exponentDigits exponent.natAbs).toList := by
    simp only [Text.zeroPadded, String.toList_ofList, areDigits_append]
    exact ⟨areDigits_zeros _, areDigits_toDigits _⟩
  have nonempty : (Text.zeroPadded layout.exponentDigits exponent.natAbs).toList ≠ [] := by
    simp [Text.zeroPadded, Nat.toDigits_ne_nil]
  have value : Nat.ofDigitChars 10 (Text.zeroPadded layout.exponentDigits exponent.natAbs).toList 0 =
      exponent.natAbs := by
    simp only [Text.zeroPadded, String.toList_ofList, Nat.ofDigitChars_append,
      ofDigitChars_zeros, Nat.zero_mul]
    exact Nat.ofDigitChars_toDigits (by decide) (by decide)
  have all := List.all_eq_true.mpr digits
  simp only [exponentText, String.toList_append]
  generalize (Text.zeroPadded layout.exponentDigits exponent.natAbs).toList = padded at *
  by_cases below : exponent < 0
  · have signed : Double.signed true exponent.natAbs = exponent := by
      simp only [Double.signed, if_true]
      omega
    simp only [below, if_true]
    refine ⟨?_, by simp [NoDigitNext], by simp⟩
    simp [exponent?, Number.takeSign, nonempty, all, value, signed]
  · have signed : Double.signed false exponent.natAbs = exponent := by
      simp only [Double.signed, Bool.false_eq_true, if_false]
      omega
    simp only [below, if_false]
    refine ⟨?_, by simp [NoDigitNext], by simp⟩
    simp [exponent?, Number.takeSign, nonempty, all, value, signed]

structure Significant (digits : List Char) (first : Int) : Prop where
  all : AreDigits digits
  nonempty : digits ≠ []
  zero : digits.head? = some '0' → digits = ['0'] ∧ first = 0

def valueOf (digits : List Char) (first : Int) : ℚ :=
  Nat.ofDigitChars 10 digits 0 * 10 ^ (first + 1 - digits.length)

variable {digits : List Char} {first : Int}

theorem unsigned?_below (negative : Bool) (shown : Significant digits first) (below : first < 0) :
    unsigned? negative ('0' :: '.' :: (List.replicate (-first - 1).toNat '0' ++ digits)) =
      some (.decimal negative (valueOf digits first)) := by
  have lead : LeadDigits ['0'] := ⟨by simp [AreDigits], by simp, by simp⟩
  have fraction : AreDigits (List.replicate (-first - 1).toNat '0' ++ digits) :=
    areDigits_append.mpr ⟨areDigits_zeros _, shown.all⟩
  have some : List.replicate (-first - 1).toNat '0' ++ digits ≠ [] := by simp [shown.nonempty]
  have read := unsigned?_parts negative lead fraction .nil (.inl some)
  have value : (Nat.ofDigitChars 10 (['0'] ++ (List.replicate (-first - 1).toNat '0' ++ digits)) 0 : ℚ)
      * 10 ^ ((none : Option Int).getD 0 -
        ((List.replicate (-first - 1).toNat '0' ++ digits).length : Int)) = valueOf digits first := by
    -- The zeros in front add nothing, but each is a place behind the point.
    have zeros : Nat.ofDigitChars 10 (['0'] ++ (List.replicate (-first - 1).toNat '0' ++ digits)) 0 =
        Nat.ofDigitChars 10 digits 0 := by
      rw [Nat.ofDigitChars_append, Nat.ofDigitChars_append, ofDigitChars_zeros]
      simp [Nat.ofDigitChars_cons]
    have places : (none : Option Int).getD 0 -
        ((List.replicate (-first - 1).toNat '0' ++ digits).length : Int) =
          first + 1 - digits.length := by
      simp only [Option.getD_none, List.length_append, List.length_replicate]
      omega
    rw [valueOf, zeros, places]
  rw [value] at read
  simpa [pointed, shown.nonempty] using read

theorem unsigned?_positional (negative : Bool) (shown : Significant digits first)
    (above : 0 ≤ first) :
    unsigned? negative (digits.take (first.toNat + 1) ++
        List.replicate (first.toNat + 1 - digits.length) '0' ++
        ('.' :: if (digits.drop (first.toNat + 1)).isEmpty then ['0']
          else digits.drop (first.toNat + 1))) =
      some (.decimal negative (valueOf digits first)) := by
  by_cases short : digits.length ≤ first.toNat + 1
  · -- Zeros fill the places up to the point, and one stands behind it.
    have behind : digits.drop (first.toNat + 1) = [] := List.drop_eq_nil_of_le short
    have front : digits.take (first.toNat + 1) = digits := List.take_of_length_le short
    generalize count : first.toNat + 1 - digits.length = zeros
    have lead : LeadDigits (digits ++ List.replicate zeros '0') := by
      refine ⟨areDigits_append.mpr ⟨shown.all, areDigits_zeros _⟩, by simp [shown.nonempty], ?_⟩
      rw [List.head?_append_of_ne_nil _ shown.nonempty]
      intro leading
      obtain ⟨rfl, rfl⟩ := shown.zero leading
      subst count
      rfl
    have zero : AreDigits ['0'] := areDigits_zeros 1
    have read := unsigned?_parts negative lead zero .nil (.inl (by simp))
    have value : (Nat.ofDigitChars 10 (digits ++ List.replicate zeros '0' ++ ['0']) 0 : ℚ) *
        10 ^ ((none : Option Int).getD 0 - (['0'].length : Int)) = valueOf digits first := by
      have places : first + 1 - digits.length = (zeros : Int) := by omega
      have last (value : Nat) : Nat.ofDigitChars 10 ['0'] value = 10 * value := by
        simp [Nat.ofDigitChars_cons]
      rw [valueOf, Nat.ofDigitChars_append, Nat.ofDigitChars_append, ofDigitChars_zeros, last,
        places]
      have ten : (10 : ℚ) ≠ 0 := by norm_num
      simp only [Option.getD_none, List.length_singleton, Nat.cast_one, zero_sub, zpow_neg_one,
        zpow_natCast, Nat.cast_mul, Nat.cast_pow, Nat.cast_ofNat]
      field_simp
    rw [value] at read
    simpa [behind, front, count, pointed] using read
  · have front : (digits.take (first.toNat + 1)).length = first.toNat + 1 :=
      List.length_take_of_le (by omega)
    have zeros : first.toNat + 1 - digits.length = 0 := by omega
    have behind : digits.drop (first.toNat + 1) ≠ [] := by
      rw [Ne, List.drop_eq_nil_iff]
      exact short
    have whole : digits.take (first.toNat + 1) ++ digits.drop (first.toNat + 1) = digits :=
      List.take_append_drop _ _
    obtain ⟨leading, fraction⟩ := areDigits_append.mp (whole ▸ shown.all)
    have lead : LeadDigits (digits.take (first.toNat + 1)) := by
      refine ⟨leading, by simp [shown.nonempty], fun zero => ?_⟩
      rw [List.head?_take, if_neg (Nat.succ_ne_zero _)] at zero
      -- A single zero would fit before the point.
      obtain ⟨rfl, -⟩ := shown.zero zero
      exact absurd (by simp) short
    have read := unsigned?_parts negative lead fraction .nil (.inl behind)
    have value : (Nat.ofDigitChars 10 (digits.take (first.toNat + 1) ++
        digits.drop (first.toNat + 1)) 0 : ℚ) * 10 ^ ((none : Option Int).getD 0 -
          ((digits.drop (first.toNat + 1)).length : Int)) = valueOf digits first := by
      rw [valueOf, whole]
      congr 2
      simp only [Option.getD_none, List.length_drop]
      omega
    rw [value] at read
    simpa [behind, zeros, pointed] using read

theorem unsigned?_scientific (layout : Layout) (negative : Bool) {digit : Char} {rest : List Char}
    (shown : Significant (digit :: rest) first) :
    unsigned? negative
        ((digit :: if rest.isEmpty then [] else '.' :: rest) ++ (exponentText layout first).toList) =
      some (.decimal negative (valueOf (digit :: rest) first)) := by
  have split : AreDigits ([digit] ++ rest) := shown.all
  obtain ⟨leading, fraction⟩ := areDigits_append.mp split
  have lead : LeadDigits [digit] := ⟨leading, by simp, by simp⟩
  have read := unsigned?_parts negative lead fraction (exponentText_read layout first)
    (.inr (by simp))
  have value : (Nat.ofDigitChars 10 ([digit] ++ rest) 0 : ℚ) *
      10 ^ ((some first).getD 0 - (rest.length : Int)) = valueOf (digit :: rest) first := by
    rw [valueOf]
    congr 2
    simp only [Option.getD_some, List.length_cons]
    omega
  rw [value] at read
  simpa [pointed] using read

theorem digitsText_read (layout : Layout) (negative : Bool) (shown : Significant digits first) :
    unsigned? negative (digitsText layout digits first) =
      some (.decimal negative (valueOf digits first)) := by
  unfold digitsText
  split
  · split
    · next below => exact unsigned?_below negative shown below
    · next above => exact unsigned?_positional negative shown (Int.not_lt.mp above)
  · -- One digit stands before the point, and the exponent counts the first place.
    cases digits with
    | nil => exact absurd rfl shown.nonempty
    | cons digit rest => exact unsigned?_scientific layout negative shown

end Layouts

section Shortest

open Double

theorem scaled_pos (shift : Int) : 0 < (scaled 1 1 shift).1 := by
  simp only [scaled]
  split
  · simp only [Nat.one_mul]
    exact Nat.pow_pos (by decide)
  · exact Nat.one_pos

theorem interval_not_holds_zero {mantissa : Nat} (positive : mantissa ≠ 0) (exponent : Int)
    {den : Nat} (some : 0 < den) : (interval mantissa exponent).holds 0 den = false := by
  have unit := scaled_pos (exponent - 2)
  have below : 0 < (interval mantissa exponent).low := by
    simp only [interval]
    refine Nat.mul_pos ?_ unit
    split <;> omega
  have low : 0 < (interval mantissa exponent).low * den := Nat.mul_pos below some
  simp only [Interval.holds, Nat.zero_mul]
  split <;> simp [Nat.not_le.mpr low]

theorem onGrid?_ne_zero {mantissa : Nat} {exponent : Int} (positive : mantissa ≠ 0) {p : Int}
    {coefficient : Nat} (found : onGrid? (interval mantissa exponent) p = some coefficient) :
    coefficient ≠ 0 := by
  simp only [onGrid?] at found
  have some : 0 < (if 0 ≤ p then (1, Nat.pow 10 p.toNat) else (Nat.pow 10 (-p).toNat, 1)).1 := by
    split
    · exact Nat.one_pos
    · exact Nat.pow_pos (by decide)
  generalize (if 0 ≤ p then (1, Nat.pow 10 p.toNat) else (Nat.pow 10 (-p).toNat, 1)) = scale
    at found some
  obtain ⟨up, down⟩ := scale
  generalize (interval mantissa exponent).value * up = num at found
  generalize (interval mantissa exponent).denominator * down = den at found
  -- The lower neighbour does not read back if it is zero.
  have lower : (interval mantissa exponent).holds (num / den * down) up = true →
      num / den ≠ 0 := by
    intro holds zero
    rw [zero, Nat.zero_mul, interval_not_holds_zero positive exponent some] at holds
    cases holds
  split at found
  · next both =>
    have floor := lower (Bool.and_eq_true_iff.mp both).1
    cases found
    simp only [roundDiv]
    split
    · exact Nat.succ_ne_zero _
    · exact floor
  split at found
  · next holds =>
    cases found
    exact lower holds
  split at found
  · cases found
    exact Nat.succ_ne_zero _
  · cases found

theorem dropZeros_coefficient_ne_zero (steps : Nat) {digits : Digits}
    (some : digits.coefficient ≠ 0) : (dropZeros steps digits).coefficient ≠ 0 := by
  induction steps generalizing digits with
  | zero => exact some
  | succ steps ih =>
    simp only [dropZeros]
    split
    · refine ih ?_
      simp only
      omega
    · exact some

theorem firstGrid_eq_zero {mantissa : Nat} {exponent : Int} (positive : mantissa ≠ 0) (top : Int)
    (tries : Nat) (zero : (firstGrid (interval mantissa exponent) top tries).coefficient = 0) :
    firstGrid (interval mantissa exponent) top tries = ⟨0, 0⟩ := by
  induction tries with
  | zero => rfl
  | succ tries ih =>
    simp only [firstGrid] at zero ⊢
    cases found : onGrid? (interval mantissa exponent) (top - (17 - (tries + 1 : Nat) : Int)) with
    | some coefficient =>
      simp only [found] at zero
      exact absurd zero (onGrid?_ne_zero positive found)
    | none =>
      simp only [found] at zero ⊢
      exact ih zero

theorem shortest_of_coefficient_zero {mantissa : Nat} {exponent : Int}
    (zero : (shortest mantissa exponent).coefficient = 0) : shortest mantissa exponent = ⟨0, 0⟩ := by
  simp only [shortest] at zero ⊢
  split
  · rfl
  · next positive =>
    rw [if_neg positive] at zero
    generalize top : decimalExponent _ _ = start at zero ⊢
    have first : _ → firstGrid (interval mantissa exponent) start 17 = ⟨0, 0⟩ :=
      firstGrid_eq_zero positive start 17
    by_cases none : (firstGrid (interval mantissa exponent) start 17).coefficient = 0
    · rw [first none]
      rfl
    · exact absurd zero (dropZeros_coefficient_ne_zero 17 none)

theorem shortest_significant (mantissa : Nat) (exponent : Int) :
    Significant (Nat.toDigits 10 (shortest mantissa exponent).coefficient)
      ((shortest mantissa exponent).exponent +
        ((Nat.toDigits 10 (shortest mantissa exponent).coefficient).length - 1 : Nat)) := by
  refine ⟨areDigits_toDigits _, Nat.toDigits_ne_nil, fun leading => ?_⟩
  have zero : (shortest mantissa exponent).coefficient = 0 := by
    by_contra some
    exact head_toDigits some leading
  rw [shortest_of_coefficient_zero zero]
  decide

theorem valueOf_toDigits (coefficient : Nat) (exponent : Int) :
    valueOf (Nat.toDigits 10 coefficient)
        (exponent + ((Nat.toDigits 10 coefficient).length - 1 : Nat)) =
      coefficient * 10 ^ exponent := by
  have some := Nat.length_toDigits_pos (b := 10) (n := coefficient)
  have places : exponent + ((Nat.toDigits 10 coefficient).length - 1 : Nat) + 1 -
      (Nat.toDigits 10 coefficient).length = exponent := by omega
  rw [valueOf, places, Nat.ofDigitChars_toDigits (by decide) (by decide)]

end Shortest

section Words

theorem word?_of_number? {chars : List Char} {content : Content}
    (read : number? chars = some content) : word? chars = some content := by
  have noWord : chars ≠ "null".toList ∧ chars ≠ "true".toList ∧ chars ≠ "false".toList := by
    refine ⟨?_, ?_, ?_⟩ <;> rintro rfl <;> cases read
  rw [word?, if_neg noWord.1, if_neg noWord.2.1, if_neg noWord.2.2, read]

theorem number?_of_unsigned? {chars : List Char} {content : Content}
    (read : unsigned? false chars = some content) : number? chars = some content := by
  unfold number?
  split
  · cases read
  · exact read

def decimalSize (mantissa : Nat) (exponent : Int) : ℚ :=
  (Double.shortest mantissa exponent).coefficient *
    10 ^ (Double.shortest mantissa exponent).exponent

theorem word?_finite (layout : Double.Layout) (negative : Bool) (mantissa : Nat) (exponent : Int) :
    word? ((Double.finite negative mantissa exponent).textIn layout).toList =
      some (.decimal negative (decimalSize mantissa exponent)) := by
  have read := digitsText_read layout negative (shortest_significant mantissa exponent)
  rw [valueOf_toDigits] at read
  refine word?_of_number? ?_
  simp only [Double.textIn, String.toList_ofList]
  cases negative with
  | true => exact read
  | false => exact number?_of_unsigned? read

theorem word?_int (n : Int) : word? (toString n).toList = some (.whole n) := by
  have lead (k : Nat) : LeadDigits (Nat.toDigits 10 k) := by
    refine ⟨areDigits_toDigits k, Nat.toDigits_ne_nil, fun leading => ?_⟩
    have zero : k = 0 := by
      by_contra some
      exact head_toDigits some leading
    subst zero
    rfl
  have value (k : Nat) : Nat.ofDigitChars 10 (Nat.toDigits 10 k) 0 = k :=
    Nat.ofDigitChars_toDigits (by decide) (by decide)
  refine word?_of_number? ?_
  rw [Int.toString_eq_repr, Int.repr_eq_if]
  split
  · next above =>
    rw [Nat.toList_repr]
    refine number?_of_unsigned? ?_
    rw [unsigned?_whole false (lead _), value]
    simp [Double.signed, above]
  · next below =>
    rw [String.toList_append, Nat.toList_repr]
    change unsigned? true (Nat.toDigits 10 (-n).toNat) = _
    rw [unsigned?_whole true (lead _), value]
    simp only [Double.signed, if_true]
    congr 2
    omega

end Words

end FormCompiler.Json
