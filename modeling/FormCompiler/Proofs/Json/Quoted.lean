import FormCompiler.Json.Tree
import FormCompiler.Proofs.Json.Reader
import Mathlib.Tactic.Common

set_option autoImplicit false

namespace FormCompiler.Json

open Reader

section Hexadecimal

theorem digitChar_hex : ∀ digit < 16, Text.isHexDigit (Nat.digitChar digit) = true ∧
    Text.digit? (Nat.digitChar digit) = some digit := by
  decide

theorem hexText_split (width n : Nat) :
    (Text.hexText (width + 2) n).toList =
      (Text.hexText (width + 1) (n / 16)).toList ++ [Nat.digitChar (n % 16)] := by
  simp only [Text.hexText, String.toList_ofList]
  by_cases small : n < 16
  · -- The digit in front is one of the zeros that fill the text up.
    have none : n / 16 = 0 := Nat.div_eq_of_lt small
    have same : n % 16 = n := Nat.mod_eq_of_lt small
    rw [none, same, Nat.toDigits_of_lt_base small]
    simp [List.replicate_succ', Nat.digitChar]
  · rw [Nat.toDigits_of_base_le (by decide) (Nat.not_lt.mp small)]
    simp

theorem hexText_four {code : Nat} (small : code < 0x10000) :
    (Text.hexText 4 code).toList =
      [Nat.digitChar (code / 16 / 16 / 16), Nat.digitChar (code / 16 / 16 % 16),
        Nat.digitChar (code / 16 % 16), Nat.digitChar (code % 16)] := by
  have first : code / 16 / 16 / 16 < 16 := by omega
  rw [hexText_split 2, hexText_split 1, hexText_split 0]
  simp [Text.hexText, Nat.toDigits_of_lt_base first]

theorem units?_numberedChar {code : Nat} (small : code < 0x10000) (rest : List Char) :
    units? (numberedChar code ++ rest) = (units? rest).map (code :: ·) := by
  obtain ⟨firstHex, first⟩ := digitChar_hex (code / 16 / 16 / 16) (by omega)
  obtain ⟨secondHex, second⟩ := digitChar_hex (code / 16 / 16 % 16) (by omega)
  obtain ⟨thirdHex, third⟩ := digitChar_hex (code / 16 % 16) (by omega)
  obtain ⟨fourthHex, fourth⟩ := digitChar_hex (code % 16) (by omega)
  have value : (((0 * 16 + code / 16 / 16 / 16) * 16 + code / 16 / 16 % 16) * 16 +
      code / 16 % 16) * 16 + code % 16 = code := by omega
  simp only [numberedChar, hexText_four small, List.cons_append, List.nil_append, units?,
    List.all_cons, List.all_nil, firstHex, secondHex, thirdHex, fourthHex, Bool.and_self, if_true,
    Text.hexValue, List.foldl_cons, List.foldl_nil, first, second, third, fourth,
    Option.getD_some, value]

end Hexadecimal

def charUnits (ascii : Bool) (c : Char) : List Nat :=
  if c.toNat < 0x10000 ∨ ascii = false then [c.toNat]
  else [0xD800 + (c.toNat - 0x10000) / 0x400, 0xDC00 + (c.toNat - 0x10000) % 0x400]

theorem toNat_lt (c : Char) : c.toNat < 0xD800 ∨ 0xE000 ≤ c.toNat ∧ c.toNat < 0x110000 := by
  have valid : c.toNat < 0xD800 ∨ 0xDFFF < c.toNat ∧ c.toNat < 0x110000 := c.valid
  omega

theorem units?_asciiChar (c : Char) (rest : List Char) :
    units? (asciiChar c ++ rest) = (units? rest).map (charUnits true c ++ ·) := by
  unfold asciiChar charUnits
  split
  · next first => simp [first, units?_numberedChar first]
  · next beyond =>
    have bound := toNat_lt c
    have high : 0xD800 + (c.toNat - 0x10000) / 0x400 < 0x10000 := by omega
    have low : 0xDC00 + (c.toNat - 0x10000) % 0x400 < 0x10000 := by omega
    simp only [List.append_assoc, units?_numberedChar high, units?_numberedChar low, beyond]
    cases units? rest <;> simp

inductive WrittenAs (ascii : Bool) (c : Char) : List Char → Prop where
  | short {letter : Char} (named : escaped? letter = some c.toNat)
    (units : charUnits ascii c = [c.toNat]) : WrittenAs ascii c ['\\', letter]
  | numbered (units : charUnits ascii c = charUnits true c) : WrittenAs ascii c (asciiChar c)
  | plain (quoteless : c ≠ '"' ∧ c ≠ '\\') (shown : 32 ≤ c.toNat)
    (units : charUnits ascii c = [c.toNat]) : WrittenAs ascii c [c]

theorem charUnits_of_small {ascii : Bool} {c : Char} (small : c.toNat < 0x10000) :
    charUnits ascii c = [c.toNat] := by
  simp [charUnits, small]

theorem escapedChar_writtenAs (ascii : Bool) (c : Char) :
    WrittenAs ascii c (escapedChar ascii c) := by
  have short {letter : Char} {code : Nat} (same : c.toNat = code)
      (named : escaped? letter = some code) (small : code < 128) :
      WrittenAs ascii c ['\\', letter] :=
    .short (same ▸ named) (charUnits_of_small (by omega))
  unfold escapedChar
  split
  · next same => exact short (congrArg Char.toNat same) rfl (by decide)
  split
  · next same => exact short (congrArg Char.toNat same) rfl (by decide)
  split
  · next same => exact short (congrArg Char.toNat same) rfl (by decide)
  split
  · next same => exact short (congrArg Char.toNat same) rfl (by decide)
  split
  · next same => exact short (congrArg Char.toNat same) rfl (by decide)
  split
  · next same => exact short same rfl (by decide)
  split
  · next same => exact short same rfl (by decide)
  split
  · next asked =>
    refine .numbered ?_
    obtain below | ⟨isAscii, -⟩ : c.toNat < 32 ∨ ascii = true ∧ 126 < c.toNat := by
      simpa using asked
    · rw [charUnits_of_small (by omega), charUnits_of_small (by omega)]
    · rw [isAscii]
  · next noQuote noSlash _ _ _ _ _ unasked =>
    simp only [Bool.or_eq_true, decide_eq_true_iff, Bool.and_eq_true, not_or, not_and] at unasked
    refine .plain ⟨noQuote, noSlash⟩ (by omega) ?_
    cases ascii with
    | false => simp [charUnits]
    | true =>
      have small := unasked.2 rfl
      exact charUnits_of_small (by omega)

theorem units?_escapedChar (ascii : Bool) (c : Char) (rest : List Char) :
    units? (escapedChar ascii c ++ rest) = (units? rest).map (charUnits ascii c ++ ·) := by
  generalize written : escapedChar ascii c = chars
  have form := written ▸ escapedChar_writtenAs ascii c
  cases form with
  | numbered units => rw [units, units?_asciiChar]
  | plain quoteless shown units =>
    have kept : ¬(c = '\\' ∨ c.toNat < 32) := by
      rintro (same | below)
      · exact quoteless.2 same
      · omega
    rw [units, List.singleton_append, units?, if_neg kept]
    · rfl
    · exact fun _ _ _ _ _ same => absurd same quoteless.2
    · exact fun _ _ same => absurd same quoteless.2
  | @short letter named units =>
    have notNumbered : letter ≠ 'u' := by
      rintro rfl
      cases named
    rw [units, List.cons_append, List.singleton_append, units?]
    · cases units? rest <;> simp [named]
    · exact fun _ _ _ _ _ same => absurd same notNumbered

theorem joined?_single {unit : Nat} (whole : unit < 0xD800 ∨ 0xE000 ≤ unit) (rest : List Nat) :
    joined? (unit :: rest) = (joined? rest).map (Char.ofNat unit :: ·) := by
  have notHigh : isHighHalf unit = false := by
    simp only [isHighHalf, Bool.and_eq_false_iff, decide_eq_false_iff_not]
    omega
  have notLow : isLowHalf unit = false := by
    simp only [isLowHalf, Bool.and_eq_false_iff, decide_eq_false_iff_not]
    omega
  cases rest <;> simp [joined?, notHigh, notLow]

theorem joined?_charUnits (ascii : Bool) (c : Char) (rest : List Nat) :
    joined? (charUnits ascii c ++ rest) = (joined? rest).map (c :: ·) := by
  have bound := toNat_lt c
  unfold charUnits
  split
  · rw [List.singleton_append, joined?_single (by omega), Char.ofNat_toNat]
  · have high : isHighHalf (0xD800 + (c.toNat - 0x10000) / 0x400) = true := by
      simp only [isHighHalf, Bool.and_eq_true, decide_eq_true_iff]
      omega
    have low : isLowHalf (0xDC00 + (c.toNat - 0x10000) % 0x400) = true := by
      simp only [isLowHalf, Bool.and_eq_true, decide_eq_true_iff]
      omega
    have whole : 0x10000 + (0xD800 + (c.toNat - 0x10000) / 0x400 - 0xD800) * 0x400 +
        (0xDC00 + (c.toNat - 0x10000) % 0x400 - 0xDC00) = c.toNat := by omega
    simp only [List.cons_append, List.nil_append, joined?, high, low, if_true, whole,
      Char.ofNat_toNat]

theorem quoted?_escaped (ascii : Bool) (text : String) :
    quoted? (text.toList.flatMap (escapedChar ascii)) = some text := by
  have units (chars : List Char) : units? (chars.flatMap (escapedChar ascii)) =
      some (chars.flatMap (charUnits ascii)) := by
    induction chars with
    | nil => rfl
    | cons c rest ih => simp [units?_escapedChar, ih]
  have joined (chars : List Char) : joined? (chars.flatMap (charUnits ascii)) = some chars := by
    induction chars with
    | nil => rfl
    | cons c rest ih => simp [joined?_charUnits, ih]
  simp [quoted?, units, joined]

def StayInside (chars : List Char) : Prop :=
  ∀ tokens before, chars.foldlM Lexer.step? ⟨tokens, .text false before⟩ =
    some ⟨tokens, .text false (before ++ chars)⟩

namespace StayInside

theorem nil : StayInside [] := by
  intro tokens before
  simp

theorem append {first second : List Char} (stays : StayInside first) (later : StayInside second) :
    StayInside (first ++ second) := by
  intro tokens before
  rw [List.foldlM_append, stays tokens before]
  simpa using later tokens (before ++ first)

theorem plain {c : Char} (quoteless : c ≠ '"' ∧ c ≠ '\\') : StayInside [c] := by
  intro tokens before
  simp [Lexer.step?, quoteless.1, quoteless.2]

theorem short (letter : Char) : StayInside ['\\', letter] := by
  intro tokens before
  simp [Lexer.step?]

theorem numbered {code : Nat} (small : code < 0x10000) : StayInside (numberedChar code) := by
  have digit : ∀ digit < 16, Nat.digitChar digit ≠ '"' ∧ Nat.digitChar digit ≠ '\\' := by decide
  have first := plain (digit (code / 16 / 16 / 16) (by omega))
  have second := plain (digit (code / 16 / 16 % 16) (by omega))
  have third := plain (digit (code / 16 % 16) (by omega))
  have fourth := plain (digit (code % 16) (by omega))
  rw [numberedChar, hexText_four small]
  exact (short 'u').append (first.append (second.append (third.append fourth)))

end StayInside

theorem escapedChar_stayInside (ascii : Bool) (c : Char) : StayInside (escapedChar ascii c) := by
  generalize written : escapedChar ascii c = chars
  have form := written ▸ escapedChar_writtenAs ascii c
  cases form with
  | @short letter => exact .short letter
  | plain quoteless => exact .plain quoteless
  | numbered =>
    have bound := toNat_lt c
    unfold asciiChar
    split
    · next first => exact .numbered first
    · exact (StayInside.numbered (by omega)).append (.numbered (by omega))

theorem flatMap_stayInside (ascii : Bool) (chars : List Char) :
    StayInside (chars.flatMap (escapedChar ascii)) := by
  induction chars with
  | nil => exact .nil
  | cons c rest ih => exact (escapedChar_stayInside ascii c).append ih

end FormCompiler.Json
