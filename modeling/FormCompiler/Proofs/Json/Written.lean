import FormCompiler.Proofs.Json.Numbers
import FormCompiler.Proofs.Json.Quoted

set_option autoImplicit false

namespace FormCompiler.Json

open Reader

section Tokens

def separated (items : List (List Token)) : List Token :=
  (items.intersperse [.mark ',']).flatten

@[simp] theorem separated_single (item : List Token) : separated [item] = item := by
  simp [separated]

theorem separated_cons (first second : List Token) (rest : List (List Token)) :
    separated (first :: second :: rest) = first ++ (.mark ',' :: separated (second :: rest)) := by
  simp [separated]

theorem separated_leads (first : List Token) (rest : List (List Token)) :
    ∃ more, separated (first :: rest) = first ++ more := by
  cases rest with
  | nil => exact ⟨[], by simp⟩
  | cons second rest => exact ⟨_, separated_cons first second rest⟩

mutual

def Tree.tokens (numbers : Double.Layout) : Tree → List Token
  | .null => [.word "null".toList]
  | .flag value => [.word (if value then "true".toList else "false".toList)]
  | .whole number => [.word (toString number).toList]
  | .number value => [.word (value.textIn numbers).toList]
  | .text chars => [.text chars]
  | .array items => .mark '[' :: (separated (itemTokens numbers items) ++ [.mark ']'])
  | .object fields => .mark '\x7b' :: (separated (fieldTokens numbers fields) ++ [.mark '\x7d'])
termination_by structural tree => tree

def itemTokens (numbers : Double.Layout) : List Tree → List (List Token)
  | [] => []
  | item :: rest => item.tokens numbers :: itemTokens numbers rest
termination_by structural items => items

def fieldTokens (numbers : Double.Layout) : List (String × Tree) → List (List Token)
  | [] => []
  | (key, item) :: rest =>
    (.text key :: .mark ':' :: item.tokens numbers) :: fieldTokens numbers rest
termination_by structural fields => fields

end

end Tokens

section Words

structure IsWord (chars : List Char) : Prop where
  nonempty : chars ≠ []
  solid : ∀ c ∈ chars, isBlank c = false ∧ isMark c = false ∧ c ≠ '"'

theorem isWord_of_all {chars : List Char} (nonempty : chars ≠ [])
    (solid : chars.all (fun c => !isBlank c && !isMark c && c != '"') = true) : IsWord chars := by
  refine ⟨nonempty, fun c member => ?_⟩
  simpa [and_assoc] using List.all_eq_true.mp solid c member

theorem isWord_of_constant {word : String}
    (constant : word ∈ ["null", "true", "false", "NaN", "Infinity", "-Infinity"]) :
    IsWord word.toList := by
  have checked : ∀ word ∈ ["null", "true", "false", "NaN", "Infinity", "-Infinity"],
      word.toList ≠ [] ∧
        word.toList.all (fun c => !isBlank c && !isMark c && c != '"') = true := by
    decide
  obtain ⟨nonempty, solid⟩ := checked word constant
  exact isWord_of_all nonempty solid

def AreNumeric (chars : List Char) : Prop :=
  ∀ c ∈ chars, c.isDigit = true ∨ c ∈ ['-', '+', '.', 'e']

theorem areNumeric_append {first second : List Char} :
    AreNumeric (first ++ second) ↔ AreNumeric first ∧ AreNumeric second := by
  simp only [AreNumeric, List.mem_append, or_imp, forall_and]

theorem areNumeric_cons {c : Char} {rest : List Char} :
    AreNumeric (c :: rest) ↔ (c.isDigit = true ∨ c ∈ ['-', '+', '.', 'e']) ∧ AreNumeric rest :=
  List.forall_mem_cons

theorem AreDigits.areNumeric {chars : List Char} (digits : AreDigits chars) : AreNumeric chars :=
  fun c member => .inl (digits c member)

theorem isWord_of_areNumeric {chars : List Char} (numeric : AreNumeric chars)
    (nonempty : chars ≠ []) : IsWord chars := by
  refine ⟨nonempty, fun c member => ?_⟩
  rcases numeric c member with digit | sign
  · have apart (d : Char) (noDigit : d.isDigit = false) : c ≠ d := by
      rintro rfl
      rw [digit] at noDigit
      cases noDigit
    refine ⟨?_, ?_, apart '"' rfl⟩
    · simp [isBlank, apart ' ' rfl, apart '\n' rfl, apart '\r' rfl, apart '\t' rfl]
    · simp [isMark, apart '[' rfl, apart ']' rfl, apart '\x7b' rfl, apart '\x7d' rfl,
        apart ',' rfl, apart ':' rfl]
  · have signs : IsWord ['-', '+', '.', 'e'] := isWord_of_all (by simp) (by decide)
    exact signs.solid c sign

theorem isWord_int (n : Int) : IsWord (toString n).toList := by
  rw [Int.toString_eq_repr, Int.repr_eq_if]
  split
  · rw [Nat.toList_repr]
    exact isWord_of_areNumeric (areDigits_toDigits _).areNumeric Nat.toDigits_ne_nil
  · rw [String.toList_append, Nat.toList_repr]
    exact isWord_of_areNumeric
      (areNumeric_cons.mpr ⟨.inr (by decide), (areDigits_toDigits _).areNumeric⟩) (by simp)

theorem areNumeric_exponentText (layout : Double.Layout) (exponent : Int) :
    AreNumeric (Double.exponentText layout exponent).toList := by
  have digits : AreNumeric (Text.zeroPadded layout.exponentDigits exponent.natAbs).toList := by
    simp only [Text.zeroPadded, String.toList_ofList]
    exact (areDigits_append.mpr ⟨areDigits_zeros _, areDigits_toDigits _⟩).areNumeric
  rw [Double.exponentText, String.toList_append, areNumeric_append]
  refine ⟨?_, digits⟩
  split <;> simp [AreNumeric]

theorem areNumeric_digitsText (layout : Double.Layout) {digits : List Char}
    (all : AreDigits digits) (first : Int) :
    AreNumeric (Double.digitsText layout digits first) := by
  have part {chars : List Char} (inside : chars ⊆ digits) : AreNumeric chars :=
    fun c member => all.areNumeric c (inside member)
  have zero : ('0' : Char).isDigit = true ∨ '0' ∈ ['-', '+', '.', 'e'] := by decide
  have point : ('.' : Char).isDigit = true ∨ '.' ∈ ['-', '+', '.', 'e'] := by decide
  have zeros (count : Nat) := (areDigits_zeros count).areNumeric
  unfold Double.digitsText
  split
  · split
    · simp only [areNumeric_cons, areNumeric_append]
      exact ⟨zero, point, zeros _, all.areNumeric⟩
    · simp only [areNumeric_append, areNumeric_cons]
      refine ⟨⟨part (List.take_subset _ _), zeros _⟩, point, ?_⟩
      split
      · exact zeros 1
      · exact part (List.drop_subset _ _)
  · cases digits with
    | nil => exact all.areNumeric
    | cons digit rest =>
      obtain ⟨lead, others⟩ := areNumeric_cons.mp all.areNumeric
      simp only [areNumeric_append, areNumeric_cons]
      refine ⟨⟨lead, ?_⟩, areNumeric_exponentText layout first⟩
      split
      · exact zeros 0
      · exact areNumeric_cons.mpr ⟨point, others⟩

theorem isWord_finite (layout : Double.Layout) (negative : Bool) (mantissa : Nat) (exponent : Int) :
    IsWord ((Double.finite negative mantissa exponent).textIn layout).toList := by
  have digits := areNumeric_digitsText layout
    (areDigits_toDigits (Double.shortest mantissa exponent).coefficient)
    ((Double.shortest mantissa exponent).exponent +
      ((Nat.toDigits 10 (Double.shortest mantissa exponent).coefficient).length - 1 : Nat))
  refine isWord_of_areNumeric ?_ fun empty => ?_
  · simp only [Double.textIn, String.toList_ofList]
    cases negative with
    | true => exact areNumeric_cons.mpr ⟨.inr (by decide), digits⟩
    | false => exact digits
  · -- Nothing is read from no characters, but the number is.
    have read := word?_finite layout negative mantissa exponent
    rw [empty] at read
    cases read

end Words

section Lexing

def Lexes (chars : List Char) (new : List Token) : Prop :=
  ∀ tokens, ∃ last, chars.foldlM Lexer.step? ⟨tokens, .word []⟩ = some last ∧
    last.settle? = some (tokens ++ new)

def Settles (chars : List Char) (new : List Token) : Prop :=
  ∀ tokens, chars.foldlM Lexer.step? ⟨tokens, .word []⟩ = some ⟨tokens ++ new, .word []⟩

def Delimits (chars : List Char) : Prop :=
  ∃ c rest, chars = c :: rest ∧ (isBlank c = true ∨ isMark c = true)

variable {first second : List Char} {tokens more : List Token}

theorem foldlM_of_settled {lexer : Lexer} (settled : lexer.settle? = some tokens)
    (delimits : Delimits second) :
    second.foldlM Lexer.step? lexer = second.foldlM Lexer.step? ⟨tokens, .word []⟩ := by
  obtain ⟨c, rest, rfl, ends⟩ := delimits
  obtain ⟨before, inside⟩ := lexer
  cases inside with
  | text => cases settled
  | word chars =>
    cases settled
    -- The first character settles the open word, as the end would.
    have same : Lexer.step? ⟨before, .word chars⟩ c =
        Lexer.step? ⟨Lexer.settled before chars, .word []⟩ c := by
      have again : Lexer.settled (Lexer.settled before chars) [] = Lexer.settled before chars := rfl
      rcases ends with blank | mark
      · simp [Lexer.step?, blank, again]
      · by_cases blank : isBlank c = true
        · simp [Lexer.step?, blank, again]
        · simp [Lexer.step?, blank, mark, again]
    rw [List.foldlM_cons, List.foldlM_cons, same]

theorem Settles.lexes (settles : Settles first tokens) : Lexes first tokens := by
  intro before
  exact ⟨_, settles before, by simp [Lexer.settle?, Lexer.settled]⟩

theorem Settles.nil : Settles [] [] := by
  intro before
  simp

theorem Settles.append (settles : Settles first tokens) (later : Settles second more) :
    Settles (first ++ second) (tokens ++ more) := by
  intro before
  rw [List.foldlM_append, settles before]
  simpa using later (before ++ tokens)

theorem Settles.append_lexes (settles : Settles first tokens) (later : Lexes second more) :
    Lexes (first ++ second) (tokens ++ more) := by
  intro before
  obtain ⟨last, run, settled⟩ := later (before ++ tokens)
  refine ⟨last, ?_, by simpa using settled⟩
  rw [List.foldlM_append, settles before]
  simpa using run

theorem Lexes.append (lexes : Lexes first tokens) (delimits : Delimits second)
    (later : Lexes second more) : Lexes (first ++ second) (tokens ++ more) := by
  intro before
  obtain ⟨middle, run, settled⟩ := lexes before
  obtain ⟨last, rest, done⟩ := later (before ++ tokens)
  refine ⟨last, ?_, by simpa using done⟩
  rw [List.foldlM_append, run, Option.bind_eq_bind, Option.bind_some,
    foldlM_of_settled settled delimits]
  exact rest

theorem Lexes.append_settles (lexes : Lexes first tokens) (delimits : Delimits second)
    (later : Settles second more) : Settles (first ++ second) (tokens ++ more) := by
  intro before
  obtain ⟨middle, run, settled⟩ := lexes before
  rw [List.foldlM_append, run, Option.bind_eq_bind, Option.bind_some,
    foldlM_of_settled settled delimits, later (before ++ tokens), List.append_assoc]

theorem settles_blanks {blanks : List Char} (all : ∀ c ∈ blanks, isBlank c = true) :
    Settles blanks [] := by
  intro before
  induction blanks with
  | nil => simp
  | cons c rest ih =>
    obtain ⟨blank, others⟩ := List.forall_mem_cons.mp all
    rw [List.foldlM_cons]
    simpa [Lexer.step?, blank, Lexer.settled] using ih others

theorem not_isBlank_of_isMark {c : Char} (mark : isMark c = true) : isBlank c = false := by
  simp only [isMark, Bool.or_eq_true, beq_iff_eq, or_assoc] at mark
  rcases mark with rfl | rfl | rfl | rfl | rfl | rfl <;> decide

theorem settles_mark {c : Char} (mark : isMark c = true) : Settles [c] [.mark c] := by
  intro before
  simp [Lexer.step?, not_isBlank_of_isMark mark, mark, Lexer.settled]

theorem lexes_word {chars : List Char} (word : IsWord chars) : Lexes chars [.word chars] := by
  have grows (before : List Token) (taken rest : List Char)
      (solid : ∀ c ∈ rest, isBlank c = false ∧ isMark c = false ∧ c ≠ '"') :
      rest.foldlM Lexer.step? ⟨before, .word taken⟩ = some ⟨before, .word (taken ++ rest)⟩ := by
    induction rest generalizing taken with
    | nil => simp
    | cons c rest ih =>
      obtain ⟨⟨blank, mark, quote⟩, others⟩ := List.forall_mem_cons.mp solid
      rw [List.foldlM_cons]
      simpa [Lexer.step?, blank, mark, quote] using ih (taken ++ [c]) others
  intro before
  refine ⟨_, grows before [] chars word.solid, ?_⟩
  simp [Lexer.settle?, Lexer.settled, word.nonempty]

theorem settles_text (style : Style) (text : String) :
    Settles (textChars style text) [.text text] := by
  intro before
  have inside := flatMap_stayInside style.ascii text.toList before []
  have opened : Lexer.step? ⟨before, .word []⟩ '"' = some ⟨before, .text false []⟩ := rfl
  rw [textChars, List.foldlM_cons, opened, Option.bind_eq_bind, Option.bind_some,
    List.foldlM_append, inside]
  simp [Lexer.step?, quoted?_escaped]

end Lexing

def Separates (mark : Char) (chars : List Char) : Prop :=
  ∃ blanks, chars = mark :: blanks ∧ ∀ c ∈ blanks, isBlank c = true

theorem Separates.settles {mark : Char} {chars : List Char} (separates : Separates mark chars)
    (isOne : isMark mark = true) : Settles chars [.mark mark] := by
  obtain ⟨blanks, rfl, all⟩ := separates
  exact (settles_mark isOne).append (settles_blanks all)

theorem Separates.delimits {mark : Char} {chars : List Char} (separates : Separates mark chars)
    (isOne : isMark mark = true) (rest : List Char) : Delimits (chars ++ rest) := by
  obtain ⟨blanks, rfl, -⟩ := separates
  exact ⟨mark, blanks ++ rest, rfl, .inr isOne⟩

structure Style.Plain (style : Style) : Prop where
  items : Separates ',' style.itemSeparator
  keys : Separates ':' style.keySeparator
  lines : ∀ unit, style.indent = some unit → ∀ c ∈ unit, isBlank c = true
  numbers : ∀ x : Double, IsWord (x.textIn style.numbers).toList

section Styles

theorem isWord_textIn {layout : Double.Layout} (x : Double)
    (words : ∀ word ∈ [layout.infinity, layout.minusInfinity, layout.notANumber],
      IsWord word.toList) : IsWord (x.textIn layout).toList := by
  cases x with
  | finite negative mantissa exponent => exact isWord_finite layout negative mantissa exponent
  | infinite negative => cases negative <;> exact words _ (by simp [Double.textIn])
  | notANumber => exact words _ (by simp [Double.textIn])

theorem isWord_wideNumbers (x : Double) : IsWord (x.textIn Style.wideNumbers).toList :=
  isWord_textIn x fun word named => isWord_of_constant (by
    simp only [Style.wideNumbers, List.mem_cons, List.not_mem_nil, or_false] at named
    rcases named with rfl | rfl | rfl <;> simp)

theorem Style.compact_plain : Style.compact.Plain where
  items := ⟨[], rfl, by simp⟩
  keys := ⟨[], rfl, by simp⟩
  lines := by simp [Style.compact]
  numbers x := isWord_textIn x fun word named =>
    isWord_of_constant (by simp [Style.compact] at named; simp [named])

theorem Style.spaced_plain : Style.spaced.Plain where
  items := ⟨[' '], rfl, by simp [isBlank]⟩
  keys := ⟨[' '], rfl, by simp [isBlank]⟩
  lines := by simp [Style.spaced]
  numbers := isWord_wideNumbers

theorem Style.indented_plain {unit : String} (blank : ∀ c ∈ unit.toList, isBlank c = true) :
    (Style.indented unit).Plain where
  items := ⟨[], rfl, by simp⟩
  keys := ⟨[' '], rfl, by simp [isBlank]⟩
  lines shown given := by
    cases given
    exact blank
  numbers := isWord_wideNumbers

end Styles

section Lines

variable {style : Style} (plain : style.Plain) (level : Nat)

include plain

theorem settles_newLine : Settles (newLine style level) [] := by
  unfold newLine
  split
  · next unit given =>
    refine settles_blanks (List.forall_mem_cons.mpr ⟨by decide, fun c member => ?_⟩)
    obtain ⟨part, repeated, inside⟩ := List.mem_flatten.mp member
    exact plain.lines unit given c (List.eq_of_mem_replicate repeated ▸ inside)
  · exact .nil

omit plain in
theorem delimits_close {last : Char} (mark : isMark last = true) :
    Delimits (newLine style level ++ [last]) := by
  unfold newLine
  split
  · exact ⟨'\n', _, rfl, .inl (by decide)⟩
  · exact ⟨last, [], rfl, .inr mark⟩

theorem lexes_items {items : List (List Char)} {tokens : List (List Token)}
    (each : List.Forall₂ Lexes items tokens) (some : items ≠ []) :
    Lexes ((items.map (newLine style level ++ ·)).intersperse style.itemSeparator).flatten
      (separated tokens) := by
  induction each with
  | nil => exact absurd rfl some
  | @cons item own items others first rest ih =>
    have line := (settles_newLine plain level).append_lexes first
    cases rest with
    | nil => simpa [separated] using line
    | cons second later =>
      -- The comma ends a word at the end of the first item.
      have comma : isMark ',' = true := by decide
      have after := (plain.items.settles comma).append_lexes (ih (by simp))
      simpa [separated] using line.append (plain.items.delimits comma _) after

theorem settles_bracketed {items : List (List Char)} {tokens : List (List Token)}
    (each : List.Forall₂ Lexes items tokens) {first last : Char} (opens : isMark first = true)
    (closes : isMark last = true) :
    Settles (bracketed style level first last items)
      (.mark first :: (separated tokens ++ [.mark last])) := by
  have opening := settles_mark opens
  have closing := (settles_newLine plain level).append (settles_mark closes)
  unfold bracketed
  split
  · next none =>
    rw [List.isEmpty_iff] at none
    subst none
    cases each
    exact opening.append (settles_mark closes)
  · next some =>
    have inside := lexes_items plain (level + 1) each (by simpa using some)
    have rest := inside.append_settles (delimits_close level closes) closing
    simpa using opening.append rest

end Lines

section Trees

variable {style : Style}

mutual

theorem Tree.lexes_chars (plain : style.Plain) : ∀ (tree : Tree) (level : Nat),
    Lexes (tree.chars style level) (tree.tokens style.numbers)
  | .null, level => lexes_word (isWord_of_constant (by simp))
  | .flag true, level => lexes_word (isWord_of_constant (by simp))
  | .flag false, level => lexes_word (isWord_of_constant (by simp))
  | .whole number, level => lexes_word (isWord_int number)
  | .number value, level => lexes_word (plain.numbers value)
  | .text text, level => (settles_text style text).lexes
  | .array items, level =>
    (settles_bracketed plain level (lexes_itemChars plain items (level + 1)) (by decide)
      (by decide)).lexes
  | .object fields, level =>
    (settles_bracketed plain level (lexes_fieldChars plain fields (level + 1)) (by decide)
      (by decide)).lexes

theorem lexes_itemChars (plain : style.Plain) : ∀ (items : List Tree) (level : Nat),
    List.Forall₂ Lexes (itemChars style level items) (itemTokens style.numbers items)
  | [], _ => .nil
  | item :: rest, level => .cons (item.lexes_chars plain level) (lexes_itemChars plain rest level)

theorem lexes_fieldChars (plain : style.Plain) : ∀ (fields : List (String × Tree)) (level : Nat),
    List.Forall₂ Lexes (fieldChars style level fields) (fieldTokens style.numbers fields)
  | [], _ => .nil
  | (key, item) :: rest, level => by
    have name := (settles_text style key).append (plain.keys.settles (by decide))
    have field := name.append_lexes (item.lexes_chars plain level)
    exact .cons (by simpa using field) (lexes_fieldChars plain rest level)

end

theorem tokens?_write (plain : style.Plain) (tree : Tree) :
    tokens? (tree.write style).toList = some (tree.tokens style.numbers) := by
  obtain ⟨last, run, settled⟩ := tree.lexes_chars plain 0 []
  simp [tokens?, Tree.write, run, settled]

end Trees

end FormCompiler.Json
