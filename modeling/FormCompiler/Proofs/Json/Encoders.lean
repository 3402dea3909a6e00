import FormCompiler.Proofs.Json.Decoded
import FormCompiler.Proofs.Json.Exportable

set_option autoImplicit false

namespace FormCompiler

def Double.isFinite : Double → Bool
  | .finite .. => true
  | .infinite _ | .notANumber _ => false

namespace Value

mutual

def leaves : Value → List Value
  | .list items => leavesIn items
  | .tuple items => leavesIn items
  | .set items => leavesIn items
  | .map entries => leavesUnder entries
  | leaf => [leaf]
termination_by structural value => value

def leavesIn : List Value → List Value
  | [] => []
  | item :: rest => leaves item ++ leavesIn rest
termination_by structural items => items

def leavesUnder : List (Value × Value) → List Value
  | [] => []
  | (_, item) :: rest => leaves item ++ leavesUnder rest
termination_by structural entries => entries

end

def IsDecimal (leaf : Value) : Prop :=
  ∀ x, leaf = .float x → x.isFinite = true

def IsShared (leaf : Value) : Prop :=
  leaf.IsDecimal ∧ ∀ time, leaf ≠ .dateTime time

end Value

namespace Json

open Reader

section Inversion

variable {oneLine : Bool}

theorem map_ok {α β : Type} {attempt : Except ExportFault α} {change : α → β} {result : β}
    (done : attempt.map change = .ok result) :
    ∃ found, attempt = .ok found ∧ change found = result := by
  cases attempt with
  | error fault => cases done
  | ok found =>
    cases done
    exact ⟨found, rfl, rfl⟩

theorem wideItems_cons {item : Value} {rest : List Value} {trees : List Tree}
    (done : wideItems oneLine (item :: rest) = .ok trees) :
    ∃ first others, wide oneLine item = .ok first ∧ wideItems oneLine rest = .ok others ∧
      trees = first :: others := by
  rw [wideItems] at done
  cases one : wide oneLine item with
  | error fault =>
    rw [one] at done
    cases done
  | ok first =>
    rw [one] at done
    obtain ⟨others, more, same⟩ := map_ok done
    exact ⟨first, others, rfl, more, same.symm⟩

theorem wideFields_cons {key item : Value} {rest : List (Value × Value)}
    {fields : List (String × Tree)}
    (done : wideFields oneLine ((key, item) :: rest) = .ok fields) :
    ∃ name first others, keyText oneLine key = .ok name ∧ wide oneLine item = .ok first ∧
      wideFields oneLine rest = .ok others ∧ fields = (name, first) :: others := by
  rw [wideFields] at done
  cases named : keyText oneLine key with
  | error fault =>
    rw [named] at done
    cases done
  | ok name =>
    cases one : wide oneLine item with
    | error fault =>
      rw [named, one] at done
      cases done
    | ok first =>
      rw [named, one] at done
      obtain ⟨others, more, same⟩ := map_ok done
      exact ⟨name, first, others, rfl, rfl, more, same.symm⟩

end Inversion

section Wide

mutual

theorem wide_ok_of_ok {first : Bool} (second : Bool) :
    ∀ {value : Value} {tree : Tree}, wide first value = .ok tree → wide second value = .ok tree
  | .list _, _, done | .tuple _, _, done | .set _, _, done => by
    obtain ⟨trees, inner, rfl⟩ := map_ok done
    rw [wide, wideItems_ok_of_ok second inner]
    rfl
  | .map _, _, done => by
    obtain ⟨fields, inner, rfl⟩ := map_ok done
    rw [wide, wideFields_ok_of_ok second inner]
    rfl
  | .null, _, done | .bool _, _, done | .int _, _, done | .float _, _, done | .text _, _, done
  | .bytes _, _, done | .date _, _, done | .dateTime _, _, done | .handler _, _, done => done

theorem wideItems_ok_of_ok {first : Bool} (second : Bool) :
    ∀ {items : List Value} {trees : List Tree},
      wideItems first items = .ok trees → wideItems second items = .ok trees
  | [], _, done => done
  | item :: rest, _, done => by
    obtain ⟨tree, others, one, more, rfl⟩ := wideItems_cons done
    rw [wideItems, wide_ok_of_ok second one, wideItems_ok_of_ok second more]
    rfl

theorem wideFields_ok_of_ok {first : Bool} (second : Bool) :
    ∀ {entries : List (Value × Value)} {fields : List (String × Tree)},
      wideFields first entries = .ok fields → wideFields second entries = .ok fields
  | [], _, done => done
  | (key, item) :: rest, _, done => by
    obtain ⟨name, tree, others, named, one, more, rfl⟩ := wideFields_cons done
    have same : keyText second key = .ok name := by
      cases key <;> first | exact named | cases named
    rw [wideFields, same, wide_ok_of_ok second one, wideFields_ok_of_ok second more]
    rfl

end

theorem isSome_word?_wide (x : Double) :
    (word? (x.textIn Style.wideNumbers).toList).isSome = x.isFinite := by
  cases x with
  | finite negative mantissa exponent => rw [word?_finite]; rfl
  | infinite negative => cases negative <;> decide
  | notANumber =>
    have noWord : (word? "NaN".toList).isSome = false := by decide
    exact noWord

theorem word?_wide_eq_none {x : Double} (endless : x.isFinite = false) :
    word? (x.textIn Style.wideNumbers).toList = none := by
  simpa [endless] using isSome_word?_wide x

theorem content?_ofHandler (target : Handler) :
    ∃ content, ∀ numbers, (ofHandler target).content? numbers = some content := by
  obtain ⟨event, componentType, componentName, formName⟩ := target
  cases componentName <;> cases formName <;> exact ⟨_, fun _ => rfl⟩

theorem isSome_both {α β γ : Type} (first : Option α) (rest : Option β) (join : α → β → γ) :
    (do let item ← first; let items ← rest; return join item items).isSome = true ↔
      first.isSome = true ∧ rest.isSome = true := by
  cases first <;> cases rest <;> simp

mutual

theorem wide_isSome_iff {oneLine : Bool} :
    ∀ {value : Value} {tree : Tree}, wide oneLine value = .ok tree →
      ((tree.content? Style.wideNumbers).isSome ↔ ∀ leaf ∈ value.leaves, leaf.IsDecimal)
  | .list _, _, done | .tuple _, _, done | .set _, _, done => by
    obtain ⟨trees, inner, rfl⟩ := map_ok done
    rw [Tree.content?, Option.isSome_map]
    exact wideItems_isSome_iff inner
  | .map _, _, done => by
    obtain ⟨fields, inner, rfl⟩ := map_ok done
    rw [Tree.content?, Option.isSome_map]
    exact wideFields_isSome_iff inner
  | .float x, _, done => by
    cases done
    rw [Tree.content?, isSome_word?_wide]
    simp [Value.leaves, Value.IsDecimal]
  | .handler target, _, done => by
    cases done
    obtain ⟨content, said⟩ := content?_ofHandler target
    simp [said, Value.leaves, Value.IsDecimal]
  | .null, _, done | .bool _, _, done | .int _, _, done | .text _, _, done
  | .bytes _, _, done | .date _, _, done | .dateTime _, _, done => by
    cases done
    simp [Tree.content?, Value.leaves, Value.IsDecimal]

theorem wideItems_isSome_iff {oneLine : Bool} :
    ∀ {items : List Value} {trees : List Tree}, wideItems oneLine items = .ok trees →
      ((itemContents? Style.wideNumbers trees).isSome ↔
        ∀ leaf ∈ Value.leavesIn items, leaf.IsDecimal)
  | [], _, done => by
    cases done
    simp [itemContents?, Value.leavesIn]
  | item :: rest, _, done => by
    obtain ⟨tree, others, one, more, rfl⟩ := wideItems_cons done
    rw [Value.leavesIn, List.forall_mem_append, ← wide_isSome_iff one,
      ← wideItems_isSome_iff more]
    exact isSome_both _ _ _

theorem wideFields_isSome_iff {oneLine : Bool} :
    ∀ {entries : List (Value × Value)} {fields : List (String × Tree)},
      wideFields oneLine entries = .ok fields →
      ((fieldContents? Style.wideNumbers fields).isSome ↔
        ∀ leaf ∈ Value.leavesUnder entries, leaf.IsDecimal)
  | [], _, done => by
    cases done
    simp [fieldContents?, Value.leavesUnder]
  | (key, item) :: rest, _, done => by
    obtain ⟨name, tree, others, -, one, more, rfl⟩ := wideFields_cons done
    rw [Value.leavesUnder, List.forall_mem_append, ← wide_isSome_iff one,
      ← wideFields_isSome_iff more]
    exact isSome_both _ _ _

end

end Wide

section Compact

def SameIff {α : Type} (first second : Option α) (condition : Prop) : Prop :=
  ∃ found, first = some found ∧ (second = some found ↔ condition)

namespace SameIff

variable {α β γ : Type} {first second : Option α} {condition : Prop}

theorem same {found : α} (always : condition) : SameIff (some found) (some found) condition :=
  ⟨found, rfl, by simp [always]⟩

theorem map (same : SameIff first second condition) {change : α → β}
    (injective : Function.Injective change) :
    SameIff (first.map change) (second.map change) condition := by
  obtain ⟨found, rfl, iff⟩ := same
  exact ⟨change found, rfl, by rw [← iff, ← Option.map_some, (Option.map_injective injective).eq_iff]⟩

theorem both {others more : Option β} {further : Prop} (same : SameIff first second condition)
    (rest : SameIff others more further) {join : α → β → γ} (injective : Function.Injective2 join) :
    SameIff (do let item ← first; let items ← others; return join item items)
      (do let item ← second; let items ← more; return join item items)
      (condition ∧ further) := by
  obtain ⟨found, rfl, iff⟩ := same
  obtain ⟨items, rfl, itemsIff⟩ := rest
  refine ⟨join found items, rfl, ?_⟩
  rw [← iff, ← itemsIff]
  cases second <;> cases more <;> simp [injective.eq_iff]

end SameIff

theorem text_ne_roundedText (time : DateTime) : time.text ≠ time.roundedText := by
  intro same
  have chars := congrArg String.toList same
  simp [DateTime.text, DateTime.textWith, DateTime.roundedText, DateTime.localText] at chars

mutual

theorem compact_sameIff {levels : Nat} {oneLine : Bool} :
    ∀ {value : Value} {tree other : Tree}, compact? levels value = some tree →
      wide oneLine value = .ok other →
        SameIff (tree.content? Style.compact.numbers) (other.content? Style.wideNumbers)
          (∀ leaf ∈ value.leaves, leaf.IsShared)
  | .list _, _, _, given, done | .set _, _, _, given, done => by
    simp only [compact?] at given
    split at given
    · cases given
    · obtain ⟨trees, inner, rfl⟩ := Option.map_eq_some_iff.mp given
      obtain ⟨others, outer, rfl⟩ := map_ok done
      exact (compactItems_sameIff inner outer).map fun _ _ => Content.array.inj
  | .tuple _, _, _, given, done => by
    obtain ⟨trees, inner, rfl⟩ := Option.map_eq_some_iff.mp given
    obtain ⟨others, outer, rfl⟩ := map_ok done
    exact (compactItems_sameIff inner outer).map fun _ _ => Content.array.inj
  | .map _, _, _, given, done => by
    simp only [compact?] at given
    split at given
    · cases given
    · obtain ⟨fields, inner, rfl⟩ := Option.map_eq_some_iff.mp given
      obtain ⟨others, outer, rfl⟩ := map_ok done
      exact (compactFields_sameIff inner outer).map fun _ _ => Content.object.inj
  | .float (.finite negative mantissa exponent), _, _, given, done => by
    cases given
    cases done
    rw [Tree.content?, Tree.content?, word?_finite, word?_finite]
    exact .same (by simp [Value.leaves, Value.IsShared, Value.IsDecimal, Double.isFinite])
  | .float (.infinite _), _, _, given, done | .float (.notANumber _), _, _, given, done => by
    -- The compact form has a null here, and the wide form a word.
    cases given
    cases done
    refine ⟨_, rfl, ?_⟩
    rw [Tree.content?, word?_wide_eq_none (by rfl)]
    simp [Value.leaves, Value.IsShared, Value.IsDecimal, Double.isFinite]
  | .int _, _, _, given, done => by
    simp only [compact?] at given
    split at given
    · cases given
      cases done
      exact .same (by simp [Value.leaves, Value.IsShared, Value.IsDecimal])
    · cases given
  | .handler target, _, _, given, done => by
    cases done
    simp only [compact?] at given
    split at given
    · cases given
    · cases given
      obtain ⟨content, said⟩ := content?_ofHandler target
      rw [said, said]
      exact .same (by simp [Value.leaves, Value.IsShared, Value.IsDecimal])
  | .dateTime time, _, _, given, done => by
    cases given
    cases done
    refine ⟨_, rfl, ?_⟩
    simp [Tree.content?, text_ne_roundedText, Value.leaves, Value.IsShared]
  | .null, _, _, given, done | .bool _, _, _, given, done | .text _, _, _, given, done
  | .bytes _, _, _, given, done | .date _, _, _, given, done => by
    cases given
    cases done
    exact .same (by simp [Value.leaves, Value.IsShared, Value.IsDecimal])

theorem compactItems_sameIff {levels : Nat} {oneLine : Bool} :
    ∀ {items : List Value} {trees others : List Tree}, compactItems? levels items = some trees →
      wideItems oneLine items = .ok others →
        SameIff (itemContents? Style.compact.numbers trees)
          (itemContents? Style.wideNumbers others) (∀ leaf ∈ Value.leavesIn items, leaf.IsShared)
  | [], _, _, given, done => by
    cases given
    cases done
    exact .same (by simp [Value.leavesIn])
  | item :: rest, _, _, given, done => by
    simp only [compactItems?, bind, Option.bind_eq_some_iff] at given
    obtain ⟨tree, first, trees, others, same⟩ := given
    cases same
    obtain ⟨other, more, one, beyond, rfl⟩ := wideItems_cons done
    rw [Value.leavesIn, List.forall_mem_append]
    exact (compact_sameIff first one).both (compactItems_sameIff others beyond)
      fun _ _ _ _ => List.cons.inj

theorem compactFields_sameIff {levels : Nat} {oneLine : Bool} :
    ∀ {entries : List (Value × Value)} {fields others : List (String × Tree)},
      compactFields? levels entries = some fields → wideFields oneLine entries = .ok others →
        SameIff (fieldContents? Style.compact.numbers fields)
          (fieldContents? Style.wideNumbers others)
          (∀ leaf ∈ Value.leavesUnder entries, leaf.IsShared)
  | [], _, _, given, done => by
    cases given
    cases done
    exact .same (by simp [Value.leavesUnder])
  | (key, item) :: rest, _, _, given, done => by
    cases key with
    | text name =>
      simp only [compactFields?, bind, Option.bind_eq_some_iff] at given
      obtain ⟨tree, first, fields, others, same⟩ := given
      cases same
      obtain ⟨shown, other, more, named, one, beyond, rfl⟩ := wideFields_cons done
      cases named
      rw [Value.leavesUnder, List.forall_mem_append]
      refine (compact_sameIff first one).both (compactFields_sameIff others beyond)
        fun _ _ _ _ same => ?_
      obtain ⟨sameField, sameFields⟩ := List.cons.inj same
      exact ⟨(Prod.mk.inj sameField).2, sameFields⟩
    | _ => cases given

end

end Compact

section Agreement

theorem forall_isDecimal_iff {leaves : List Value} :
    (∀ leaf ∈ leaves, leaf.IsDecimal) ↔ ∀ x, .float x ∈ leaves → x.isFinite = true := by
  constructor
  · exact fun decimal x member => decimal _ member x rfl
  · intro finite leaf member x same
    exact finite x (same ▸ member)

theorem forall_isShared_iff {leaves : List Value} :
    (∀ leaf ∈ leaves, leaf.IsShared) ↔
      (∀ x, .float x ∈ leaves → x.isFinite = true) ∧ ∀ time, .dateTime time ∉ leaves := by
  simp only [Value.IsShared]
  rw [← forall_isDecimal_iff]
  constructor
  · intro shared
    exact ⟨fun leaf member => (shared leaf member).1,
      fun time member => (shared _ member).2 time rfl⟩
  · rintro ⟨decimal, timeless⟩ leaf member
    exact ⟨decimal leaf member, fun time same => timeless time (same ▸ member)⟩

theorem read?_write_indented (n : Int) (tree : Tree) :
    read? (tree.write (.indented (String.ofList (List.replicate n.toNat ' ')))) =
      tree.content? Style.wideNumbers := by
  refine read?_write (Style.indented_plain fun c member => ?_) tree
  rw [String.toList_ofList] at member
  rw [List.eq_of_mem_replicate member]
  rfl

/-- The text on one line and the text with lines are JSON for the same value exactly if every number
is finite and no date-time stands in a value that has a compact form. With no blanks to indent by
there are no lines. -/
theorem encoders_agree_iff {value : Value} {text : String} (n : Int)
    (written : value.toJson = .ok text) :
    ∃ lines, value.toJsonBy (.int n) = .ok lines ∧
      ((∃ content, read? text = some content ∧ read? lines = some content) ↔
        (n = 0 ∧ (compact? compactLevels value).isSome) ∨
        ((∀ x, .float x ∈ value.leaves → x.isFinite) ∧
          ((∀ time, .dateTime time ∉ value.leaves) ∨ compact? compactLevels value = none))) := by
  have keys := (toJson_failsFor value none).isOk_iff.mp ⟨text, written⟩
  obtain ⟨tree, wideTrue⟩ := (wide_failsFor true value).isOk_iff.mpr keys
  have decimal := (wide_isSome_iff wideTrue).trans forall_isDecimal_iff
  -- Without blanks to indent by, the second text is the first one.
  have lined : ∃ lines, value.toJsonBy (.int n) = .ok lines ∧
      read? lines = if n = 0 then read? text else tree.content? Style.wideNumbers := by
    by_cases none : n = 0
    · exact ⟨text, by simpa [Value.toJsonBy, indentUnit, none] using written, by simp [none]⟩
    · refine ⟨tree.write (.indented (String.ofList (List.replicate n.toNat ' '))), ?_, ?_⟩
      · simp [Value.toJsonBy, indentUnit, none, Value.toJson, wide_ok_of_ok false wideTrue,
          Except.map]
      · rw [read?_write_indented, if_neg none]
  obtain ⟨lines, given, readLines⟩ := lined
  refine ⟨lines, given, ?_⟩
  rw [readLines]
  cases compacted : compact? compactLevels value with
  | none =>
    have readText : read? text = tree.content? Style.wideNumbers := by
      simp only [Value.toJson, compacted, wideTrue] at written
      cases written
      exact read?_write Style.spaced_plain tree
    rw [readText, ← decimal]
    simp [Option.isSome_iff_exists]
  | some compactTree =>
    have readText : read? text = compactTree.content? Style.compact.numbers := by
      simp only [Value.toJson, compacted] at written
      cases written
      exact read?_write Style.compact_plain compactTree
    obtain ⟨content, said, shared⟩ := compact_sameIff compacted wideTrue
    rw [readText, said]
    by_cases none : n = 0
    · simp [none]
    · rw [forall_isShared_iff] at shared
      simp [none, shared]

theorem encoders_agree_notANumber :
    (Value.float (.notANumber 0)).toJson = .ok "null" ∧
      ∃ lines, (Value.float (.notANumber 0)).toJsonBy (.int 2) = .ok lines ∧
        ¬∃ content, read? "null" = some content ∧ read? lines = some content := by
  have written : (Value.float (.notANumber 0)).toJson = .ok "null" := rfl
  obtain ⟨lines, given, agree⟩ := encoders_agree_iff 2 written
  refine ⟨written, lines, given, fun both => ?_⟩
  rcases agree.mp both with ⟨zero, -⟩ | ⟨finite, -⟩
  · cases zero
  · exact absurd (finite _ (List.mem_singleton.mpr rfl)) (by decide)

end Agreement

end Json

end FormCompiler
