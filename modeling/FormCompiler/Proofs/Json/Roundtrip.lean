import FormCompiler.Proofs.Json.Encoders

set_option autoImplicit false

namespace FormCompiler

inductive Value.IsData : Value → Prop where
  | null : IsData .null
  | bool (flag : Bool) : IsData (.bool flag)
  | int (number : Int) : IsData (.int number)
  | text (chars : String) : IsData (.text chars)
  | list {items : List Value} (each : ∀ item ∈ items, IsData item) : IsData (.list items)
  | bag {fields : Bag} (distinct : (Entries.keys fields).Nodup)
    (each : ∀ field ∈ fields, IsData field.2) : IsData (.ofBag fields)

namespace Json

mutual

-- The value that a reader makes of a content. Every number that is not whole becomes the nearest
-- floating point number, and of equal keys the last one counts.
def Content.value : Content → Value
  | .null => .null
  | .flag flag => .bool flag
  | .whole number => .int number
  | .decimal negative size => .float (Double.ofRatio negative size.num.natAbs size.den)
  | .text chars => .text chars
  | .array items => .list (itemValues items)
  | .object fields => .ofBag (Entries.ofList (fieldValues fields))
termination_by structural content => content

def itemValues : List Content → List Value
  | [] => []
  | item :: rest => item.value :: itemValues rest
termination_by structural items => items

def fieldValues : List (String × Content) → List (String × Value)
  | [] => []
  | (key, item) :: rest => (key, item.value) :: fieldValues rest
termination_by structural fields => fields

end

def decode? (text : String) : Option Value :=
  (read? text).map Content.value

section Trees

-- The one tree of a value, whichever form it is asked for in, and what every layout of numbers lets
-- it say.
structure Shows (value : Value) (tree : Tree) : Prop where
  inWide : ∀ oneLine, wide oneLine value = .ok tree
  inCompact : ∀ levels found, compact? levels value = some found → found = tree
  content : ∀ numbers, ∃ content, tree.content? numbers = some content ∧ content.value = value

theorem Shows.exists_all {α : Type} (value : α → Value) {items : List α}
    (each : ∀ item ∈ items, ∃ tree, Shows (value item) tree) :
    ∃ trees, List.Forall₂ (fun item tree => Shows (value item) tree) items trees := by
  induction items with
  | nil => exact ⟨[], .nil⟩
  | cons item rest ih =>
    obtain ⟨tree, first⟩ := each item List.mem_cons_self
    obtain ⟨trees, others⟩ := ih fun other member => each other (List.mem_cons_of_mem _ member)
    exact ⟨tree :: trees, .cons first others⟩

section Items

variable {items : List Value} {trees : List Tree}

theorem wideItems_of_shows (each : List.Forall₂ Shows items trees) (oneLine : Bool) :
    wideItems oneLine items = .ok trees := by
  induction each with
  | nil => rfl
  | cons first _ ih =>
    rw [wideItems, first.inWide, ih]
    rfl

theorem compactItems?_of_shows (each : List.Forall₂ Shows items trees) {levels : Nat}
    {found : List Tree} (given : compactItems? levels items = some found) : found = trees := by
  induction each generalizing found with
  | nil =>
    cases given
    rfl
  | cons first _ ih =>
    simp only [compactItems?, bind, Option.bind_eq_some_iff] at given
    obtain ⟨tree, one, others, more, same⟩ := given
    cases same
    rw [first.inCompact _ _ one, ih more]

theorem itemContents?_of_shows (each : List.Forall₂ Shows items trees) (numbers : Double.Layout) :
    ∃ contents, itemContents? numbers trees = some contents ∧ itemValues contents = items := by
  induction each with
  | nil => exact ⟨[], rfl, rfl⟩
  | cons first _ ih =>
    obtain ⟨content, said, same⟩ := first.content numbers
    obtain ⟨contents, others, sameItems⟩ := ih
    refine ⟨content :: contents, ?_, ?_⟩
    · rw [itemContents?, said, others]
      rfl
    · rw [itemValues, same, sameItems]

theorem Shows.list (each : List.Forall₂ Shows items trees) : Shows (.list items) (.array trees) := by
  constructor
  · intro oneLine
    rw [Json.wide, wideItems_of_shows each]
    rfl
  · intro levels found given
    simp only [compact?] at given
    split at given
    · cases given
    · obtain ⟨inner, shown, rfl⟩ := Option.map_eq_some_iff.mp given
      rw [compactItems?_of_shows each shown]
  · intro numbers
    obtain ⟨contents, said, same⟩ := itemContents?_of_shows each numbers
    exact ⟨.array contents, by rw [Tree.content?, said]; rfl, by rw [Content.value, same]⟩

end Items

section Fields

variable {fields : Bag} {trees : List Tree}

def fieldTrees (fields : Bag) (trees : List Tree) : List (String × Tree) :=
  (Entries.keys fields).zip trees

theorem wideFields_of_shows
    (each : List.Forall₂ (fun field tree => Shows field.2 tree) fields trees) (oneLine : Bool) :
    wideFields oneLine fields.toProps = .ok (fieldTrees fields trees) := by
  induction each with
  | nil => rfl
  | @cons field tree rest more first _ ih =>
    change wideFields oneLine ((.text field.1, field.2) :: Bag.toProps rest) = _
    rw [wideFields, first.inWide, ih]
    rfl

theorem compactFields?_of_shows
    (each : List.Forall₂ (fun field tree => Shows field.2 tree) fields trees) {levels : Nat}
    {found : List (String × Tree)} (given : compactFields? levels fields.toProps = some found) :
    found = fieldTrees fields trees := by
  induction each generalizing found with
  | nil =>
    cases given
    rfl
  | @cons field tree rest more first _ ih =>
    change compactFields? levels ((.text field.1, field.2) :: Bag.toProps rest) = _ at given
    simp only [compactFields?, bind, Option.bind_eq_some_iff] at given
    obtain ⟨own, one, others, beyond, same⟩ := given
    cases same
    rw [first.inCompact _ _ one, ih beyond]
    rfl

theorem fieldContents?_of_shows
    (each : List.Forall₂ (fun field tree => Shows field.2 tree) fields trees)
    (numbers : Double.Layout) :
    ∃ contents, fieldContents? numbers (fieldTrees fields trees) = some contents ∧
      fieldValues contents = fields := by
  induction each with
  | nil => exact ⟨[], rfl, rfl⟩
  | @cons field tree rest more first _ ih =>
    obtain ⟨content, said, same⟩ := first.content numbers
    obtain ⟨contents, others, sameFields⟩ := ih
    refine ⟨(field.1, content) :: contents, ?_, ?_⟩
    · change fieldContents? numbers ((field.1, tree) :: fieldTrees rest more) = _
      rw [fieldContents?, said, others]
      rfl
    · rw [fieldValues, same, sameFields]

theorem Shows.bag (distinct : (Entries.keys fields).Nodup)
    (each : List.Forall₂ (fun field tree => Shows field.2 tree) fields trees) :
    Shows (.ofBag fields) (.object (fieldTrees fields trees)) := by
  constructor
  · intro oneLine
    rw [Value.ofBag, Json.wide, wideFields_of_shows each]
    rfl
  · intro levels found given
    simp only [Value.ofBag, compact?] at given
    split at given
    · cases given
    · obtain ⟨inner, shown, rfl⟩ := Option.map_eq_some_iff.mp given
      rw [compactFields?_of_shows each shown]
  · intro numbers
    obtain ⟨contents, said, same⟩ := fieldContents?_of_shows each numbers
    refine ⟨.object contents, by rw [Tree.content?, said]; rfl, ?_⟩
    -- No key stands twice, so none of the fields that were read replaces another one.
    rw [Content.value, same, Entries.ofList_of_nodup distinct]

end Fields

theorem Shows.leaf {value : Value} {tree : Tree} {content : Content}
    (widely : ∀ oneLine, wide oneLine value = .ok tree)
    (compactly : ∀ levels, compact? levels value = some tree ∨ compact? levels value = none)
    (said : ∀ numbers, tree.content? numbers = some content) (same : content.value = value) :
    Shows value tree := by
  refine ⟨widely, fun levels found given => ?_, fun numbers => ⟨content, said numbers, same⟩⟩
  rcases compactly levels with one | none
  · rw [one] at given
    exact (Option.some.inj given).symm
  · rw [none] at given
    cases given

theorem shows_of_isData {value : Value} (data : value.IsData) : ∃ tree, Shows value tree := by
  induction data with
  | null => exact ⟨.null, .leaf (fun _ => rfl) (fun _ => .inl rfl) (fun _ => rfl) rfl⟩
  | bool flag => exact ⟨.flag flag, .leaf (fun _ => rfl) (fun _ => .inl rfl) (fun _ => rfl) rfl⟩
  | int number =>
    refine ⟨.whole number, .leaf (fun _ => rfl) (fun levels => ?_) (fun _ => rfl) rfl⟩
    -- Beyond 64 bits there is no compact form.
    by_cases fits : fitsCompact number = true
    · exact .inl (by simp [compact?, fits])
    · exact .inr (by simp [compact?, fits])
  | text chars => exact ⟨.text chars, .leaf (fun _ => rfl) (fun _ => .inl rfl) (fun _ => rfl) rfl⟩
  | list _ ih =>
    obtain ⟨trees, each⟩ := Shows.exists_all id ih
    exact ⟨_, .list each⟩
  | bag distinct _ ih =>
    obtain ⟨trees, each⟩ := Shows.exists_all Prod.snd ih
    exact ⟨_, .bag distinct each⟩

end Trees

section Roundtrip

variable {value : Value} {tree : Tree}

theorem Shows.decode?_of_read? (shows : Shows value tree) {text : String} {numbers : Double.Layout}
    (read : read? text = tree.content? numbers) : decode? text = some value := by
  obtain ⟨content, said, same⟩ := shows.content numbers
  rw [decode?, read, said, Option.map_some, same]

theorem Shows.toJson (shows : Shows value tree) :
    ∃ text, value.toJson = .ok text ∧ decode? text = some value := by
  cases compacted : compact? compactLevels value with
  | some found =>
    rw [shows.inCompact _ _ compacted] at compacted
    exact ⟨tree.write .compact, by simp [Value.toJson, compacted],
      shows.decode?_of_read? (read?_write Style.compact_plain tree)⟩
  | none =>
    exact ⟨tree.write .spaced, by simp [Value.toJson, compacted, shows.inWide, Except.map],
      shows.decode?_of_read? (read?_write Style.spaced_plain tree)⟩

theorem Shows.toJsonBy (shows : Shows value tree) (n : Int) :
    ∃ text, value.toJsonBy (.int n) = .ok text ∧ decode? text = some value := by
  by_cases none : n = 0
  · obtain ⟨text, given, decoded⟩ := shows.toJson
    exact ⟨text, by simpa [Value.toJsonBy, indentUnit, none] using given, decoded⟩
  · refine ⟨tree.write (.indented (String.ofList (List.replicate n.toNat ' '))), ?_,
      shows.decode?_of_read? (read?_write_indented n tree)⟩
    simp [Value.toJsonBy, indentUnit, none, Value.toJson, shows.inWide, Except.map]

/-- Plain data has a JSON text on one line and one with lines indented by any number of blanks, and
each of them is read as this very data. Which form was asked for makes no difference: there is one
tree for all of them, and whatever style it is written in it is read as the data. -/
theorem decode?_toJson (data : value.IsData) :
    (∃ text, value.toJson = .ok text ∧ decode? text = some value) ∧
    (∀ n : Int, ∃ text, value.toJsonBy (.int n) = .ok text ∧ decode? text = some value) ∧
    ∃ tree, (∀ levels found, compact? levels value = some found → found = tree) ∧
      (∀ oneLine, wide oneLine value = .ok tree) ∧
      ∀ style : Style, style.Plain → decode? (tree.write style) = some value := by
  obtain ⟨tree, shows⟩ := shows_of_isData data
  exact ⟨shows.toJson, shows.toJsonBy, tree, shows.inCompact, shows.inWide,
    fun _ plain => shows.decode?_of_read? (read?_write plain tree)⟩

def wideData : Value :=
  .ofBag [("😀", .list [.int (2 ^ 64), .null]), ("", .bool true)]

theorem decode?_toJson_wideData :
    wideData.IsData ∧ compact? compactLevels wideData = none ∧
      (∃ text, wideData.toJson = .ok text ∧ decode? text = some wideData) ∧
      ∃ text, wideData.toJsonBy (.int 2) = .ok text ∧ decode? text = some wideData := by
  have numbers : (Value.list [.int (2 ^ 64), .null]).IsData := by
    refine .list fun item member => ?_
    simp only [List.mem_cons, List.not_mem_nil, or_false] at member
    rcases member with rfl | rfl
    · exact .int _
    · exact .null
  have data : wideData.IsData := by
    refine .bag (by decide) fun field member => ?_
    simp only [List.mem_cons, List.not_mem_nil, or_false] at member
    rcases member with rfl | rfl
    · exact numbers
    · exact .bool true
  obtain ⟨line, lines, -⟩ := decode?_toJson data
  exact ⟨data, by decide, line, lines 2⟩

end Roundtrip

end Json

end FormCompiler
