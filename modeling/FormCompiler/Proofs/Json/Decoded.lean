import FormCompiler.Proofs.Json.Written

set_option autoImplicit false

namespace FormCompiler.Json

open Reader

section Contents

mutual

def Tree.content? (numbers : Double.Layout) : Tree → Option Content
  | .null => some .null
  | .flag value => some (.flag value)
  | .whole number => some (.whole number)
  | .number value => word? (value.textIn numbers).toList
  | .text chars => some (.text chars)
  | .array items => (itemContents? numbers items).map .array
  | .object fields => (fieldContents? numbers fields).map .object
termination_by structural tree => tree

def itemContents? (numbers : Double.Layout) : List Tree → Option (List Content)
  | [] => some []
  | item :: rest => do
    let item ← item.content? numbers
    let rest ← itemContents? numbers rest
    return item :: rest
termination_by structural items => items

def fieldContents? (numbers : Double.Layout) :
    List (String × Tree) → Option (List (String × Content))
  | [] => some []
  | (key, item) :: rest => do
    let item ← item.content? numbers
    let rest ← fieldContents? numbers rest
    return (key, item) :: rest
termination_by structural fields => fields

end

end Contents

section Values

open Place

variable {numbers : Double.Layout}

theorem Tree.tokens_ne_close (numbers : Double.Layout) (tree : Tree) :
    ∃ token rest, tree.tokens numbers = token :: rest ∧ token ≠ .mark ']' := by
  cases tree <;> exact ⟨_, _, rfl, by simp⟩

theorem foldlM_firstItem (above : List Open) (tree : Tree) (more : List Token) :
    (tree.tokens numbers ++ more).foldlM step? (firstItem above) =
      (tree.tokens numbers ++ more).foldlM step? (value (.array [] :: above)) := by
  obtain ⟨token, rest, same, notClose⟩ := tree.tokens_ne_close numbers
  -- Only the closing bracket is read in another way, and no value begins with one.
  have step : step? (firstItem above) token = step? (value (.array [] :: above)) token := by
    cases token with
    | mark c => rw [step?, step?]; exact notClose
    | word | text => rfl
  rw [same, List.cons_append, List.foldlM_cons, List.foldlM_cons, step]

theorem foldlM_field (above : List Open) (before : List (String × Content)) (name : String)
    (tokens more : List Token) :
    ((Token.text name :: .mark ':' :: tokens) ++ more).foldlM step? (key above before) =
      (tokens ++ more).foldlM step? (value (.object before name :: above)) := rfl

mutual

theorem Tree.foldlM_tokens : ∀ (tree : Tree) (above : List Open),
    (tree.tokens numbers).foldlM step? (value above) =
      (tree.content? numbers).map (after above)
  | .null, above => rfl
  | .flag true, above => rfl
  | .flag false, above => rfl
  | .whole number, above => by
    change (word? (toString number).toList).map (after above) >>= pure = _
    rw [word?_int]
    rfl
  | .number x, above => by
    simp [Tree.tokens, Tree.content?, step?, start?]
  | .text chars, above => rfl
  | .array [], above => rfl
  | .array (item :: rest), above => by
    have items := foldlM_itemTokens (item :: rest) (by simp) [] above
    obtain ⟨more, same⟩ := separated_leads (item.tokens numbers) (itemTokens numbers rest)
    rw [itemTokens, same, List.append_assoc, ← foldlM_firstItem] at items
    rw [Tree.tokens, itemTokens, same, List.append_assoc, Tree.content?, Option.map_map]
    exact items
  | .object [], above => rfl
  | .object ((name, item) :: rest), above => by
    have fields := foldlM_fieldTokens ((name, item) :: rest) (by simp) [] above
    obtain ⟨more, same⟩ := separated_leads (.text name :: .mark ':' :: item.tokens numbers)
      (fieldTokens numbers rest)
    rw [fieldTokens, same] at fields
    rw [Tree.tokens, fieldTokens, same, Tree.content?, Option.map_map]
    exact fields

theorem foldlM_itemTokens : ∀ items : List Tree, items ≠ [] →
    ∀ (before : List Content) (above : List Open),
      (separated (itemTokens numbers items) ++ [Token.mark ']']).foldlM step?
          (value (.array before :: above)) =
        (itemContents? numbers items).map fun items => after above (.array (before ++ items))
  | [], nonempty, _, _ => absurd rfl nonempty
  | [item], _, before, above => by
    have first := item.foldlM_tokens (.array before :: above)
    rw [itemTokens, itemTokens, separated_single, List.foldlM_append, first, itemContents?]
    cases item.content? numbers <;> rfl
  | item :: second :: rest, _, before, above => by
    have first := item.foldlM_tokens (.array before :: above)
    have others (read : Content) :=
      foldlM_itemTokens (second :: rest) (by simp) (before ++ [read]) above
    rw [itemTokens, itemTokens, separated_cons, List.append_assoc, List.foldlM_append, first,
      itemContents?]
    cases item.content? numbers with
    | none => rfl
    | some read =>
      -- The value that was read joins those before it, for which the induction is general.
      refine (others read).trans ?_
      cases itemContents? numbers (second :: rest) <;> simp

theorem foldlM_fieldTokens : ∀ fields : List (String × Tree), fields ≠ [] →
    ∀ (before : List (String × Content)) (above : List Open),
      (separated (fieldTokens numbers fields) ++ [Token.mark '\x7d']).foldlM step?
          (key above before) =
        (fieldContents? numbers fields).map fun fields => after above (.object (before ++ fields))
  | [], nonempty, _, _ => absurd rfl nonempty
  | [(name, item)], _, before, above => by
    have first := item.foldlM_tokens (.object before name :: above)
    rw [fieldTokens, fieldTokens, separated_single, foldlM_field, List.foldlM_append, first,
      fieldContents?]
    cases item.content? numbers <;> rfl
  | (name, item) :: second :: rest, _, before, above => by
    have first := item.foldlM_tokens (.object before name :: above)
    have others (read : Content) :=
      foldlM_fieldTokens (second :: rest) (by simp) (before ++ [(name, read)]) above
    obtain ⟨secondName, secondItem⟩ := second
    rw [fieldTokens, fieldTokens, separated_cons, List.append_assoc, foldlM_field,
      List.foldlM_append, first, fieldContents?]
    cases item.content? numbers with
    | none => rfl
    | some read =>
      refine (others read).trans ?_
      cases fieldContents? numbers ((secondName, secondItem) :: rest) <;> simp

end

theorem read?_write {style : Style} (plain : style.Plain) (tree : Tree) :
    read? (tree.write style) = tree.content? style.numbers := by
  rw [read?, tokens?_write plain, Option.bind_eq_bind, Option.bind_some,
    tree.foldlM_tokens []]
  cases tree.content? style.numbers <;> rfl

end Values

end FormCompiler.Json
