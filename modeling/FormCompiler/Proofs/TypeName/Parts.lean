import FormCompiler.TypeName
import Mathlib.Data.List.Basic

set_option autoImplicit false

namespace FormCompiler.TypeName

section Split

variable {mark : Char} {chars before after : List Char}

theorem splitFirst_append (clean : mark ∉ before) (after : List Char) :
    splitFirst mark (before ++ mark :: after) = some (before, after) := by
  induction before with
  | nil => simp [splitFirst]
  | cons c rest ih =>
    obtain ⟨differs, others⟩ := not_or.mp (fun held => clean (List.mem_cons.mpr held))
    simp [splitFirst, Ne.symm differs, ih others]

theorem eq_of_splitFirst (found : splitFirst mark chars = some (before, after)) :
    chars = before ++ mark :: after ∧ mark ∉ before := by
  induction chars generalizing before with
  | nil => cases found
  | cons c rest ih =>
    simp only [splitFirst] at found
    by_cases same : c = mark
    · rw [if_pos same] at found
      cases found
      exact ⟨by rw [same]; rfl, List.not_mem_nil⟩
    · rw [if_neg same] at found
      obtain ⟨⟨lead, tail⟩, split, shown⟩ := Option.map_eq_some_iff.mp found
      cases shown
      obtain ⟨whole, clean⟩ := ih split
      refine ⟨by rw [whole]; rfl, ?_⟩
      rw [List.mem_cons, not_or]
      exact ⟨Ne.symm same, clean⟩

theorem splitFirst_eq_none_iff : splitFirst mark chars = none ↔ mark ∉ chars := by
  constructor
  · intro whole held
    obtain ⟨before, after, rfl, clean⟩ := List.eq_append_cons_of_mem held
    rw [splitFirst_append clean] at whole
    cases whole
  · intro clean
    cases split : splitFirst mark chars with
    | none => rfl
    | some parts =>
      obtain ⟨rfl, -⟩ := eq_of_splitFirst split
      exact absurd (by simp) clean

end Split

def NamesDependency (text : String) : Prop :=
  ∃ id name : String, ':' ∉ id.toList ∧ ':' ∉ name.toList ∧ text = (dependency id name).text

theorem dependencyParts?_text {id name : String} (idClean : ':' ∉ id.toList)
    (nameClean : ':' ∉ name.toList) :
    dependencyParts? (dependency id name).text.toList = some (id.toList, name.toList) := by
  have chars : (dependency id name).text.toList =
      'f' :: 'o' :: 'r' :: 'm' :: ':' :: (id.toList ++ ':' :: name.toList) := by
    simp [text]
  rw [chars, dependencyParts?, splitFirst_append idClean]
  simp [nameClean]

theorem namesDependency_of_parts {text : String} {id name : List Char}
    (parts : dependencyParts? text.toList = some (id, name)) : NamesDependency text := by
  unfold dependencyParts? at parts
  split at parts
  · next rest chars =>
    split at parts
    · next first second split =>
      split at parts
      · cases parts
      · next single =>
        cases parts
        obtain ⟨whole, clean⟩ := eq_of_splitFirst split
        refine ⟨String.ofList id, String.ofList name, by simpa using clean, by simpa using single, ?_⟩
        apply String.toList_injective
        simp [chars, whole, TypeName.text]
    · cases parts
  · cases parts

theorem dependencyParts?_eq_none {text : String} (others : ¬NamesDependency text) :
    dependencyParts? text.toList = none := by
  cases found : dependencyParts? text.toList with
  | none => rfl
  | some parts => exact absurd (namesDependency_of_parts found) others

theorem namesDependency_iff (text : String) :
    NamesDependency text ↔ "form:".toList <+: text.toList ∧ text.toList.count ':' = 2 := by
  constructor
  · rintro ⟨id, name, idClean, nameClean, rfl⟩
    have chars : (dependency id name).text.toList =
        "form:".toList ++ (id.toList ++ ':' :: name.toList) := by
      simp [TypeName.text]
    rw [chars]
    refine ⟨List.prefix_append _ _, ?_⟩
    simp [List.count_eq_zero.mpr idClean, List.count_eq_zero.mpr nameClean]
  · rintro ⟨⟨rest, chars⟩, colons⟩
    -- One of the two colons ends the first segment, so that one is left for the other two.
    have single : rest.count ':' = 1 := by
      rw [← chars, List.count_append] at colons
      have lead : "form:".toList.count ':' = 1 := by decide
      omega
    have held : ':' ∈ rest := List.count_pos_iff.mp (by omega)
    obtain ⟨id, name, rfl, idClean⟩ := List.eq_append_cons_of_mem held
    have nameClean : ':' ∉ name := by
      rw [List.count_append, List.count_cons_self, List.count_eq_zero.mpr idClean] at single
      exact List.count_eq_zero.mp (by omega)
    refine ⟨String.ofList id, String.ofList name, by simpa using idClean, by simpa using nameClean, ?_⟩
    apply String.toList_injective
    simp [← chars, TypeName.text]

theorem parse_dependency {id name : String} (idClean : ':' ∉ id.toList)
    (nameClean : ':' ∉ name.toList) :
    parse (dependency id name).text = .dependency id name := by
  simp [parse, dependencyParts?_text idClean nameClean]

theorem parse_eq_package {text scope name : String} (others : ¬NamesDependency text)
    (clean : '.' ∉ scope.toList) (same : text = (package scope name).text) :
    parse text = .package scope name := by
  have split : splitFirst '.' text.toList = some (scope.toList, name.toList) := by
    have chars : text.toList = scope.toList ++ '.' :: name.toList := by
      simp [same, TypeName.text]
    rw [chars, splitFirst_append clean]
  simp [parse, dependencyParts?_eq_none others, split]

theorem parse_eq_builtin {text : String} (others : ¬NamesDependency text)
    (plain : '.' ∉ text.toList) : parse text = .builtin text := by
  simp [parse, dependencyParts?_eq_none others, splitFirst_eq_none_iff.mpr plain]

theorem eq_package_of_dotted {text : String} (dotted : '.' ∈ text.toList) :
    ∃ scope name : String, '.' ∉ scope.toList ∧ text = (package scope name).text := by
  obtain ⟨scope, name, whole, clean⟩ := List.eq_append_cons_of_mem dotted
  refine ⟨String.ofList scope, String.ofList name, by simpa using clean, ?_⟩
  apply String.toList_injective
  simp [TypeName.text, whole]

theorem package_text_of_dotted {scope : String} (dotted : '.' ∈ scope.toList) (name : String) :
    ∃ first rest : String, '.' ∉ first.toList ∧ scope = (package first rest).text ∧
      (package scope name).text = (package first (package rest name).text).text := by
  obtain ⟨first, rest, clean, rfl⟩ := eq_package_of_dotted dotted
  exact ⟨first, rest, clean, rfl, by simp [TypeName.text, String.append_assoc]⟩

-- A dot counts only in names that are not those of a dependency's component.
theorem parse_cases (text : String) :
    (∃ id name, parse text = .dependency id name ∧ NamesDependency text ∧
      ':' ∉ id.toList ∧ ':' ∉ name.toList ∧ text = (dependency id name).text) ∨
    (∃ scope name, parse text = .package scope name ∧ ¬NamesDependency text ∧
      '.' ∈ text.toList ∧ '.' ∉ scope.toList ∧ text = (package scope name).text) ∨
    (parse text = .builtin text ∧ ¬NamesDependency text ∧ '.' ∉ text.toList) := by
  by_cases names : NamesDependency text
  · obtain ⟨id, name, idClean, nameClean, rfl⟩ := id names
    exact .inl ⟨id, name, parse_dependency idClean nameClean, names, idClean, nameClean, rfl⟩
  · by_cases dotted : '.' ∈ text.toList
    · obtain ⟨scope, name, clean, same⟩ := eq_package_of_dotted dotted
      exact .inr (.inl ⟨scope, name, parse_eq_package names clean same, names, dotted, clean, same⟩)
    · exact .inr (.inr ⟨parse_eq_builtin names dotted, names, dotted⟩)

theorem text_parse (written : String) : (parse written).text = written := by
  obtain ⟨id, name, parsed, -, -, -, same⟩ | ⟨scope, name, parsed, -, -, -, same⟩ | ⟨parsed, -, -⟩ :=
    parse_cases written
  · rw [parsed, ← same]
  · rw [parsed, ← same]
  · rw [parsed, text]

theorem category_parse (written : String) :
    ((parse written).category = .dependency ↔ NamesDependency written) ∧
    ((parse written).category = .package ↔ ¬NamesDependency written ∧ '.' ∈ written.toList) ∧
    ((parse written).category = .builtin ↔ ¬NamesDependency written ∧ '.' ∉ written.toList) := by
  obtain ⟨id, name, parsed, names, -⟩ | ⟨scope, name, parsed, others, dotted, -⟩ |
    ⟨parsed, others, plain⟩ := parse_cases written
  · simp [parsed, category, names]
  · simp [parsed, category, others, dotted]
  · simp [parsed, category, others, plain]

theorem dependency_parts_clean {written id name : String}
    (parsed : parse written = .dependency id name) : ':' ∉ id.toList ∧ ':' ∉ name.toList := by
  obtain ⟨_, _, found, -, idClean, nameClean, -⟩ | ⟨_, _, found, -⟩ | ⟨found, -⟩ :=
    parse_cases written
  · cases found.symm.trans parsed
    exact ⟨idClean, nameClean⟩
  · cases found.symm.trans parsed
  · cases found.symm.trans parsed

theorem package_scope_clean {written scope name : String}
    (parsed : parse written = .package scope name) : '.' ∉ scope.toList := by
  obtain ⟨_, _, found, -⟩ | ⟨_, _, found, -, -, clean, -⟩ | ⟨found, -⟩ := parse_cases written
  · cases found.symm.trans parsed
  · cases found.symm.trans parsed
    exact clean
  · cases found.symm.trans parsed

/-- The parts of a parsed name put together again give the name. The category is told by the form of
the name: that of a dependency by `form:` and two colons in all, else that of a package by a dot.
Neither part of a dependency's name has a colon, and a package has no dot. In the other direction
such parts are found again in the name that they are put together to. -/
theorem parse_lossless (written : String) :
    let segmented (text : String) := "form:".toList <+: text.toList ∧ text.toList.count ':' = 2
    (parse written).text = written ∧
    (((parse written).category = .dependency ↔ segmented written) ∧
      ((parse written).category = .package ↔ ¬segmented written ∧ '.' ∈ written.toList) ∧
      ((parse written).category = .builtin ↔ ¬segmented written ∧ '.' ∉ written.toList)) ∧
    (∀ id name, parse written = .dependency id name → ':' ∉ id.toList ∧ ':' ∉ name.toList) ∧
    (∀ scope name, parse written = .package scope name → '.' ∉ scope.toList) ∧
    (∀ id name : String, ':' ∉ id.toList → ':' ∉ name.toList →
      parse ("form:" ++ id ++ ":" ++ name) = .dependency id name) ∧
    ∀ scope name : String, '.' ∉ scope.toList → ¬segmented (scope ++ "." ++ name) →
      parse (scope ++ "." ++ name) = .package scope name := by
  intro segmented
  have segments (text : String) : segmented text ↔ NamesDependency text :=
    (namesDependency_iff text).symm
  simp only [segments]
  refine ⟨text_parse written, category_parse written, fun _ _ => dependency_parts_clean,
    fun _ _ => package_scope_clean, ?_, ?_⟩
  · intro id name idClean nameClean
    exact parse_dependency idClean nameClean
  · intro scope name clean others
    exact parse_eq_package others clean rfl

-- A name that starts like that of a dependency's component, but has one segment too many.
theorem parse_lossless_malformed :
    (parse "form:dep:Card:v1.2").text = "form:dep:Card:v1.2" ∧
      (parse "form:dep:Card:v1.2").category = .package ∧
      parse ("form:dep:Card:v1" ++ "." ++ "2") = .package "form:dep:Card:v1" "2" ∧
      parse ("form:" ++ "dep" ++ ":" ++ "ui.Card") = .dependency "dep" "ui.Card" := by
  obtain ⟨whole, ⟨-, package, -⟩, -, -, dependencies, packages⟩ :=
    parse_lossless "form:dep:Card:v1.2"
  exact ⟨whole, package.mpr (by decide), packages _ _ (by decide) (by decide),
    dependencies _ _ (by decide) (by decide)⟩

end FormCompiler.TypeName
