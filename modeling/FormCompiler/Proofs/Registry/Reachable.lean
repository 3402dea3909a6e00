import FormCompiler.Proofs.Registry.Registrations
import FormCompiler.Proofs.TypeName.Parts

set_option autoImplicit false

namespace FormCompiler

open RegistryBuilder (Registration)

namespace Registry

variable {registrations : List Registration}

theorem get?_of_builtin {type : String} {definition : Definition}
    (last : lastBuiltin? registrations type = some definition) :
    (ofRegistrations registrations).get? type = some definition := by
  simp [get?, get?_builtins, last]

theorem get?_of_package {text scope name : String} (free : lastBuiltin? registrations text = none)
    (parsed : TypeName.parse text = .package scope name) :
    (ofRegistrations registrations).get? text =
      some ((lastPackaged? registrations scope name).getD (.placeholder name scope .package)) := by
  simp [get?, get?_builtins, free, parsed, packaged?_eq_last]

theorem category_of_remapped? {id name : String} {definition : Definition}
    (found : (ofRegistrations registrations).remapped? id name = some definition) :
    definition.category = .builtin := by
  simp only [remapped?, bind, Option.bind_eq_some_iff] at found
  obtain ⟨_, -, type, -, known⟩ := found
  rw [get?_builtins] at known
  exact lastBuiltin?_category known

def remapTarget? (id name : String) : Option String := do
  let table ← Entries.get? remaps id
  Entries.get? table name

theorem remapped?_eq_last (registrations : List Registration) (id name : String) :
    (ofRegistrations registrations).remapped? id name =
      (remapTarget? id name).bind (lastBuiltin? registrations) := by
  simp [remapped?, remapTarget?, get?_builtins, Option.bind_assoc]

theorem get?_of_dependency {id name : String}
    (free : lastBuiltin? registrations (TypeName.dependency id name).text = none)
    (idClean : ':' ∉ id.toList) (nameClean : ':' ∉ name.toList) :
    (ofRegistrations registrations).get? (TypeName.dependency id name).text =
      some (((remapTarget? id name).bind (lastBuiltin? registrations)).getD
        (.placeholder name id .dependency)) := by
  have parsed := TypeName.parse_dependency idClean nameClean
  simp [get?, get?_builtins, free, parsed, remapped?_eq_last]

theorem category_of_dependency {text : String} {definition : Definition}
    (free : lastBuiltin? registrations text = none) (names : TypeName.NamesDependency text)
    (found : (ofRegistrations registrations).get? text = some definition) :
    definition.category ≠ .package := by
  obtain ⟨id, name, idClean, nameClean, rfl⟩ := names
  have parsed := TypeName.parse_dependency idClean nameClean
  simp only [get?, get?_builtins, free, parsed, Option.some.injEq] at found
  subst found
  cases remapped : (ofRegistrations registrations).remapped? id name with
  | none => simp [Definition.placeholder]
  | some known => simp [category_of_remapped? remapped]

/-- After any run of registrations a builder gives a registry that lists every builtin and finds it
under its name, as it was registered last. It lists every component of a package as well, and finds
it as it was registered last if no builtin has the listed name, the name is not that of a
dependency's component and the package's name has no dot. A builtin of the name is found in its place.
So is otherwise, under the name of a dependency's component, the builtin that stands for the
component, or its placeholder if there is none. In the last case the name leads to another component:
that of the package whose name ends at the first dot, or its placeholder. -/
theorem registered_found (registrations : List Registration) (journal : Journal) :
    ∃ builder closed registry,
      ((({} : RegistryBuilder).addAll? registrations).run journal).1 = some builder ∧
      builder.build? = some (closed, registry) ∧
      (∀ type definition, lastBuiltin? registrations type = some definition →
        type ∈ registry.types ∧ registry.get? type = some definition) ∧
      ∀ scope name definition, lastPackaged? registrations scope name = some definition →
        let listed := (TypeName.package scope name).text
        listed ∈ registry.types ∧
        (∀ builtin, lastBuiltin? registrations listed = some builtin →
          registry.get? listed = some builtin ∧ builtin ≠ definition) ∧
        (lastBuiltin? registrations listed = none →
          (∀ id component, ':' ∉ id.toList → ':' ∉ component.toList →
            listed = (TypeName.dependency id component).text →
            registry.get? listed = some (((remapTarget? id component).bind
              (lastBuiltin? registrations)).getD (.placeholder component id .dependency)) ∧
            registry.get? listed ≠ some definition) ∧
          (¬TypeName.NamesDependency listed →
            ('.' ∉ scope.toList → registry.get? listed = some definition) ∧
            ('.' ∈ scope.toList → ∃ first rest,
              '.' ∉ first.toList ∧ scope = (TypeName.package first rest).text ∧
              let other := (TypeName.package rest name).text
              registry.get? listed = some ((lastPackaged? registrations first other).getD
                (.placeholder other first .package))))) := by
  have run := RegistryBuilder.addAll?_of_open {} rfl registrations journal
  refine ⟨_, _, ofRegistrations registrations, run, rfl, ?builtins, ?packages⟩
  case builtins =>
    intro type definition last
    exact ⟨mem_types_of_builtin ((get?_builtins registrations type).trans last),
      get?_of_builtin last⟩
  case packages =>
    intro scope name definition last listed
    refine ⟨mem_types_of_packaged ((packaged?_eq_last registrations scope name).trans last),
      fun builtin taken => ?taken, fun free => ⟨?dependency, fun others => ⟨fun clean => ?own,
        fun dotted => ?dotted⟩⟩⟩
    case taken =>
      refine ⟨get?_of_builtin taken, ?_⟩
      rintro rfl
      have own := lastPackaged?_category last
      rw [lastBuiltin?_category taken] at own
      cases own
    case dependency =>
      intro id component idClean nameClean same
      refine ⟨same ▸ get?_of_dependency (same ▸ free) idClean nameClean, fun found => ?_⟩
      exact category_of_dependency free ⟨id, component, idClean, nameClean, same⟩ found
        (lastPackaged?_category last)
    case own =>
      rw [get?_of_package free (TypeName.parse_eq_package others clean rfl), last, Option.getD_some]
    case dotted =>
      obtain ⟨first, rest, clean, split, same⟩ := TypeName.package_text_of_dotted dotted name
      exact ⟨first, rest, clean, split,
        get?_of_package free (TypeName.parse_eq_package others clean same)⟩

def widget : Definition := { backend := .named "Widget" }

-- A widget in a package without a dot in its name, one in a package within a package, and a button in
-- a package whose components are listed like those of a dependency.
def widgetRegistrations : List Registration :=
  [.packaged "shop" "Widget" widget, .packaged "shop.toys" "Widget" widget,
    .builtin "Button" { backend := .named "Button" },
    .packaged "form:dep_lin1x4oec0ytd:_Components" "Button" widget]

theorem not_namesDependency_of_parts {text : String}
    (parts : TypeName.dependencyParts? text.toList = none) : ¬TypeName.NamesDependency text := by
  rintro ⟨id, name, idClean, nameClean, rfl⟩
  rw [TypeName.dependencyParts?_text idClean nameClean] at parts
  cases parts

theorem registered_found_widget :
    ∃ registry : Registry, ∃ definition,
      lastPackaged? widgetRegistrations "shop" "Widget" = some definition ∧
      "shop.Widget" ∈ registry.types ∧ registry.get? "shop.Widget" = some definition ∧
      definition.backend = .named "Widget" ∧
      (registry.get? "form:dep_lin1x4oec0ytd:_Components.Button").map (·.backend) =
        some (.named "Button") := by
  obtain ⟨_, _, registry, -, -, -, packaged⟩ := registered_found widgetRegistrations {}
  obtain ⟨listed, -, found⟩ := packaged "shop" "Widget" _ rfl
  have others : ¬TypeName.NamesDependency (TypeName.package "shop" "Widget").text :=
    not_namesDependency_of_parts (by decide)
  obtain ⟨-, -, remapped⟩ := packaged "form:dep_lin1x4oec0ytd:_Components" "Button" _ rfl
  have button := ((remapped rfl).1 "dep_lin1x4oec0ytd" "_Components.Button" (by decide)
    (by decide) rfl).1
  refine ⟨registry, _, rfl, listed, ((found rfl).2 others).1 (by decide), rfl, ?_⟩
  rw [show "form:dep_lin1x4oec0ytd:_Components.Button" =
    (TypeName.package "form:dep_lin1x4oec0ytd:_Components" "Button").text from rfl, button]
  rfl

theorem widget_of_dotted_package_lost :
    ∃ builder closed registry definition,
      ((({} : RegistryBuilder).addAll? widgetRegistrations).run {}).1 = some builder ∧
      builder.build? = some (closed, registry) ∧
      lastPackaged? widgetRegistrations "shop.toys" "Widget" = some definition ∧
      "shop.toys.Widget" ∈ registry.types ∧
      ∃ other, registry.get? "shop.toys.Widget" = some other ∧
        other.isPlaceholder = true ∧ definition.isPlaceholder = false :=
  ⟨_, _, _, _, rfl, rfl, rfl, by decide, _, rfl, rfl, rfl⟩

end Registry

end FormCompiler
