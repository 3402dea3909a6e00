import FormCompiler.Proofs.Registry.Reachable
import FormCompiler.Value.Equality

set_option autoImplicit false

namespace FormCompiler

open RegistryBuilder (Registration)
open FormCompiler.TypeName (NamesDependency)

-- What is shown for a component that is not registered tells which one it is, and whose.
structure Definition.StandsFor (definition : Definition) (name source : String) : Prop where
  marked : definition.isPlaceholder = true
  named : Entries.get? definition.defaults "component_name" = some (.text name)
  sourced : Entries.get? definition.defaults "source" = some (.text source)
  labelled : Entries.get? definition.defaults "label" =
    some (.text (if source = "" then "Custom Component: " ++ name
      else "Custom Component: " ++ name ++ " (" ++ source ++ ")"))

theorem Definition.placeholder_standsFor (name source : String) (category : TypeCategory) :
    (placeholder name source category).StandsFor name source := by
  refine ⟨rfl, rfl, rfl, ?_⟩
  have label : Entries.get? (placeholder name source category).defaults "label" =
      some (.text (if source.isEmpty then "Custom Component: " ++ name
        else "Custom Component: " ++ name ++ " (" ++ source ++ ")")) := rfl
  simpa [String.isEmpty_iff] using label

namespace Registry

variable {registrations : List Registration}

theorem get?_eq_none_iff (registrations : List Registration) (text : String) :
    (ofRegistrations registrations).get? text = none ↔
      lastBuiltin? registrations text = none ∧ '.' ∉ text.toList ∧ ¬NamesDependency text := by
  cases builtin : lastBuiltin? registrations text with
  | some definition => simp [get?_of_builtin builtin]
  | none =>
    obtain ⟨id, name, parsed, names, -⟩ | ⟨scope, name, parsed, -, dotted, -⟩ |
      ⟨parsed, others, plain⟩ := TypeName.parse_cases text
    · simp [get?, get?_builtins, builtin, parsed, names]
    · simp [get?_of_package builtin parsed, dotted]
    · simp [get?, get?_builtins, builtin, parsed, others, plain]

/-- A registry that is built after any run of registrations knows a name exactly if it is that of a
builtin, has a dot, or has the form of a dependency's component. A builtin is found under its name
whatever form this has. Any other name of a dependency's component leads to the builtin that stands
for the component, if it is registered, and any other name with a dot to the component of the package
that is named before the first dot. Where nothing is registered placeholders tell of the name. -/
theorem built_resolves (registrations : List Registration) (journal : Journal) :
    ∃ builder closed registry,
      ((({} : RegistryBuilder).addAll? registrations).run journal).1 = some builder ∧
      builder.build? = some (closed, registry) ∧
      (∀ text, registry.get? text = none ↔
        lastBuiltin? registrations text = none ∧ '.' ∉ text.toList ∧ ¬NamesDependency text) ∧
      (∀ text definition, lastBuiltin? registrations text = some definition →
        registry.get? text = some definition) ∧
      (∀ id name text, ':' ∉ id.toList → ':' ∉ name.toList → text = "form:" ++ id ++ ":" ++ name →
        lastBuiltin? registrations text = none →
        registry.get? text = some (((remapTarget? id name).bind (lastBuiltin? registrations)).getD
          (.placeholder name id .dependency))) ∧
      (∀ scope name text, '.' ∉ scope.toList → text = scope ++ "." ++ name →
        lastBuiltin? registrations text = none → ¬NamesDependency text →
        registry.get? text = some ((lastPackaged? registrations scope name).getD
          (.placeholder name scope .package))) ∧
      ∀ name source category, (Definition.placeholder name source category).StandsFor name source := by
  have run := RegistryBuilder.addAll?_of_open {} rfl registrations journal
  refine ⟨_, _, ofRegistrations registrations, run, rfl, get?_eq_none_iff registrations,
    fun _ _ => get?_of_builtin, ?_, ?_, Definition.placeholder_standsFor⟩
  · rintro id name _ idClean nameClean rfl free
    exact get?_of_dependency free idClean nameClean
  · intro scope name text clean same free others
    exact get?_of_package free (TypeName.parse_eq_package others clean same)

-- One of the builtins has the name of a dependency's component.
def shopRegistrations : List Registration :=
  [.builtin "Button" { backend := .named "Button" }, .builtin "form:shop:Cart" widget,
    .packaged "shop" "Widget" widget]

theorem built_resolves_shop :
    ∃ registry : Registry,
      registry.get? "Cart" = none ∧
      registry.get? "form:shop:Cart" = some widget ∧
      (registry.get? "form:dep_lin1x4oec0ytd:_Components.Button").map (·.backend) =
        some (.named "Button") ∧
      registry.get? "form:shop:Widget" = some (.placeholder "Widget" "shop" .dependency) ∧
      registry.get? "shop.Widget" = some { widget with category := .package } ∧
      registry.get? "form:shop.Widget" = some (.placeholder "Widget" "form:shop" .package) := by
  obtain ⟨_, _, registry, -, -, nowhere, builtins, dependencies, packages, -⟩ :=
    built_resolves shopRegistrations {}
  have others {text : String} (parts : TypeName.dependencyParts? text.toList = none) :
      ¬NamesDependency text := not_namesDependency_of_parts parts
  refine ⟨registry, ?_, builtins _ _ rfl, ?_, ?_, ?_, ?_⟩
  · exact (nowhere _).mpr ⟨rfl, by decide, others (by decide)⟩
  · have remapped := dependencies "dep_lin1x4oec0ytd" "_Components.Button"
      "form:dep_lin1x4oec0ytd:_Components.Button" (by decide) (by decide) rfl rfl
    rw [remapped]
    rfl
  · exact dependencies "shop" "Widget" _ (by decide) (by decide) rfl rfl
  · exact packages "shop" "Widget" _ (by decide) rfl rfl (others (by decide))
  · exact packages "form:shop" "Widget" _ (by decide) rfl rfl (others (by decide))

end Registry

end FormCompiler
