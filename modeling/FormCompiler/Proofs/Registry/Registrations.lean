import FormCompiler.Registry.Basic
import Mathlib.Data.List.Induction

set_option autoImplicit false

namespace FormCompiler

open RegistryBuilder (Registration)

namespace RegistryBuilder.Registration

-- What a registration says about a builtin, and what about a component of a package.

def builtin? (type : String) : Registration → Option Definition
  | .builtin other definition =>
    if other = type then some { definition with category := .builtin } else none
  | .packaged .. => none

def packaged? (scope name : String) : Registration → Option Definition
  | .builtin .. => none
  | .packaged otherScope otherName definition =>
    if otherScope = scope ∧ otherName = name then some { definition with category := .package }
    else none

end RegistryBuilder.Registration

def lastBuiltin? (registrations : List Registration) (type : String) : Option Definition :=
  registrations.reverse.findSome? (Registration.builtin? type)

def lastPackaged? (registrations : List Registration) (scope name : String) : Option Definition :=
  registrations.reverse.findSome? (Registration.packaged? scope name)

theorem lastBuiltin?_category {registrations : List Registration} {type : String}
    {definition : Definition} (last : lastBuiltin? registrations type = some definition) :
    definition.category = .builtin := by
  obtain ⟨registration, -, found⟩ := List.exists_of_findSome?_eq_some last
  cases registration with
  | builtin other own =>
    simp only [Registration.builtin?] at found
    split at found
    · cases found
      rfl
    · cases found
  | packaged => cases found

theorem lastPackaged?_category {registrations : List Registration} {scope name : String}
    {definition : Definition} (last : lastPackaged? registrations scope name = some definition) :
    definition.category = .package := by
  obtain ⟨registration, -, found⟩ := List.exists_of_findSome?_eq_some last
  cases registration with
  | builtin => cases found
  | packaged otherScope otherName own =>
    simp only [Registration.packaged?] at found
    split at found
    · cases found
      rfl
    · cases found

namespace Registry

def add (registry : Registry) : Registration → Registry
  | .builtin type definition => registry.addBuiltin type definition
  | .packaged scope name definition => registry.addPackaged scope name definition

def ofRegistrations (registrations : List Registration) : Registry :=
  registrations.foldl add {}

theorem ofRegistrations_append (registrations : List Registration) (last : Registration) :
    ofRegistrations (registrations ++ [last]) = (ofRegistrations registrations).add last := by
  simp [ofRegistrations]

theorem packaged?_addPackaged (registry : Registry) (scope name otherScope otherName : String)
    (definition : Definition) :
    (registry.addPackaged scope name definition).packaged? otherScope otherName =
      if scope = otherScope ∧ name = otherName then some { definition with category := .package }
      else registry.packaged? otherScope otherName := by
  by_cases sameScope : scope = otherScope
  · subst sameScope
    simp only [packaged?, addPackaged, Entries.get?_set, beq_self_eq_true, if_true, bind,
      Option.bind_some, beq_iff_eq, true_and]
    -- A package that is new has no components yet.
    cases Entries.get? registry.packages scope <;> rfl
  · simp [packaged?, addPackaged, Entries.get?_set, sameScope]

theorem get?_builtins (registrations : List Registration) (type : String) :
    Entries.get? (ofRegistrations registrations).builtins type =
      lastBuiltin? registrations type := by
  induction registrations using List.reverseRecOn with
  | nil => rfl
  | append_singleton registrations last ih =>
    rw [ofRegistrations_append, lastBuiltin?, List.reverse_concat, List.findSome?_cons]
    rw [lastBuiltin?] at ih
    cases last with
    | builtin other definition =>
      simp only [add, addBuiltin, Entries.get?_set, beq_iff_eq, ih, Registration.builtin?]
      by_cases same : other = type
      · simp [same]
      · simp [same]
    | packaged scope name definition => exact ih

theorem packaged?_eq_last (registrations : List Registration) (scope name : String) :
    (ofRegistrations registrations).packaged? scope name =
      lastPackaged? registrations scope name := by
  induction registrations using List.reverseRecOn with
  | nil => rfl
  | append_singleton registrations last ih =>
    rw [ofRegistrations_append, lastPackaged?, List.reverse_concat, List.findSome?_cons]
    rw [lastPackaged?] at ih
    cases last with
    | builtin type definition => exact ih
    | packaged otherScope otherName definition =>
      simp only [add, packaged?_addPackaged, ih, Registration.packaged?]
      by_cases same : otherScope = scope ∧ otherName = name
      · simp [same]
      · simp [same]

theorem mem_types_of_builtin {registry : Registry} {type : String} {definition : Definition}
    (found : Entries.get? registry.builtins type = some definition) : type ∈ registry.types := by
  apply List.mem_append_left
  exact List.mem_map_of_mem (f := Prod.fst) (Entries.mem_of_get? found)

theorem mem_types_of_packaged {registry : Registry} {scope name : String} {definition : Definition}
    (found : registry.packaged? scope name = some definition) :
    (TypeName.package scope name).text ∈ registry.types := by
  simp only [packaged?, bind, Option.bind_eq_some_iff] at found
  obtain ⟨components, package, own⟩ := found
  apply List.mem_append_right
  refine List.mem_flatMap.mpr ⟨(scope, components), Entries.mem_of_get? package, ?_⟩
  have listed : name ∈ Entries.keys components :=
    List.mem_map_of_mem (f := Prod.fst) (Entries.mem_of_get? own)
  exact List.mem_map_of_mem (f := fun name => scope ++ "." ++ name) listed

end Registry

namespace RegistryBuilder

theorem add?_of_open {builder : RegistryBuilder} (isOpen : builder.built = false)
    (registration : Registration) :
    builder.add? registration =
      some { builder with registry := builder.registry.add registration } := by
  cases registration <;> simp [add?, isOpen, Registry.add]

theorem addAll?_of_open (builder : RegistryBuilder) (isOpen : builder.built = false)
    (registrations : List Registration) (journal : Journal) :
    ((builder.addAll? registrations).run journal).1 =
      some { builder with registry := registrations.foldl Registry.add builder.registry } := by
  induction registrations generalizing builder journal with
  | nil => rfl
  | cons registration rest ih =>
    have added := add?_of_open isOpen registration
    have rested := ih { builder with registry := builder.registry.add registration } isOpen
      ((Logged.writeAll (builder.overwriteEntries registration)).run journal).2
    simp only [addAll?, added]
    exact rested

end RegistryBuilder

end FormCompiler
