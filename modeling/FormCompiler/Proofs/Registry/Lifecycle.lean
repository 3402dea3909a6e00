import FormCompiler.Proofs.Entries.Occurrence
import FormCompiler.Proofs.Journal.Result
import FormCompiler.Proofs.Registry.Registrations
import FormCompiler.Registry.Builtins

set_option autoImplicit false

namespace FormCompiler

open Logged (Gives)
open RegistryBuilder (Registration)

namespace RegistryBuilder.Registration

-- What a registration names.

def builtinName? : Registration → Option String
  | .builtin type _ => some type
  | .packaged .. => none

def scope? : Registration → Option String
  | .builtin .. => none
  | .packaged scope _ _ => some scope

def nameIn? (scope : String) : Registration → Option String
  | .builtin .. => none
  | .packaged other name _ => if other = scope then some name else none

theorem builtin?_eq_some_iff (type : String) (registration : Registration) (stored : Definition) :
    registration.builtin? type = some stored ↔
      ∃ definition, registration = .builtin type definition ∧
        stored = { definition with category := .builtin } := by
  cases registration with
  | builtin other definition =>
    by_cases same : other = type
    · simp [builtin?, same, eq_comm]
    · simp [builtin?, same]
  | packaged => simp [builtin?]

theorem packaged?_eq_some_iff (scope name : String) (registration : Registration)
    (stored : Definition) : registration.packaged? scope name = some stored ↔
      ∃ definition, registration = .packaged scope name definition ∧
        stored = { definition with category := .package } := by
  cases registration with
  | builtin => simp [packaged?]
  | packaged otherScope otherName definition =>
    by_cases same : otherScope = scope ∧ otherName = name
    · simp [packaged?, same, eq_comm]
    · simp [packaged?, same]

end RegistryBuilder.Registration

namespace Registry

theorem size_eq_length_types (registry : Registry) : registry.size = registry.types.length := by
  have counted (packages : Entries String (Entries String Definition)) (start : Nat) :
      packages.foldl (fun count entry => count + entry.2.length) start =
        start + (packages.flatMap fun entry =>
          (Entries.keys entry.2).map fun name => entry.1 ++ "." ++ name).length := by
    induction packages generalizing start with
    | nil => rfl
    | cons entry rest ih => simp [ih, Entries.keys, Nat.add_assoc]
  simp [size, types, counted, Entries.keys]

def componentsOf (registry : Registry) (scope : String) : Entries String Definition :=
  (Entries.get? registry.packages scope).getD []

theorem componentsOf_addPackaged (registry : Registry) (scope name other : String)
    (definition : Definition) :
    (registry.addPackaged scope name definition).componentsOf other =
      if scope = other then
        Entries.set (registry.componentsOf other) name { definition with category := .package }
      else registry.componentsOf other := by
  by_cases same : scope = other
  · simp [componentsOf, addPackaged, Entries.get?_set, same]
  · simp [componentsOf, addPackaged, Entries.get?_set, same]

-- What a registry holds after some registrations: each name at the place of its first one, with the
-- definition of its last one.
structure Holds (registry : Registry) (registrations : List Registration) : Prop where
  listed : ∃ builtins scopes, ∃ names : String → List String,
    ListsOnce builtins (registrations.filterMap Registration.builtinName?) ∧
    ListsOnce scopes (registrations.filterMap Registration.scope?) ∧
    (∀ scope, ListsOnce (names scope) (registrations.filterMap (Registration.nameIn? scope))) ∧
    registry.types = builtins ++
      scopes.flatMap fun scope => (names scope).map fun name => scope ++ "." ++ name
  counted : registry.size = registry.types.length
  builtin : ∀ type stored, Entries.get? registry.builtins type = some stored ↔
    ∃ earlier definition later, registrations = earlier ++ .builtin type definition :: later ∧
      (∀ other, .builtin type other ∉ later) ∧ stored = { definition with category := .builtin }
  packaged : ∀ scope name stored, registry.packaged? scope name = some stored ↔
    ∃ earlier definition later, registrations = earlier ++ .packaged scope name definition :: later ∧
      (∀ other, .packaged scope name other ∉ later) ∧
        stored = { definition with category := .package }

section Listed

variable (registrations : List Registration)

theorem builtins_listed :
    ListsOnce (Entries.keys (ofRegistrations registrations).builtins)
      (registrations.filterMap Registration.builtinName?) := by
  induction registrations using List.reverseRecOn with
  | nil => exact .nil
  | append_singleton registrations last ih =>
    rw [ofRegistrations_append, List.filterMap_append]
    cases last with
    | builtin type definition => exact ih.keys_set type { definition with category := .builtin }
    | packaged =>
      simpa [List.filterMap_cons, Registration.builtinName?, add, addPackaged] using ih

theorem packages_listed :
    ListsOnce (Entries.keys (ofRegistrations registrations).packages)
      (registrations.filterMap Registration.scope?) := by
  induction registrations using List.reverseRecOn with
  | nil => exact .nil
  | append_singleton registrations last ih =>
    rw [ofRegistrations_append, List.filterMap_append]
    cases last with
    | builtin => simpa [List.filterMap_cons, Registration.scope?, add, addBuiltin] using ih
    | packaged scope name definition => exact ih.keys_set scope _

theorem components_listed (scope : String) :
    ListsOnce (Entries.keys ((ofRegistrations registrations).componentsOf scope))
      (registrations.filterMap (Registration.nameIn? scope)) := by
  induction registrations using List.reverseRecOn with
  | nil => exact .nil
  | append_singleton registrations last ih =>
    rw [ofRegistrations_append, List.filterMap_append]
    cases last with
    | builtin =>
      simpa [List.filterMap_cons, Registration.nameIn?, add, addBuiltin, componentsOf] using ih
    | packaged other name definition =>
      rw [add, componentsOf_addPackaged]
      by_cases same : other = scope
      · simpa [List.filterMap_cons, Registration.nameIn?, same] using
          ih.keys_set name { definition with category := .package }
      · simpa [List.filterMap_cons, Registration.nameIn?, same] using ih

theorem types_ofRegistrations :
    let registry := ofRegistrations registrations
    registry.types = Entries.keys registry.builtins ++
      (Entries.keys registry.packages).flatMap fun scope =>
        (Entries.keys (registry.componentsOf scope)).map fun name => scope ++ "." ++ name := by
  intro registry
  have distinct : (Entries.keys registry.packages).Nodup := (packages_listed registrations).nodup
  rw [types, Entries.keys, Entries.keys, List.flatMap_map]
  congr 1
  apply List.flatMap_congr
  intro entry member
  -- A package stands once among the packages, so that its entry is the one found for it.
  have found : registry.componentsOf entry.1 = entry.2 := by
    rw [componentsOf, Entries.get?_of_mem distinct member, Option.getD_some]
  rw [found]

theorem ofRegistrations_holds : (ofRegistrations registrations).Holds registrations where
  listed := ⟨_, _, _, builtins_listed registrations, packages_listed registrations,
    components_listed registrations, types_ofRegistrations registrations⟩
  counted := size_eq_length_types _
  builtin type stored := by
    rw [get?_builtins]
    exact lastGiven?_of_form (Registration.builtin?_eq_some_iff type) registrations stored
  packaged scope name stored := by
    rw [packaged?_eq_last]
    exact lastGiven?_of_form (Registration.packaged?_eq_some_iff scope name) registrations stored

end Listed

end Registry

namespace RegistryBuilder

inductive Request where
  | register (registration : Registration)
  | registerBuiltins
  | build

def Request.registrations : Request → List Registration
  | .register registration => [registration]
  | .registerBuiltins => Builtins.registrations
  | .build => []

abbrev Answer := Except String (Option Registry)

def serve (builder : RegistryBuilder) (request : Request) : Logged (RegistryBuilder × Answer) :=
  match request with
  | .build =>
    match builder.build? with
    | some (built, registry) => do
      Logged.writeEntry registry.builtEntry
      return (built, .ok (some registry))
    | none => return (builder, .error closedMessage)
  | request => do
    match ← builder.addAll? request.registrations with
    | some extended => return (extended, .ok none)
    | none => return (builder, .error closedMessage)

def serveAll (builder : RegistryBuilder) :
    List Request → Logged (RegistryBuilder × List Answer)
  | [] => return (builder, [])
  | request :: rest => do
    let (builder, answer) ← builder.serve request
    let (builder, answers) ← serveAll builder rest
    return (builder, answer :: answers)

section Run

variable {builder next last : RegistryBuilder}

theorem serveAll_cons {request : Request} {rest : List Request} {answer : Answer}
    {answers : List Answer} (first : Gives (builder.serve request) (next, answer))
    (later : Gives (next.serveAll rest) (last, answers)) :
    Gives (builder.serveAll (request :: rest)) (last, answer :: answers) := by
  rw [serveAll]
  apply first.bind
  apply Gives.bind later
  exact .pure _

theorem serveAll_append {first second : List Request} {early late : List Answer}
    (before : Gives (builder.serveAll first) (next, early))
    (after : Gives (next.serveAll second) (last, late)) :
    Gives (builder.serveAll (first ++ second)) (last, early ++ late) := by
  have split : builder.serveAll (first ++ second) = (do
      let (middle, early) ← builder.serveAll first
      let (last, late) ← middle.serveAll second
      return (last, early ++ late)) := by
    clear before
    induction first generalizing builder with
    | nil => simp [serveAll]
    | cons request rest ih => simp [serveAll, ih]
  rw [split]
  apply before.bind
  apply Gives.bind after
  exact .pure _

end Run

section Closed

variable {builder : RegistryBuilder} (isClosed : builder.built = true)

include isClosed

theorem addAll?_of_closed {registrations : List Registration} (some : registrations ≠ []) :
    builder.addAll? registrations = pure none := by
  cases registrations with
  | nil => exact absurd rfl some
  | cons registration rest =>
    cases registration <;> simp [addAll?, add?, overwriteEntries, isClosed, Logged.writeAll]

-- Nothing is written either about what a closed builder turns down.
theorem serve_of_closed (request : Request) :
    builder.serve request = pure (builder, .error closedMessage) := by
  cases request with
  | build => simp [serve, build?, isClosed]
  | register registration =>
    simp [serve, Request.registrations, addAll?_of_closed isClosed]
  | registerBuiltins =>
    have some : Builtins.registrations ≠ [] := by decide
    simp [serve, Request.registrations, addAll?_of_closed isClosed some]

theorem serveAll_of_closed (requests : List Request) :
    Gives (builder.serveAll requests)
      (builder, List.replicate requests.length (.error closedMessage)) := by
  induction requests with
  | nil => exact .pure _
  | cons request rest ih =>
    apply serveAll_cons _ ih
    rw [serve_of_closed isClosed]
    exact .pure _

end Closed

section Open

variable {builder : RegistryBuilder} (isOpen : builder.built = false)

include isOpen

theorem serve_of_open {request : Request} (registers : request ≠ .build) :
    Gives (builder.serve request)
      ({ builder with registry := request.registrations.foldl Registry.add builder.registry },
        .ok none) := by
  have added : Gives (builder.addAll? request.registrations) _ :=
    addAll?_of_open builder isOpen request.registrations
  cases request with
  | build => exact absurd rfl registers
  | register | registerBuiltins => exact added.bind (.pure _)

theorem serve_build_of_open :
    Gives (builder.serve .build) ({ builder with built := true }, .ok (some builder.registry)) := by
  simp only [serve, build?, isOpen]
  exact (Gives.unit _).bind (.pure _)

theorem serveAll_of_open {requests : List Request} (register : Request.build ∉ requests) :
    Gives (builder.serveAll requests)
      ({ builder with
          registry := (requests.flatMap Request.registrations).foldl Registry.add
            builder.registry },
        List.replicate requests.length (.ok none)) := by
  induction requests generalizing builder with
  | nil => exact .pure _
  | cons request rest ih =>
    obtain ⟨first, later⟩ := not_or.mp fun asked => register (List.mem_cons.mpr asked)
    rw [List.flatMap_cons, List.foldl_append]
    apply serveAll_cons (serve_of_open isOpen (Ne.symm first))
    exact ih isOpen later

end Open

/-- A builder serves every request until it is built, which the first request for that does. From
then on it turns every request down and stays as it is. The registry that it gave lists each builtin
once, in the order of their first registrations, and then package by package its components in the
same way. What it holds under a name was registered last for it, with the category of its kind. -/
theorem serveAll_lifecycle (before after : List Request) (register : Request.build ∉ before) :
    ∃ registry : Registry, registry.Holds (before.flatMap Request.registrations) ∧
      Gives (serveAll {} before) (⟨registry, false⟩, List.replicate before.length (.ok none)) ∧
      Gives (serveAll {} (before ++ .build :: after))
        (⟨registry, true⟩, List.replicate before.length (.ok none) ++
          .ok (some registry) :: List.replicate after.length (.error closedMessage)) := by
  let registry := Registry.ofRegistrations (before.flatMap Request.registrations)
  have registered : Gives (serveAll {} before)
      (⟨registry, false⟩, List.replicate before.length (.ok none)) :=
    serveAll_of_open rfl register
  refine ⟨registry, Registry.ofRegistrations_holds _, registered, ?_⟩
  apply serveAll_append registered
  apply serveAll_cons (serve_build_of_open rfl)
  -- What comes after the first request to build meets a closed builder.
  exact serveAll_of_closed rfl after

def gaugeRequests : List Request := [
  .register (.builtin "Gauge" { backend := .named "Old", category := .package }),
  .register (.packaged "shop" "Knob" { backend := .named "Knob" }),
  .register (.builtin "Dial" { backend := .named "Dial" }),
  .register (.packaged "shop" "Dial" { backend := .named "Dial" }),
  .register (.builtin "Gauge" { backend := .named "New", category := .dependency })]

theorem serveAll_lifecycle_gauges :
    Request.build ∉ gaugeRequests ∧ ∃ registry : Registry,
      registry.types = ["Gauge", "Dial", "shop.Knob", "shop.Dial"] ∧
      Entries.get? registry.builtins "Gauge" = some { backend := .named "New" } ∧
      Gives (serveAll {} (gaugeRequests ++ [.build, .registerBuiltins, .build]))
        (⟨registry, true⟩, List.replicate 5 (.ok none) ++
          [.ok (some registry), .error closedMessage, .error closedMessage]) := by
  have register : Request.build ∉ gaugeRequests := by simp [gaugeRequests]
  obtain ⟨registry, holds, opened, closed⟩ :=
    serveAll_lifecycle gaugeRequests [.registerBuiltins, .build] register
  have same : registry = Registry.ofRegistrations (gaugeRequests.flatMap Request.registrations) :=
    congrArg (fun result => result.1.registry) (opened {}).symm
  refine ⟨register, registry, ?_, ?_, closed⟩
  · rw [same]
    decide
  · apply (holds.builtin "Gauge" _).mpr
    exact ⟨(gaugeRequests.flatMap Request.registrations).take 4, _, [], rfl, by simp, rfl⟩

end RegistryBuilder

end FormCompiler
