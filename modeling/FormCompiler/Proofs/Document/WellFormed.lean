import FormCompiler.App.Config
import FormCompiler.Proofs.Entries.Lookup
import FormCompiler.Proofs.Form.WellFormed
import FormCompiler.Theme
import Mathlib.Data.List.Forall2

set_option autoImplicit false

namespace FormCompiler

structure Dependency.ReadFrom (item : Value) (dependency : Dependency) : Prop where
  mapping : item.isMapping = true
  appId : dependency.appId = (Bag.value item.asBag "app_id").asText ""
  version : dependency.version = Bag.value item.asBag "version"
  extra : ∀ key, Entries.get? dependency.extra key =
    if key = "app_id" ∨ key = "version" then none else Entries.get? item.asBag key

structure AppConfig.WellFormed (config : AppConfig) : Prop where
  title : config.metadata.title ≠ ""
  version : config.runtimeOptions.version ≠ ""
  clientVersion : config.runtimeOptions.clientVersion ≠ some ""
  serverVersion : config.runtimeOptions.serverVersion ≠ some ""
  description : config.metadata.description ≠ some ""
  logo : config.metadata.logo ≠ some ""
  startupForm : config.startupForm ≠ some ""

structure Theme.WellFormed (theme : Theme) : Prop where
  styleFiles : ∀ name ∈ theme.styleFiles, name ≠ ""
  pageFiles : ∀ name ∈ theme.pageFiles, name ≠ ""

namespace AppConfig

theorem dependencyOf?_eq_none_iff (item : Value) :
    dependencyOf? item = none ↔ item.isMapping = false := by
  cases item <;> simp [dependencyOf?, Value.isMapping, Value.kind]

theorem dependency_readFrom {item : Value} {dependency : Dependency}
    (found : dependencyOf? item = some dependency) : Dependency.ReadFrom item dependency := by
  cases item with
  | map entries =>
    cases found
    refine ⟨rfl, rfl, rfl, ?_⟩
    intro key
    rw [Entries.get?_filter_keys (fun key => key != "app_id" && key != "version")]
    by_cases id : key = "app_id" <;> by_cases version : key = "version" <;> simp [id, version]
  | _ => cases found

theorem dependencies_readFrom (items : List Value) :
    List.Forall₂ Dependency.ReadFrom (items.filter (·.isMapping))
      (items.filterMap dependencyOf?) := by
  induction items with
  | nil => exact .nil
  | cons item rest ih =>
    cases found : dependencyOf? item with
    | none =>
      have other := (dependencyOf?_eq_none_iff item).mp found
      simpa [found, other] using ih
    | some dependency =>
      have read := dependency_readFrom found
      simpa [found, read.mapping] using List.Forall₂.cons read ih

theorem firstNonEmpty_ne_empty (texts : List String) {default : String} (given : default ≠ "") :
    firstNonEmpty texts default ≠ "" := by
  simp only [firstNonEmpty]
  cases found : texts.find? fun text => !text.isEmpty with
  | none => exact given
  | some text =>
    have full := List.find?_some found
    simpa using full

theorem ofDocument_wellFormed (document : Value) : (ofDocument document).WellFormed where
  title := firstNonEmpty_ne_empty _ (by decide)
  version := Value.asText_ne_empty _ (by decide)
  clientVersion := Value.asText?_ne_empty _
  serverVersion := Value.asText?_ne_empty _
  description := Value.asText?_ne_empty _
  logo := Value.asText?_ne_empty _
  startupForm := Value.asText?_ne_empty _

theorem of_parse {text : String} {maxDepth : Int} {config : AppConfig}
    {omitted : List Omission} (parses : parse text maxDepth = .ok (config, omitted)) :
    ∃ document, Document.load text fileName maxDepth = .ok document ∧
      config = ofDocument document := by
  simp only [parse] at parses
  cases loaded : Document.load text fileName maxDepth with
  | error failure =>
    rw [loaded] at parses
    cases parses
  | ok document =>
    rw [loaded] at parses
    cases parses
    exact ⟨document, rfl, rfl⟩

end AppConfig

namespace Theme

theorem fileNames_ne_empty (source : Value) : ∀ name ∈ fileNames source, name ≠ "" := by
  intro name member
  obtain ⟨item, -, found⟩ := List.mem_filterMap.mp member
  exact Value.ne_empty_of_asText? found

theorem wellFormed_of_parse {text : String} {maxDepth : Int} {theme : Theme}
    (parses : parse text maxDepth = .ok theme) : theme.WellFormed := by
  simp only [parse] at parses
  cases loaded : Document.load text fileName maxDepth with
  | error failure =>
    rw [loaded] at parses
    cases parses
  | ok document =>
    rw [loaded] at parses
    cases parses
    exact ⟨fileNames_ne_empty _, fileNames_ne_empty _⟩

end Theme

/-- The records that documents give are complete. A form has types and names throughout, and no
warning with it says that a type is missing; a description of an app has its title, its version and
one dependency for each mapping of the list, and a theme no file without a name. -/
theorem parsed_wellFormed (registry : Registry) (options : FormOptions) (maxDepth : Int)
    (text : String) (journal : Journal) :
    (∀ parsed, ((Form.parse (some registry) options maxDepth text).run journal).1 = .ok parsed →
      parsed.form.WellFormed ∧
        ∀ warning ∈ parsed.warnings, ∀ name,
          warning.message ≠ "Component '" ++ name ++ "' missing type") ∧
    (∀ config omitted, AppConfig.parse text maxDepth = .ok (config, omitted) →
      config.WellFormed ∧ ∃ document,
        Document.load text AppConfig.fileName maxDepth = .ok document ∧
          List.Forall₂ Dependency.ReadFrom
            ((document.field "dependencies").asItems.filter (·.isMapping)) config.dependencies) ∧
    ∀ theme, Theme.parse text maxDepth = .ok theme → theme.WellFormed := by
  refine ⟨?_, ?_, fun theme parses => Theme.wellFormed_of_parse parses⟩
  · intro parsed parses
    obtain ⟨document, -, valid, rfl⟩ := Form.parsed_of_parse parses
    refine ⟨Form.wellFormed_of_valid valid, ?_⟩
    intro warning member name same
    exact Form.not_missingType_of_documentWarnings member ⟨name, same⟩
  · intro config omitted parses
    obtain ⟨document, loaded, rfl⟩ := AppConfig.of_parse parses
    exact ⟨AppConfig.ofDocument_wellFormed document, document, loaded,
      AppConfig.dependencies_readFrom _⟩

def sparseText : String :=
  "dependencies: [5, \x7bapp_id: X1\x7d]\nassets: \x7bcss: ['', a]\x7d\n"
    ++ "components: [\x7btype: Label\x7d]\n"

theorem parsed_wellFormed_sparseText :
    (∃ parsed, ((Form.parse (some .standard) {} 64 sparseText).run {}).1 = .ok parsed ∧
      parsed.form.WellFormed ∧ parsed.form.componentTypes = ["Label", "ColumnPanel"]) ∧
    (∃ config omitted, AppConfig.parse sparseText 64 = .ok (config, omitted) ∧
      config.WellFormed ∧ config.metadata.title = "Anvil App" ∧ config.dependencyIds = ["X1"]) ∧
    ∃ theme, Theme.parse sparseText 64 = .ok theme ∧ theme.WellFormed ∧
      theme.styleFiles = ["a"] := by
  obtain ⟨forms, configs, themes⟩ := parsed_wellFormed .standard {} 64 sparseText {}
  have computed : (((Form.parse (some .standard) {} 64 sparseText).run {}).1.toOption.map
        (fun parsed => parsed.form.componentTypes),
      (AppConfig.parse sparseText 64).toOption.map
        (fun parsed => (parsed.1.metadata.title, parsed.1.dependencyIds)),
      (Theme.parse sparseText 64).toOption.map (·.styleFiles)) =
        (some ["Label", "ColumnPanel"], some ("Anvil App", ["X1"]), some ["a"]) := by
    decide +kernel
  simp only [Prod.mk.injEq] at computed
  obtain ⟨formTypes, configTexts, themeFiles⟩ := computed
  refine ⟨?_, ?_, ?_⟩
  · obtain ⟨parsed, parses, types⟩ := exists_ok_of_map formTypes
    exact ⟨parsed, parses, (forms parsed parses).1, types⟩
  · obtain ⟨⟨config, omitted⟩, parses, texts⟩ := exists_ok_of_map configTexts
    exact ⟨config, omitted, parses, (configs config omitted parses).1, Prod.mk.inj texts⟩
  · obtain ⟨theme, parses, files⟩ := exists_ok_of_map themeFiles
    exact ⟨theme, parses, themes theme parses, files⟩

end FormCompiler
