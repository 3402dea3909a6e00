import FormCompiler.App.Bundle
import FormCompiler.Proofs.App.Paths
import FormCompiler.Proofs.Form.Accepted
import FormCompiler.Proofs.Journal.Result
import FormCompiler.Registry.Builtins

set_option autoImplicit false

namespace FormCompiler

open Logged (Gives)

theorem FileFailure.diagnostic_located (failure : FileFailure) (file : String) :
    (failure.diagnostic file).file = some file ∧ (failure.diagnostic file).severity = .error := by
  rcases failure with fault | error | ⟨kind, message⟩ <;> exact ⟨rfl, rfl⟩

namespace FormParser

def outcome (parser : FormParser) (text : String) : Except DocumentFailure ParsedForm :=
  ((Form.parse parser.registry parser.options parser.maxDepth text).run {}).1

theorem parse_gives (parser : FormParser) (text : String) :
    Gives (Form.parse parser.registry parser.options parser.maxDepth text)
      (parser.outcome text) := by
  intro journal
  simp only [outcome]
  cases parser.registry with
  | none => rfl
  | some registry => simp only [Form.parse_run]

end FormParser

namespace AppBundle

def failuresOf {α : Type} (path : FilePath) : Except FileFailure α → List Diagnostic
  | .ok _ => []
  | .error failure => [failure.diagnostic path.text]

def warningsOf (path : FilePath) : Except FileFailure ParsedForm → List Diagnostic
  | .ok parsed => parsed.warnings.map fun warning => { warning with file := some path.text }
  | .error _ => []

section Outcomes

variable (folder : AppFolder) (parser : FormParser)

def configOutcome : Except FileFailure (AppConfig × List Omission) :=
  parseFile folder configPath fun text => AppConfig.parse text parser.maxDepth

def themeOutcome : Except FileFailure (Option Theme) :=
  if folder.isFile themePath then
    (parseFile folder themePath fun text => Theme.parse text parser.maxDepth).map some
  else .ok none

def formOutcome (path : FilePath) : Except FileFailure ParsedForm :=
  parseFile folder path parser.outcome

def codeErrors : List Diagnostic :=
  if folder.isFolder codePath then
    (formPaths folder).flatMap fun path => failuresOf path (formOutcome folder parser path)
  else [missingCode]

def codeWarnings : List Diagnostic :=
  if folder.isFolder codePath then
    (formPaths folder).flatMap fun path => warningsOf path (formOutcome folder parser path)
  else []

def namedForms : List (String × Form) :=
  if folder.isFolder codePath then
    (formPaths folder).filterMap fun path =>
      (formOutcome folder parser path).toOption.map fun parsed => (formName path, parsed.form)
  else []

def ofConfig (config : AppConfig) : AppBundle where
  config
  forms := Entries.ofList (namedForms folder parser)
  theme := (themeOutcome folder parser).toOption.join
  errors := failuresOf themePath (themeOutcome folder parser) ++ codeErrors folder parser
  warnings := codeWarnings folder parser

def loaded : AppBundle :=
  match configOutcome folder parser with
  | .ok (config, _) => ofConfig folder parser config
  | .error failure => ofFailure failure

end Outcomes

section Run

variable (folder : AppFolder) (parser : FormParser)

theorem loadConfig_gives :
    Gives (loadConfig folder parser.maxDepth)
      ((configOutcome folder parser).map Prod.fst) := by
  simp only [loadConfig, configOutcome]
  cases parseFile folder configPath fun text => AppConfig.parse text parser.maxDepth with
  | ok found => exact (Gives.unit _).bind (.pure _)
  | error failure => exact (Gives.unit _).bind (.pure _)

theorem addTheme_gives (bundle : AppBundle) (bare : bundle.theme = none) :
    Gives (addTheme folder parser.maxDepth bundle)
      { bundle with
        theme := (themeOutcome folder parser).toOption.join
        errors := bundle.errors ++ failuresOf themePath (themeOutcome folder parser) } := by
  obtain ⟨config, forms, theme, errors, warnings⟩ := bundle
  cases bare
  simp only [addTheme, themeOutcome]
  split
  · cases parseFile folder themePath fun text => Theme.parse text parser.maxDepth with
    | ok theme =>
      simp only [Except.map, failuresOf, List.append_nil]
      exact .pure _
    | error failure => exact (Gives.unit _).bind (.pure _)
  · simp only [failuresOf, List.append_nil]
    exact (Gives.unit _).bind (.pure _)

theorem readForm_gives (path : FilePath) :
    Gives (readForm folder parser path) (formOutcome folder parser path) := by
  simp only [readForm, formOutcome, parseFile]
  cases folder.read path with
  | error fault => exact .pure _
  | ok text => exact (parser.parse_gives text).bind (.pure _)

theorem parseForm_gives (path : FilePath) :
    Gives (parseForm folder parser path) (formOutcome folder parser path) := by
  refine Gives.within ((readForm_gives folder parser path).bind ?_)
  cases formOutcome folder parser path with
  | ok parsed => exact .pure _
  | error failure => exact (Gives.unit _).bind (.pure _)

theorem addForms_gives (paths : List FilePath) (bundle : AppBundle) :
    Gives (addForms folder parser paths bundle)
      { bundle with
        forms := Entries.update bundle.forms (paths.filterMap fun path =>
          (formOutcome folder parser path).toOption.map fun parsed =>
            (formName path, parsed.form))
        errors := bundle.errors ++
          paths.flatMap fun path => failuresOf path (formOutcome folder parser path)
        warnings := bundle.warnings ++
          paths.flatMap fun path => warningsOf path (formOutcome folder parser path) } := by
  induction paths generalizing bundle with
  | nil =>
    simp only [List.flatMap_nil, List.append_nil]
    exact .pure _
  | cons path rest ih =>
    refine (parseForm_gives folder parser path).bind ?_
    -- The induction is for every bundle, here for the one with the outcome of the first path.
    have later := ih (bundle.addForm path (formOutcome folder parser path))
    cases outcome : formOutcome folder parser path with
    | ok parsed =>
      simpa [outcome, addForm, failuresOf, warningsOf, Except.toOption, Entries.update]
        using later
    | error failure =>
      simpa [outcome, addForm, failuresOf, warningsOf, Except.toOption] using later

theorem addCode_gives (bundle : AppBundle) (bare : bundle.forms = [] ∧ bundle.warnings = []) :
    Gives (addCode folder parser bundle)
      { bundle with
        forms := Entries.ofList (namedForms folder parser)
        errors := bundle.errors ++ codeErrors folder parser
        warnings := codeWarnings folder parser } := by
  obtain ⟨config, forms, theme, errors, warnings⟩ := bundle
  obtain ⟨rfl, rfl⟩ := bare
  simp only [addCode, namedForms, codeErrors, codeWarnings]
  split
  · exact addForms_gives folder parser (formPaths folder) _
  · exact .pure _

theorem loadParts_gives :
    Gives (loadParts folder parser)
      ((configOutcome folder parser).map fun found => ofConfig folder parser found.1) := by
  refine (loadConfig_gives folder parser).bind ?_
  cases configOutcome folder parser with
  | error failure => exact .pure _
  | ok found =>
    refine (addTheme_gives folder parser { config := found.1 } rfl).bind ?_
    refine (addCode_gives folder parser _ ⟨rfl, rfl⟩).bind ?_
    exact .pure _

theorem load_gives : Gives (load folder parser) (loaded folder parser) := by
  refine (Gives.within (loadParts_gives folder parser)).bind ?_
  simp only [loaded]
  cases configOutcome folder parser with
  | error failure => exact .pure _
  | ok found => exact (Gives.unit _).bind (.pure _)

end Run

/-- Two lists of diagnostics that differ only in a stretch which is about one file. -/
def DifferWithin (file : String) (first second : List Diagnostic) : Prop :=
  ∃ before own other after, first = before ++ own ++ after ∧ second = before ++ other ++ after ∧
    ∀ diagnostic ∈ own ++ other, diagnostic.file = some file

theorem DifferWithin.refl (file : String) (diagnostics : List Diagnostic) :
    DifferWithin file diagnostics diagnostics :=
  ⟨diagnostics, [], [], [], by simp, by simp, by simp⟩

theorem DifferWithin.append_left {file : String} {first second : List Diagnostic}
    (differ : DifferWithin file first second) (lead : List Diagnostic) :
    DifferWithin file (lead ++ first) (lead ++ second) := by
  obtain ⟨before, own, other, after, rfl, rfl, located⟩ := differ
  exact ⟨lead ++ before, own, other, after, by simp, by simp, located⟩

theorem differWithin_flatMap {paths : List FilePath} {path : FilePath} {file : String}
    {first second : FilePath → List Diagnostic} (distinct : paths.Pairwise (· < ·))
    (listed : path ∈ paths) (same : ∀ other, other ≠ path → first other = second other)
    (located : ∀ diagnostic ∈ first path ++ second path, diagnostic.file = some file) :
    DifferWithin file (paths.flatMap first) (paths.flatMap second) := by
  obtain ⟨before, after, rfl⟩ := List.append_of_mem listed
  -- The changed path is listed once, so nothing else changes before it or after it.
  have apart := List.nodup_append.mp distinct.nodup
  have earlier : before.flatMap first = before.flatMap second := by
    refine List.flatMap_congr fun other member => same other ?_
    rintro rfl
    exact apart.2.2 other member other (by simp) rfl
  have later : after.flatMap first = after.flatMap second := by
    refine List.flatMap_congr fun other member => same other ?_
    rintro rfl
    exact (List.nodup_cons.mp apart.2.1).1 member
  refine ⟨before.flatMap first, first path, second path, after.flatMap first, ?_, ?_, located⟩
  · simp
  · simp [earlier, later]

theorem failuresOf_located {α : Type} (path : FilePath) (outcome : Except FileFailure α) :
    ∀ diagnostic ∈ failuresOf path outcome,
      diagnostic.file = some path.text ∧ diagnostic.severity = .error := by
  cases outcome with
  | ok result => simp [failuresOf]
  | error failure => simpa [failuresOf] using failure.diagnostic_located path.text

theorem warningsOf_located (path : FilePath) (outcome : Except FileFailure ParsedForm) :
    ∀ diagnostic ∈ warningsOf path outcome, diagnostic.file = some path.text := by
  cases outcome with
  | ok parsed => simp [warningsOf]
  | error failure => simp [warningsOf]

section Changed

variable (folder : AppFolder) (parser : FormParser) {path : FilePath} (bytes : List UInt8)

theorem mem_formPaths_iff (path : FilePath) :
    path ∈ formPaths folder ↔ (folder.content? path).isSome = true ∧
      ∃ between, path = codePath ++ between ++ [Form.fileName] :=
  folder.mem_named_iff codePath Form.fileName path

theorem formPaths_sorted : (formPaths folder).Pairwise (· < ·) :=
  folder.named_sorted codePath Form.fileName

theorem formOutcome_withFile {other : FilePath} (differs : other ≠ path) :
    formOutcome (folder.withFile path bytes) parser other = formOutcome folder parser other := by
  simp only [formOutcome, parseFile, folder.read_withFile path bytes differs]

variable {folder}

theorem ne_of_formPath (listed : path ∈ formPaths folder) :
    configPath ≠ path ∧ themePath ≠ path ∧ codePath ≠ path := by
  obtain ⟨-, between, rfl⟩ := (mem_formPaths_iff folder path).mp listed
  refine ⟨?_, ?_, ?_⟩
  · simp [configPath, codePath, AppConfig.fileName]
  · simp [themePath, codePath]
  · simp [codePath]

theorem configOutcome_withFile (listed : path ∈ formPaths folder) :
    configOutcome (folder.withFile path bytes) parser = configOutcome folder parser := by
  obtain ⟨apart, -⟩ := ne_of_formPath listed
  simp only [configOutcome, parseFile, folder.read_withFile path bytes apart]

theorem themeOutcome_withFile (listed : path ∈ formPaths folder) :
    themeOutcome (folder.withFile path bytes) parser = themeOutcome folder parser := by
  obtain ⟨-, apart, -⟩ := ne_of_formPath listed
  simp only [themeOutcome, parseFile, folder.read_withFile path bytes apart,
    folder.isFile_withFile path bytes apart]

theorem code_withFile (listed : path ∈ formPaths folder) :
    DifferWithin path.text (codeErrors folder parser)
        (codeErrors (folder.withFile path bytes) parser) ∧
      DifferWithin path.text (codeWarnings folder parser)
        (codeWarnings (folder.withFile path bytes) parser) := by
  obtain ⟨-, -, apart⟩ := ne_of_formPath listed
  have sorted := formPaths_sorted folder
  -- The text of a file changes what is read from it, but not which files there are.
  have listing : formPaths (folder.withFile path bytes) = formPaths folder :=
    folder.named_withFile path bytes codePath Form.fileName
  simp only [codeErrors, codeWarnings, folder.isFolder_withFile path bytes apart, listing]
  by_cases inside : folder.isFolder codePath = true
  · simp only [inside, if_true]
    refine ⟨differWithin_flatMap sorted listed (fun other differs => ?_) ?_,
      differWithin_flatMap sorted listed (fun other differs => ?_) ?_⟩
    · rw [formOutcome_withFile folder parser bytes differs]
    · simp only [List.forall_mem_append]
      exact ⟨fun diagnostic member => (failuresOf_located path _ diagnostic member).1,
        fun diagnostic member => (failuresOf_located path _ diagnostic member).1⟩
    · rw [formOutcome_withFile folder parser bytes differs]
    · simp only [List.forall_mem_append]
      exact ⟨warningsOf_located path _, warningsOf_located path _⟩
  · simp only [inside, Bool.false_eq_true, if_false]
    exact ⟨.refl _ _, .refl _ _⟩

end Changed

/-- Loading always ends with a bundle, whatever the files hold. Without a description it has one
error and nothing else. Otherwise its errors are those of the theme and of the forms in the order of
their paths, one for each file that fails, and its warnings are those of the forms in the same
order. Another text in the file of one form changes no diagnostics but those of this file. -/
theorem load_accounts (folder : AppFolder) (parser : FormParser) (journal : Journal) :
    let bundle := ((load folder parser).run journal).1
    (∀ failure, configOutcome folder parser = .error failure →
      bundle.config = .fallback ∧ bundle.forms = [] ∧ bundle.theme = none ∧
        bundle.errors = [failure.diagnostic "anvil.yaml"] ∧ bundle.warnings = []) ∧
    (∀ found, configOutcome folder parser = .ok found →
      bundle.config = found.1 ∧
      bundle.errors = failuresOf themePath (themeOutcome folder parser) ++
        (if folder.isFolder codePath then
          (formPaths folder).flatMap fun path => failuresOf path (formOutcome folder parser path)
        else [missingCode]) ∧
      bundle.warnings =
        if folder.isFolder codePath then
          (formPaths folder).flatMap fun path => warningsOf path (formOutcome folder parser path)
        else []) ∧
    ((formPaths folder).Pairwise (· < ·) ∧
      ∀ path, path ∈ formPaths folder ↔ (folder.content? path).isSome = true ∧
        ∃ between, path = codePath ++ between ++ [Form.fileName]) ∧
    (∀ (failure : FileFailure) (file : String),
      (failure.diagnostic file).file = some file ∧
        (failure.diagnostic file).severity = .error) ∧
    ∀ path ∈ formPaths folder, ∀ bytes,
      let changed := ((load (folder.withFile path bytes) parser).run journal).1
      DifferWithin path.text bundle.errors changed.errors ∧
        DifferWithin path.text bundle.warnings changed.warnings := by
  simp only [load_gives folder parser journal]
  refine ⟨fun failure fails => ?_, fun found reads => ?_,
    ⟨formPaths_sorted folder, mem_formPaths_iff folder⟩,
    FileFailure.diagnostic_located, fun path listed bytes => ?_⟩
  · simp only [loaded, fails]
    exact ⟨rfl, rfl, rfl, rfl, rfl⟩
  · simp only [loaded, reads]
    exact ⟨rfl, rfl, rfl⟩
  · rw [load_gives (folder.withFile path bytes) parser journal]
    simp only [loaded, configOutcome_withFile parser bytes listed]
    cases configOutcome folder parser with
    | error failure => exact ⟨.refl _ _, .refl _ _⟩
    | ok found =>
      obtain ⟨errors, warnings⟩ := code_withFile parser bytes listed
      simp only [ofConfig, themeOutcome_withFile parser bytes listed]
      exact ⟨errors.append_left _, warnings⟩

theorem exists_of_isOk {ε α : Type} {outcome : Except ε α} (given : outcome.isOk = true) :
    ∃ result, outcome = .ok result := by
  cases outcome with
  | ok result => exact ⟨result, rfl⟩
  | error failure => cases given

def asciiFile (text : String) : Content :=
  .file (text.toList.map fun c => c.toNat.toUInt8)

def sampleFolder : AppFolder where
  place := "app"
  root := ["app"]
  contents := [
    (configPath, asciiFile "name: Todo\n"),
    (codePath ++ ["Broken", Form.fileName], asciiFile "container: [oops\n"),
    (codePath ++ ["Main", Form.fileName], asciiFile "event_bindings: {show: 1}\n"),
    (themePath, asciiFile "- red\n")]

def sampleParser : FormParser := ⟨some .standard, {}, 64⟩

theorem formPaths_sampleFolder :
    formPaths sampleFolder =
      [codePath ++ ["Broken", Form.fileName], codePath ++ ["Main", Form.fileName]] := by
  rw [formPaths, AppFolder.named, List.mergeSort_of_pairwise]
  · decide +kernel
  · decide +kernel

theorem load_accounts_sampleFolder :
    let bundle := ((load sampleFolder sampleParser).run {}).1
    bundle.errors.map (·.file) =
      [some "theme/parameters.yaml", some "client_code/Broken/form_template.yaml"] ∧
    bundle.warnings.map (·.file) = [some "client_code/Main/form_template.yaml"] ∧
    (∀ bytes, DifferWithin "client_code/Main/form_template.yaml" bundle.errors
      ((load (sampleFolder.withFile (codePath ++ ["Main", Form.fileName]) bytes)
        sampleParser).run {}).1.errors) ∧
    ((load { sampleFolder with contents := [] } sampleParser).run {}).1.errors.map (·.file) =
      [some "anvil.yaml"] := by
  obtain ⟨-, accounts, -, -, changes⟩ := load_accounts sampleFolder sampleParser {}
  obtain ⟨found, reads⟩ : ∃ found, configOutcome sampleFolder sampleParser = .ok found :=
    exists_of_isOk (by decide +kernel)
  obtain ⟨-, errors, warnings⟩ := accounts found reads
  have listed : codePath ++ ["Main", Form.fileName] ∈ formPaths sampleFolder := by
    simp [formPaths_sampleFolder]
  rw [formPaths_sampleFolder] at errors warnings
  have missing : configOutcome { sampleFolder with contents := [] } sampleParser =
      .error (.unread (.missing "'app/anvil.yaml'")) := by rfl
  have fallback := (load_accounts { sampleFolder with contents := [] } sampleParser {}).1 _ missing
  refine ⟨?_, ?_, fun bytes => (changes _ listed bytes).1, ?_⟩
  · rw [errors]
    decide +kernel
  · rw [warnings]
    decide +kernel
  · rw [fallback.2.2.2.1]
    rfl

end AppBundle

end FormCompiler
