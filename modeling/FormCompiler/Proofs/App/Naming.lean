import FormCompiler.Proofs.App.Loading
import Mathlib.Data.Finset.Max
import Mathlib.Data.List.Dedup

set_option autoImplicit false

namespace FormCompiler

theorem Entries.length_ofList_eq_iff {κ α : Type} [DecidableEq κ] (pairs : List (κ × α)) :
    (ofList pairs).length = pairs.length ↔ (pairs.map Prod.fst).Nodup := by
  have same : (keys (ofList pairs)).Perm (pairs.map Prod.fst).dedup := by
    have distinct : (keys (ofList pairs)).Nodup :=
      nodup_keys_update (show (keys ([] : Entries κ α)).Nodup from List.nodup_nil) pairs
    refine (List.perm_ext_iff_of_nodup distinct (List.nodup_dedup _)).mpr fun key => ?_
    rw [List.mem_dedup, mem_keys_ofList, keys]
  have count : (ofList pairs).length = (pairs.map Prod.fst).dedup.length := by
    simpa [keys] using same.length_eq
  rw [count, ← List.dedup_eq_self]
  constructor
  · intro full
    exact (List.dedup_sublist _).eq_of_length (by simpa using full)
  · intro full
    simp [full]

namespace AppBundle

def Undotted (folders : List String) : Prop :=
  ∀ part ∈ folders, part ≠ "" ∧ '.' ∉ part.toList

theorem intercalate_injective {first second : List String} (plain : Undotted first)
    (other : Undotted second) (joined : ".".intercalate first = ".".intercalate second) :
    first = second := by
  have dot : ".".toList = ['.'] := rfl
  have chars := congrArg String.toList joined
  simp only [String.toList_intercalate, dot] at chars
  have splits (folders : List String) (undotted : Undotted folders) (some : folders ≠ []) :
      (['.'].intercalate (folders.map String.toList)).splitOn '.' =
        folders.map String.toList := by
    refine List.splitOn_intercalate '.' (fun part member => ?_) (by simpa using some)
    obtain ⟨own, inside, rfl⟩ := List.mem_map.mp member
    exact (undotted own inside).2
  -- Without folders there is nothing to join, and a folder's name is never empty.
  have solid (folders : List String) (undotted : Undotted folders)
      (nothing : ['.'].intercalate (folders.map String.toList) = []) : folders = [] := by
    by_contra some
    have parts := splits folders undotted some
    rw [nothing, List.splitOn_nil] at parts
    obtain ⟨part, rest⟩ := List.exists_cons_of_ne_nil some
    obtain ⟨others, rfl⟩ := rest
    simp only [List.map_cons, List.cons.injEq] at parts
    exact (undotted part List.mem_cons_self).1 (String.toList_eq_nil_iff.mp parts.1.symm)
  cases first with
  | nil => exact (solid second other (by simpa using chars.symm)).symm
  | cons part rest =>
    have some : second ≠ [] := by
      rintro rfl
      have nothing := solid (part :: rest) plain (by simpa using chars)
      cases nothing
    have parts := splits _ plain (List.cons_ne_nil part rest)
    rw [chars, splits second other some] at parts
    exact List.map_injective_iff.mpr (fun a b => String.toList_injective) parts.symm

theorem formName_eq (between : List String) (name : String) :
    formName (codePath ++ between ++ [name]) = ".".intercalate between := by
  have folders : (codePath ++ between ++ [name]).dropLast = codePath ++ between :=
    List.dropLast_concat
  rw [formName, FilePath.parent, folders]
  simp [codePath]

section Kept

variable (folder : AppFolder) (parser : FormParser)

def Parses (path : FilePath) : Prop :=
  ∃ parsed, formOutcome folder parser path = .ok parsed

def parsedPaths : List FilePath :=
  (formPaths folder).filter fun path => (formOutcome folder parser path).toOption.isSome

theorem mem_parsedPaths_iff (path : FilePath) :
    path ∈ parsedPaths folder parser ↔ path ∈ formPaths folder ∧ Parses folder parser path := by
  simp only [parsedPaths, List.mem_filter, Parses]
  cases formOutcome folder parser path <;> simp [Except.toOption]

variable {folder}

theorem namedForms_keys (inCode : folder.isFolder codePath = true) :
    (namedForms folder parser).map Prod.fst = (parsedPaths folder parser).map formName := by
  simp only [namedForms, inCode, if_true, parsedPaths]
  induction formPaths folder with
  | nil => rfl
  | cons path rest ih =>
    cases outcome : formOutcome folder parser path <;>
      simpa [List.filterMap_cons, List.filter_cons, outcome, Except.toOption] using ih

theorem parsed_add_failed (inCode : folder.isFolder codePath = true) :
    (parsedPaths folder parser).length + (codeErrors folder parser).length =
      (formPaths folder).length := by
  simp only [codeErrors, inCode, if_true, parsedPaths]
  induction formPaths folder with
  | nil => rfl
  | cons path rest ih =>
    rw [List.filter_cons, List.flatMap_cons, List.length_append]
    cases outcome : formOutcome folder parser path with
    | ok parsed =>
      simp only [Except.toOption, failuresOf, Option.isSome_some, if_true, List.length_cons,
        List.length_nil] at ih ⊢
      omega
    | error failure =>
      simp only [Except.toOption, failuresOf, Option.isSome_none, Bool.false_eq_true, if_false,
        List.length_cons, List.length_nil] at ih ⊢
      omega

theorem kept_of_last (inCode : folder.isFolder codePath = true) {last : FilePath}
    (listed : last ∈ formPaths folder) {kept : ParsedForm}
    (parses : formOutcome folder parser last = .ok kept)
    (final : ∀ later ∈ formPaths folder, last < later → formName later = formName last →
      ¬Parses folder parser later) :
    Entries.get? (Entries.ofList (namedForms folder parser)) (formName last) =
      some kept.form := by
  obtain ⟨before, after, split⟩ := List.append_of_mem listed
  have sorted := formPaths_sorted folder
  rw [split] at sorted
  have later : ∀ path ∈ after, last < path := by
    have following := (List.pairwise_append.mp sorted).2.1
    exact fun path member => List.rel_of_pairwise_cons following member
  have gone : ∀ path ∈ after, formName path = formName last →
      (formOutcome folder parser path).toOption = none := by
    intro path member same
    have unparsed := final path (by simp [split, member]) (later path member) same
    cases outcome : formOutcome folder parser path with
    | ok parsed => exact absurd ⟨parsed, outcome⟩ unparsed
    | error failure => rfl
  have given : (formOutcome folder parser last).toOption = some kept := by rw [parses]; rfl
  simp only [Entries.ofList, Entries.get?_update, namedForms, inCode, if_true, split,
    List.filterMap_append, List.filterMap_cons, given, Option.map_some, List.reverse_append,
    List.reverse_cons, List.append_assoc, List.find?_append]
  have absent : (after.filterMap fun path =>
      (formOutcome folder parser path).toOption.map fun parsed =>
        (formName path, parsed.form)).reverse.find? (fun entry => entry.1 == formName last) =
      none := by
    rw [List.find?_eq_none]
    intro entry member
    rw [List.mem_reverse, List.mem_filterMap] at member
    obtain ⟨path, inAfter, given⟩ := member
    obtain ⟨parsed, outcome, rfl⟩ := Option.map_eq_some_iff.mp given
    intro same
    rw [gone path inAfter (by simpa using same)] at outcome
    cases outcome
  rw [absent]
  simp

theorem exists_last {path : FilePath} (listed : path ∈ formPaths folder)
    (parses : Parses folder parser path) :
    ∃ last ∈ formPaths folder, path ≤ last ∧ formName last = formName path ∧
      Parses folder parser last ∧
      ∀ later ∈ formPaths folder, last < later → formName later = formName last →
        ¬Parses folder parser later := by
  classical
  let rivals := (parsedPaths folder parser).toFinset.filter fun other =>
    path ≤ other ∧ formName other = formName path
  have own : path ∈ rivals := by
    simp [rivals, mem_parsedPaths_iff, listed, parses]
  obtain ⟨last, isRival, greatest⟩ := rivals.exists_max_image id ⟨path, own⟩
  obtain ⟨⟨inside, parsed⟩, after, named⟩ :
      (last ∈ formPaths folder ∧ Parses folder parser last) ∧ path ≤ last ∧
        formName last = formName path := by
    simpa [rivals, mem_parsedPaths_iff] using isRival
  refine ⟨last, inside, after, named, parsed, fun later among beyond same alsoParsed => ?_⟩
  have rival : later ∈ rivals := by
    simp only [rivals, Finset.mem_filter, List.mem_toFinset, mem_parsedPaths_iff]
    exact ⟨⟨among, alsoParsed⟩, le_trans after beyond.le, same.trans named⟩
  exact absurd (greatest later rival) (not_le.mpr beyond)

end Kept

/-- Every file of a form leaves an error for its path, or is parsed; then the bundle has the form of
the last file of that name. So forms and errors are together as many as the files exactly if no two
files that are parsed have one name, as it is where no folder has a dot in its name. -/
theorem load_keeps_forms_iff (folder : AppFolder) (parser : FormParser) (journal : Journal)
    (found : AppConfig × List Omission) (reads : configOutcome folder parser = .ok found)
    (inCode : folder.isFolder codePath = true) :
    let bundle := ((load folder parser).run journal).1
    let formErrors := (formPaths folder).flatMap fun path =>
      failuresOf path (formOutcome folder parser path)
    bundle.errors = failuresOf themePath (themeOutcome folder parser) ++ formErrors ∧
    (∀ path ∈ formPaths folder, ∀ failure, formOutcome folder parser path = .error failure →
      failure.diagnostic path.text ∈ formErrors) ∧
    (∀ path ∈ formPaths folder, Parses folder parser path →
      ∃ last ∈ formPaths folder, path ≤ last ∧ formName last = formName path ∧
        (∀ later ∈ formPaths folder, last < later → formName later = formName last →
          ¬Parses folder parser later) ∧
        ∃ kept, formOutcome folder parser last = .ok kept ∧
          Entries.get? bundle.forms (formName path) = some kept.form) ∧
    (bundle.forms.length + formErrors.length = (formPaths folder).length ↔
      ∀ first ∈ formPaths folder, ∀ second ∈ formPaths folder, Parses folder parser first →
        Parses folder parser second → formName first = formName second → first = second) ∧
    ∀ first second : List String, Undotted first → Undotted second →
      formName (codePath ++ first ++ [Form.fileName]) =
        formName (codePath ++ second ++ [Form.fileName]) → first = second := by
  have same : codeErrors folder parser = (formPaths folder).flatMap fun path =>
      failuresOf path (formOutcome folder parser path) := by simp only [codeErrors, inCode, if_true]
  simp only [load_gives folder parser journal, loaded, reads, ofConfig, same]
  refine ⟨trivial, fun path listed failure fails => ?_, fun path listed parses => ?_, ?_,
    fun first second plain other joined => ?_⟩
  · refine List.mem_flatMap.mpr ⟨path, listed, ?_⟩
    simp [fails, failuresOf]
  · obtain ⟨last, inside, after, named, ⟨kept, outcome⟩, final⟩ :=
      exists_last parser listed parses
    have stands := kept_of_last parser inCode inside outcome final
    exact ⟨last, inside, after, named, final, kept, outcome, named ▸ stands⟩
  · have total := parsed_add_failed parser inCode
    have count := congrArg List.length (namedForms_keys parser inCode)
    rw [List.length_map, List.length_map] at count
    have unique := Entries.length_ofList_eq_iff (namedForms folder parser)
    have distinct : (parsedPaths folder parser).Nodup := (formPaths_sorted folder).nodup.filter _
    rw [namedForms_keys parser inCode, List.nodup_map_iff_inj_on distinct] at unique
    have full : (Entries.ofList (namedForms folder parser)).length +
          (codeErrors folder parser).length = (formPaths folder).length ↔
        (Entries.ofList (namedForms folder parser)).length =
          (namedForms folder parser).length := by omega
    rw [← same, full, unique]
    constructor
    · intro apart first inFirst second inSecond parsed alsoParsed
      exact apart first ((mem_parsedPaths_iff folder parser first).mpr ⟨inFirst, parsed⟩) second
        ((mem_parsedPaths_iff folder parser second).mpr ⟨inSecond, alsoParsed⟩)
    · intro apart first inFirst second inSecond
      obtain ⟨listed, parsed⟩ := (mem_parsedPaths_iff folder parser first).mp inFirst
      obtain ⟨alsoListed, alsoParsed⟩ := (mem_parsedPaths_iff folder parser second).mp inSecond
      exact apart first listed second alsoListed parsed alsoParsed
  · rw [formName_eq, formName_eq] at joined
    exact intercalate_injective plain other joined

def twinFolder : AppFolder where
  place := "app"
  root := ["app"]
  contents := [
    (configPath, asciiFile "name: A\n"),
    (codePath ++ ["A", "B"] ++ [Form.fileName], asciiFile "container: {name: second}\n"),
    (codePath ++ ["A.B"] ++ [Form.fileName], asciiFile "container: {name: first}\n")]

theorem formPaths_twinFolder :
    formPaths twinFolder =
      [codePath ++ ["A", "B"] ++ [Form.fileName], codePath ++ ["A.B"] ++ [Form.fileName]] := by
  rw [formPaths, AppFolder.named, List.mergeSort_of_pairwise]
  · decide +kernel
  · decide +kernel

theorem load_keeps_forms_twinFolder :
    let bundle := ((load twinFolder sampleParser).run {}).1
    bundle.errors = [] ∧ bundle.forms.length ≠ (formPaths twinFolder).length := by
  obtain ⟨found, reads⟩ : ∃ found, configOutcome twinFolder sampleParser = .ok found :=
    exists_of_isOk (by decide +kernel)
  obtain ⟨errors, -, -, full, -⟩ :=
    load_keeps_forms_iff twinFolder sampleParser {} found reads (by decide +kernel)
  have parses : ∀ path ∈ formPaths twinFolder, Parses twinFolder sampleParser path := by
    have both : ∀ path ∈ formPaths twinFolder,
        (formOutcome twinFolder sampleParser path).isOk = true := by
      rw [formPaths_twinFolder]
      decide +kernel
    exact fun path listed => exists_of_isOk (both path listed)
  have faultless : ((formPaths twinFolder).flatMap fun path =>
      failuresOf path (formOutcome twinFolder sampleParser path)) = [] := by
    rw [formPaths_twinFolder]
    decide +kernel
  have described : failuresOf themePath (themeOutcome twinFolder sampleParser) = [] := by
    decide +kernel
  refine ⟨by rw [errors, faultless, described]; rfl, fun complete => ?_⟩
  rw [faultless, List.length_nil, Nat.add_zero] at full
  have apart := full.mp complete
  have first : codePath ++ ["A", "B"] ++ [Form.fileName] ∈ formPaths twinFolder := by
    simp [formPaths_twinFolder]
  have second : codePath ++ ["A.B"] ++ [Form.fileName] ∈ formPaths twinFolder := by
    simp [formPaths_twinFolder]
  have same := apart _ first _ second (parses _ first) (parses _ second) (by decide +kernel)
  simp at same

end AppBundle

end FormCompiler
