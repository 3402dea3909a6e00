import FormCompiler.App.Folder
import Mathlib.Data.List.Lex
import Mathlib.Data.List.Nodup
import Mathlib.Data.String.Basic

set_option autoImplicit false

namespace FormCompiler

theorem nodup_eraseDups {α : Type} [BEq α] [LawfulBEq α] (items : List α) :
    items.eraseDups.Nodup := by
  -- What follows the first item is taken from a shorter list, in which the item is left out.
  induction length : items.length using Nat.strong_induction_on generalizing items with
  | h count ih =>
    cases items with
    | nil => simp
    | cons item rest =>
      have shorter := rest.length_filter_le (!· == item)
      rw [List.length_cons] at length
      rw [List.eraseDups_cons, List.nodup_cons]
      exact ⟨by simp [List.mem_eraseDups], ih _ (by omega) _ rfl⟩

namespace FilePath

theorem sortsBefore_iff (a b : FilePath) : sortsBefore a b = true ↔ a ≤ b := by
  rw [← not_lt]
  induction a generalizing b with
  | nil => simp [sortsBefore]
  | cons part rest ih =>
    cases b with
    | nil => simp [sortsBefore]
    | cons other others =>
      simp only [sortsBefore, List.cons_lt_cons_iff]
      split
      · next same =>
        subst same
        simp only [ih, lt_irrefl, true_and, false_or]
      · next differs =>
        have reversed : other ≠ part := fun same => differs same.symm
        rw [decide_eq_true_iff]
        simp only [reversed, false_and, or_false, not_lt]
        exact (Ne.le_iff_lt differs).symm

theorem mem_ways_iff (way path : FilePath) : way ∈ ways path ↔ way ≠ [] ∧ way <+: path := by
  induction path generalizing way with
  | nil => simp [ways]
  | cons part rest ih =>
    cases way with
    | nil => simp [ways]
    | cons first others =>
      simp only [ways, List.mem_cons, List.mem_map, List.cons_prefix_cons, ih]
      constructor
      · rintro (same | ⟨below, ⟨-, inside⟩, same⟩)
        · cases same
          simp
        · cases same
          simp [inside]
      · rintro ⟨-, rfl, inside⟩
        cases others with
        | nil => simp
        | cons second others => exact .inr ⟨second :: others, ⟨by simp, inside⟩, rfl⟩

end FilePath

namespace AppFolder

theorem mem_paths_iff (folder : AppFolder) (path : FilePath) :
    path ∈ folder.paths ↔ path ≠ [] ∧ ∃ entry ∈ folder.contents, path <+: entry.1 := by
  simp only [paths, List.mem_eraseDups, List.mem_flatMap, FilePath.mem_ways_iff]
  tauto

theorem content?_isSome_iff (folder : AppFolder) {path : FilePath} (inside : path ≠ []) :
    (folder.content? path).isSome = true ↔ path ∈ folder.paths := by
  simp only [content?]
  split
  · next key content found =>
    have listed := List.mem_of_find?_eq_some found
    have same : key = path := by simpa using List.find?_some found
    simp only [Option.isSome_some, true_iff]
    exact (folder.mem_paths_iff path).mpr ⟨inside, (key, content), listed, by simp [same]⟩
  · cases listed : folder.paths.contains path <;> simp_all

theorem mem_named_iff (folder : AppFolder) (top : FilePath) (name : String) (path : FilePath) :
    path ∈ folder.named top name ↔
      (folder.content? path).isSome = true ∧ ∃ between, path = top ++ between ++ [name] := by
  have below : (top.isPrefixOf path = true ∧ top.length < path.length) ∧
      path.getLast? = some name ↔ ∃ between, path = top ++ between ++ [name] := by
    rw [List.isPrefixOf_iff_prefix, List.getLast?_eq_some_iff]
    constructor
    · rintro ⟨⟨⟨rest, rfl⟩, longer⟩, front, split⟩
      have nonempty : rest ≠ [] := by
        rintro rfl
        simp at longer
      refine ⟨rest.dropLast, ?_⟩
      have last : rest.getLast nonempty = name := by
        have whole := congrArg List.getLast? split
        rw [List.getLast?_append_of_ne_nil _ nonempty, List.getLast?_eq_some_getLast nonempty]
          at whole
        simpa using whole
      rw [List.append_assoc, ← last, List.dropLast_append_getLast nonempty]
    · rintro ⟨between, rfl⟩
      refine ⟨⟨⟨between ++ [name], by simp⟩, ?_⟩, top ++ between, rfl⟩
      simp only [List.length_append, List.length_cons]
      omega
  simp only [named, List.mem_mergeSort, List.mem_filter, Bool.and_eq_true, decide_eq_true_iff,
    beq_iff_eq, below]
  constructor
  · rintro ⟨listed, between, rfl⟩
    exact ⟨(folder.content?_isSome_iff (by simp)).mpr listed, between, rfl⟩
  · rintro ⟨there, between, rfl⟩
    exact ⟨(folder.content?_isSome_iff (by simp)).mp there, between, rfl⟩

theorem named_sorted (folder : AppFolder) (top : FilePath) (name : String) :
    (folder.named top name).Pairwise (· < ·) := by
  have sorted : (folder.named top name).Pairwise (· ≤ ·) := by
    refine (List.pairwise_mergeSort ?_ ?_ _).imp fun before =>
      (FilePath.sortsBefore_iff _ _).mp before
    · intro a b c
      simp only [FilePath.sortsBefore_iff]
      exact le_trans
    · intro a b
      simp only [Bool.or_eq_true, FilePath.sortsBefore_iff]
      exact le_total a b
  have distinct : (folder.named top name).Nodup :=
    (List.mergeSort_perm _ _).nodup_iff.mpr ((nodup_eraseDups _).filter _)
  exact (sorted.and distinct).imp fun ⟨before, differs⟩ => lt_of_le_of_ne before differs

def withFile (folder : AppFolder) (path : FilePath) (bytes : List UInt8) : AppFolder :=
  { folder with
    contents := folder.contents.map fun entry =>
      if entry.1 = path then (entry.1, .file bytes) else entry }

section WithFile

variable (folder : AppFolder) (path : FilePath) (bytes : List UInt8)

theorem paths_withFile : (folder.withFile path bytes).paths = folder.paths := by
  have keys (entry : FilePath × Content) :
      (if entry.1 = path then (entry.1, Content.file bytes) else entry).1 = entry.1 := by
    split <;> rfl
  simp [paths, withFile, List.flatMap_map, keys]

theorem named_withFile (top : FilePath) (name : String) :
    (folder.withFile path bytes).named top name = folder.named top name := by
  simp [named, paths_withFile]

theorem content?_withFile {other : FilePath} (differs : other ≠ path) :
    (folder.withFile path bytes).content? other = folder.content? other := by
  have found (entries : List (FilePath × Content)) :
      (entries.map fun entry =>
        if entry.1 = path then (entry.1, Content.file bytes) else entry).find?
          (fun entry => entry.1 == other) = entries.find? fun entry => entry.1 == other := by
    induction entries with
    | nil => rfl
    | cons entry rest ih =>
      by_cases same : entry.1 = path
      · simp [same, differs.symm, ih]
      · simp [same, List.find?_cons, ih]
  simp only [content?, paths_withFile]
  rw [withFile, found]

theorem isFile_withFile {other : FilePath} (differs : other ≠ path) :
    (folder.withFile path bytes).isFile other = folder.isFile other := by
  simp only [isFile, content?_withFile folder path bytes differs]

theorem isFolder_withFile {other : FilePath} (differs : other ≠ path) :
    (folder.withFile path bytes).isFolder other = folder.isFolder other := by
  simp only [isFolder, content?_withFile folder path bytes differs]

theorem read_withFile {other : FilePath} (differs : other ≠ path) :
    (folder.withFile path bytes).read other = folder.read other := by
  simp only [read, content?_withFile folder path bytes differs]
  rfl

end WithFile

end AppFolder

end FormCompiler
