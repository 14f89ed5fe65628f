import Mathlib.Data.List.Induction
import SourceSnapshot.Proofs.Config.Normal

/-! Changes to a configuration, one after another. Of the changes that replace the extensions the last one counts, and
the names to leave out are added up; so changes of different kinds can change places, and a change that is made again
changes nothing. -/
namespace SourceSnapshot

namespace Change

inductive Kind
  | extensions
  | dirs
  | files
  deriving DecidableEq

def kind : Change → Kind
  | withExtensions _ => .extensions
  | excludeDirs _ => .dirs
  | excludeFiles _ => .files

def extensions? : Change → Option (List String)
  | withExtensions extensions => some extensions
  | _ => none

end Change

namespace Config
variable {base c c' : Config} {changes : List Change}

/-- A configuration is a base after changes: it has the extensions of the last change that replaces them, in normal form,
all names to leave out, and all else from the base. -/
structure Layered (base : Config) (changes : List Change) (c : Config) : Prop where
  includedExtensions : c.includedExtensions =
    match (changes.filterMap Change.extensions?).getLast? with
    | some extensions => .ofList (extensions.map normalizeExtension)
    | none => base.includedExtensions
  excludedDirs : ∀ name, name ∈ c.excludedDirs ↔
    name ∈ base.excludedDirs ∨ ∃ names, .excludeDirs names ∈ changes ∧ name ∈ names
  excludedFiles : ∀ name, name ∈ c.excludedFiles ↔
    name ∈ base.excludedFiles ∨ ∃ names, .excludeFiles names ∈ changes ∧ name ∈ names
  structureDepth : c.structureDepth = base.structureDepth
  maxDepth : c.maxDepth = base.maxDepth
  respectGitignore : c.respectGitignore = base.respectGitignore

/-- One change more. -/
theorem Layered.concat (h : Layered base changes c) (x : Change) : Layered base (changes ++ [x]) (c.change x) := by
  cases x with
  | withExtensions extensions =>
    refine ⟨?_, ?_, ?_, h.structureDepth, h.maxDepth, h.respectGitignore⟩
    · simp [List.filterMap_append, Change.extensions?, change, withExtensions]
    · simpa [change, withExtensions] using h.excludedDirs
    · simpa [change, withExtensions] using h.excludedFiles
  | excludeDirs names =>
    refine ⟨?_, ?_, ?_, h.structureDepth, h.maxDepth, h.respectGitignore⟩
    · simpa [List.filterMap_append, Change.extensions?, change, excludeDirs] using h.includedExtensions
    · intro name
      simp [change, excludeDirs, h.excludedDirs, or_and_right, exists_or, or_assoc]
    · simpa [change, excludeDirs] using h.excludedFiles
  | excludeFiles names =>
    refine ⟨?_, ?_, ?_, h.structureDepth, h.maxDepth, h.respectGitignore⟩
    · simpa [List.filterMap_append, Change.extensions?, change, excludeFiles] using h.includedExtensions
    · simpa [change, excludeFiles] using h.excludedDirs
    · intro name
      simp [change, excludeFiles, h.excludedFiles, or_and_right, exists_or, or_assoc]

theorem layered_foldl (base : Config) (changes : List Change) : Layered base changes (changes.foldl change base) := by
  induction changes using List.reverseRecOn with
  | nil => exact ⟨rfl, by simp, by simp, rfl, rfl, rfl⟩
  | append_singleton changes x ih =>
    rw [List.foldl_append]
    exact ih.concat x

theorem ext_fields (hextensions : c.includedExtensions = c'.includedExtensions)
    (hdirs : ∀ name, name ∈ c.excludedDirs ↔ name ∈ c'.excludedDirs)
    (hfiles : ∀ name, name ∈ c.excludedFiles ↔ name ∈ c'.excludedFiles)
    (hstructure : c.structureDepth = c'.structureDepth) (hmax : c.maxDepth = c'.maxDepth)
    (hignore : c.respectGitignore = c'.respectGitignore) : c = c' := by
  have hdirs := NameSet.ext_mem hdirs
  have hfiles := NameSet.ext_mem hfiles
  cases c
  cases c'
  simp_all

theorem Layered.unique (h : Layered base changes c) (h' : Layered base changes c') : c = c' := by
  apply ext_fields
  · rw [h.includedExtensions, h'.includedExtensions]
  · intro name
    rw [h.excludedDirs, h'.excludedDirs]
  · intro name
    rw [h.excludedFiles, h'.excludedFiles]
  · rw [h.structureDepth, h'.structureDepth]
  · rw [h.maxDepth, h'.maxDepth]
  · rw [h.respectGitignore, h'.respectGitignore]

theorem filterMap_extensions?_filter (changes : List Change) :
    (changes.filter (·.kind = .extensions)).filterMap Change.extensions? = changes.filterMap Change.extensions? := by
  rw [List.filterMap_filter]
  congr 1
  funext x
  cases x <;> rfl

/-- Only the order within each kind of change counts. -/
theorem Layered.of_filter {changes' : List Change} (h : Layered base changes c)
    (hsame : ∀ kind, changes.filter (·.kind = kind) = changes'.filter (·.kind = kind)) :
    Layered base changes' c where
  includedExtensions := by
    rw [← filterMap_extensions?_filter, ← hsame, filterMap_extensions?_filter]
    exact h.includedExtensions
  excludedDirs name := by
    have hmem (names : List String) : .excludeDirs names ∈ changes ↔ .excludeDirs names ∈ changes' := by
      simpa [List.mem_filter, Change.kind] using congrArg (Change.excludeDirs names ∈ ·) (hsame .dirs)
    simp only [h.excludedDirs, hmem]
  excludedFiles name := by
    have hmem (names : List String) : .excludeFiles names ∈ changes ↔ .excludeFiles names ∈ changes' := by
      simpa [List.mem_filter, Change.kind] using congrArg (Change.excludeFiles names ∈ ·) (hsame .files)
    simp only [h.excludedFiles, hmem]
  structureDepth := h.structureDepth
  maxDepth := h.maxDepth
  respectGitignore := h.respectGitignore

theorem foldl_change_congr {changes' : List Change} (base : Config)
    (hsame : ∀ kind, changes.filter (·.kind = kind) = changes'.filter (·.kind = kind)) :
    changes.foldl change base = changes'.foldl change base :=
  ((layered_foldl base changes).of_filter hsame).unique (layered_foldl base changes')

theorem change_comm (c : Config) {x y : Change} (h : x.kind ≠ y.kind) :
    (c.change x).change y = (c.change y).change x := by
  have hsame (kind : Change.Kind) : [x, y].filter (·.kind = kind) = [y, x].filter (·.kind = kind) := by
    by_cases hx : x.kind = kind
    · have hy : y.kind ≠ kind := fun hy => h (hx.trans hy.symm)
      simp [hx, hy]
    · simp [List.filter_cons, hx]
  exact foldl_change_congr c hsame

theorem change_change (c : Config) (x : Change) : (c.change x).change x = c.change x := by
  cases x with
  | withExtensions extensions => rfl
  | excludeDirs names =>
    refine ext_fields rfl (fun name => ?_) (fun _ => .rfl) rfl rfl rfl
    simp [change, excludeDirs]
  | excludeFiles names =>
    refine ext_fields rfl (fun _ => .rfl) (fun name => ?_) rfl rfl rfl
    simp [change, excludeFiles]

end Config
end SourceSnapshot
