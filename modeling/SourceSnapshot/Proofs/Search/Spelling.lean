import SourceSnapshot.Proofs.FileSystem.Respelling
import SourceSnapshot.Proofs.Search.Walk

/-! Searches from two paths of one directory. What is found is called by its names below the directory, and
whether it is found depends on where its path leads, which is the same behind either path; so the two searches
find the same names, and in the same order. -/
namespace SourceSnapshot

/-- Two paths lead to one place, and all directories there and below can be listed behind either. -/
structure FileSystem.Respelled (fs : FileSystem) (root root' : Path) (loc : Location) (node : Node) : Prop where
  resolves : fs.resolve root = .ok (loc, node)
  resolves' : fs.resolve root' = .ok (loc, node)
  listable : fs.Listable root node
  listable' : fs.Listable root' node

namespace Search
open FileSystem
variable {s : Search} {root' : Path} {loc : Location} {node : Node} {names : List Name}

/-- What is to be found below a directory does not depend on the path that the search began with. -/
theorem finds_root_iff {dir : Path} {depth : Nat} :
    Finds { s with root := root' } dir depth node names ↔ s.Finds dir depth node names := by
  constructor
  · rintro ⟨named, entered, present, near, kept⟩
    exact ⟨named, entered, present, near, kept⟩
  · rintro ⟨named, entered, present, near, kept⟩
    exact ⟨named, entered, present, near, kept⟩

theorem Finds.isDir {dir : Path} {depth : Nat} (h : s.Finds dir depth node names) : node.isDir := by
  obtain ⟨entry, hentry, -⟩ := h.present
  exact Bool.of_not_eq_false fun hnone => h.named (Node.eq_nil_of_at? hnone hentry)

/-- What a search is to find behind the one path is to be found behind the other, if its own path leads to the
same. -/
theorem Finds.respelled {dir dir' : Path} {depth : Nat} (h : s.Finds dir depth node names) (hskip : s.skip = none)
    (hland : s.fs.land .follow (dir'.under names) = s.fs.land .follow (dir.under names)) :
    s.Finds dir' depth node names where
  named := h.named
  entered := h.entered
  present := by
    obtain ⟨entry, hentry, hdir, hlink⟩ := h.present
    refine ⟨entry, hentry, hdir, ?_⟩
    intro hislink
    rw [← hlink hislink, FileSystem.isDir, FileSystem.isDir, hland]
  near := h.near
  kept := by
    intro loc hloc
    rw [hskip] at hloc
    cases hloc

section
variable (h : s.fs.Respelled s.root root' loc node)
  (hrefused : ∀ names, s.Finds s.root 0 node names ∨ s.Finds root' 0 node names →
    s.fs.RefusedAlike (s.root.under names) (root'.under names))
include h hrefused

/-- The names that are found lead to the same behind both paths. -/
theorem land_under_of_finds (hfinds : s.Finds s.root 0 node names ∨ s.Finds root' 0 node names) :
    s.fs.land .follow (root'.under names) = s.fs.land .follow (s.root.under names) := by
  have halike := hrefused names hfinds
  rcases hfinds with hfinds | hfinds
  · exact land_under_congr h.resolves h.resolves' hfinds.isDir hfinds.named halike
  · exact land_under_congr h.resolves h.resolves' hfinds.isDir hfinds.named halike

variable (hskip : s.skip = none)
include hskip

theorem finds_respelled_iff : s.Finds root' 0 node names ↔ s.Finds s.root 0 node names := by
  constructor
  · intro hfinds
    exact hfinds.respelled hskip (land_under_of_finds h hrefused (.inr hfinds)).symm
  · intro hfinds
    exact hfinds.respelled hskip (land_under_of_finds h hrefused (.inl hfinds))

variable (hname : s.root.components ≠ [.name [0x2D]]) (hname' : root'.components ≠ [.name [0x2D]])
  (hignore : s.config.respectGitignore = false)
include hname hname' hignore

/-- The two searches find the same names in the same order. -/
theorem map_relative_respelled : (files { s with root := root' }).map FoundFile.relative =
    s.files.map FoundFile.relative := by
  let other : Search := { s with root := root' }
  have hmem (relative : Path) : relative ∈ other.files.map FoundFile.relative ↔
      relative ∈ s.files.map FoundFile.relative := by
    have hfinds (file : FoundFile) :
        file ∈ s.files ↔ ∃ names, s.Finds s.root 0 node names ∧ file = s.fileAt names :=
      mem_files h.resolves hname hignore h.listable
    have hfinds' (file : FoundFile) :
        file ∈ other.files ↔ ∃ names, s.Finds s.root 0 node names ∧ file = other.fileAt names := by
      rw [mem_files (s := other) h.resolves' hname' hignore h.listable']
      simp only [other, finds_root_iff, finds_respelled_iff h hrefused hskip]
    simp only [List.mem_map, hfinds, hfinds']
    constructor
    · rintro ⟨_, ⟨names, hnames, rfl⟩, rfl⟩
      exact ⟨s.fileAt names, ⟨names, hnames, rfl⟩, rfl⟩
    · rintro ⟨_, ⟨names, hnames, rfl⟩, rfl⟩
      exact ⟨other.fileAt names, ⟨names, hnames, rfl⟩, rfl⟩
  have hsorted (s : Search) : (s.files.map FoundFile.relative).Pairwise fun a b => a.names < b.names :=
    List.pairwise_map.2 (pairwise_files s)
  have hperm := (List.perm_ext_iff_of_nodup (nodup_files other) (nodup_files s)).2 hmem
  apply hperm.eq_of_pairwise _ (hsorted other) (hsorted s)
  intro a b _ _ hab hba
  exact absurd hba (List.lt_asymm hab)

/-- What is made of the files in order agrees if it agrees name by name. -/
theorem map_files_respelled {β : Type} {f g : FoundFile → β}
    (hfg : ∀ names, s.Finds s.root 0 node names → g (fileAt { s with root := root' } names) = f (s.fileAt names)) :
    (files { s with root := root' }).map g = s.files.map f := by
  apply map_congr_of_keys (map_relative_respelled h hrefused hskip hname hname' hignore)
  intro file' hfile' file hfile hkey
  obtain ⟨names, hfinds, rfl⟩ := (mem_files h.resolves hname hignore h.listable).1 hfile
  obtain ⟨names', -, rfl⟩ :=
    (mem_files (s := { s with root := root' }) h.resolves' hname' hignore h.listable').1 hfile'
  obtain rfl := Path.ofNames_inj hkey
  exact hfg names' hfinds

end

end Search
end SourceSnapshot
