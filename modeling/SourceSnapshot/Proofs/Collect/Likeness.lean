import SourceSnapshot.Proofs.Collect.Composition
import SourceSnapshot.Proofs.Search.Likeness
import SourceSnapshot.Proofs.Search.Meanwhile
import SourceSnapshot.Proofs.Tree.Shape

/-! Runs that go alike. A snapshot is settled by the drawing of the structure and by what is done at each
thing that the search meets; so where two file systems look alike below the root, and the visits to what is
found there do the same, the two snapshots are one, down to what is told. -/
namespace SourceSnapshot.Collection

variable {c : Collection} {fs fs' : FileSystem} {root path : Path} {output : Option Path} {file : FoundFile}

@[simp] theorem fs_search : (c.search fs root output).fs = fs := by cases output <;> rfl

@[simp] theorem config_search : (c.search fs root output).config = c.config := by cases output <;> rfl

@[simp] theorem root_search : (c.search fs root output).root = root := by cases output <;> rfl

theorem takeStructure_of_alike (h : FileSystem.AlikeBelow c.config root fs fs')
    (hrenderer : c.renderer = .builtin ∨ c.renderer = .none) :
    c.takeStructure fs' root = c.takeStructure fs root := by
  unfold takeStructure
  rw [h.isDir_eq, Renderer.drawing_of_alike h hrenderer]

/-- What a file holds counts only if the file is collected. -/
theorem takeFile_congr
    (h : c.config.decide file.path = .included → fs'.read file.path = fs.read file.path) :
    c.takeFile fs' file = c.takeFile fs file := by
  unfold takeFile
  by_cases hincluded : c.config.decide file.path = .included
  · rw [outcomeOf, outcomeOf, h hincluded]
  · simp only [if_neg hincluded]

theorem takeEvent_congr (h : c.config.decide file.path = .included → fs'.read file.path = fs.read file.path) :
    c.takeEvent (fun _ => fs') (.file file) = c.takeEvent (fun _ => fs) (.file file) := takeFile_congr h

/-- Snapshots of file systems that look alike from the root are the same, if so are the rules there and the
visits to what is found. -/
theorem snapshot_of_alike (hrenderer : c.renderer = .builtin ∨ c.renderer = .none)
    (hbelow : FileSystem.AlikeBelow c.config root fs fs')
    (hrules : (c.search fs' root output).rules = (c.search fs root output).rules)
    (halike : ∀ loc node node', fs.resolve root = .ok (loc, node) → fs'.resolve root = .ok (loc, node') →
      Search.Alike (c.search fs root output) (c.search fs' root output) (c.takeEvent fun _ => fs)
        (c.takeEvent fun _ => fs') node node')
    (sink : Sink) : c.snapshot fs' root sink output = c.snapshot fs root sink output := by
  have hevents : (c.search fs' root output).events.map (c.takeEvent fun _ => fs') =
      (c.search fs root output).events.map (c.takeEvent fun _ => fs) := by
    apply Search.map_events (root_search.trans root_search.symm) hrules
    · rw [config_search, root_search, fs_search, fs_search]
      exact hbelow
    · intro notice
      rfl
    · intro loc node node' here there
      rw [fs_search, root_search] at here there
      exact halike loc node node' here there
  -- a visit to each thing that is met is a list of steps, taken one after another
  have hvisits (fs : FileSystem) : (c.search fs root output).forEachEvent (c.takeEvent fun _ => fs) =
      ((c.search fs root output).events.map (c.takeEvent fun _ => fs)).forM id := by
    rw [Search.forEachEvent_eq_forM, Search.forM_map_id]
  have htake : c.take (fun _ => fs') root output = c.take (fun _ => fs) root output := by
    rw [take_const, take_const, takeStructure_of_alike hbelow hrenderer, hvisits, hvisits, hevents]
  rw [snapshot, snapshot, snapshotSeeing, snapshotSeeing, htake]

end SourceSnapshot.Collection
