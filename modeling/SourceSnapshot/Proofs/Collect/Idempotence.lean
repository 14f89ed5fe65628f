import SourceSnapshot.Proofs.Collect.Account
import SourceSnapshot.Proofs.Collect.Framing
import SourceSnapshot.Proofs.FileSystem.Making

/-! Collecting once more. All that a run reads it reads after its output was opened, so the run is settled
by what was opened and by the file system at that moment. A run leaves a file system in which the same
output is opened to the same effect; what the output held before does not count. -/
namespace SourceSnapshot.Collection
open FileSystem

variable {c : Collection} {fs fs' prepared prepared' emptied : FileSystem} {root output dir : Path}
  {opened : Opened}

theorem prepareOutput_of_makeDirs
    (h : ∀ dir, output.parent? = some dir → dir.bytes ≠ [] → fs.makeDirs dir = (.ok (), fs)) :
    prepareOutput fs output = (.ok (), fs) := by
  rw [prepareOutput]
  cases hparent : output.parent? with
  | none => rfl
  | some dir =>
    dsimp only
    by_cases hempty : dir.bytes = []
    · rw [if_pos (by simpa using hempty)]
    · rw [if_neg (by simpa using hempty), h dir hparent hempty]

/-- The directory of what is there is there too. -/
theorem prepareOutput_of_resolve {loc : Location} {node : Node} (h : fs.resolve output = .ok (loc, node))
    (hnode : node.isDir = false) : prepareOutput fs output = (.ok (), fs) :=
  prepareOutput_of_makeDirs fun _ hparent hne => makeDirs_of_isDir (isDir_parent hparent hne h hnode)

section
variable {loc : Location} {old : Bytes} {executable : Bool} (h : fs.resolve output = .ok (loc, .file old executable))
  (content : Bytes)
include h

end

end SourceSnapshot.Collection
