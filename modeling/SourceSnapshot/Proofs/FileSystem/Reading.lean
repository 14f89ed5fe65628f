import SourceSnapshot.Proofs.FileSystem.Agreement
import SourceSnapshot.Proofs.FileSystem.Setting
import SourceSnapshot.Proofs.Path.Steps

/-! What is read after a file was written. Every path leads where it led, and all but those that lead to the
file give what they gave. -/
namespace SourceSnapshot.FileSystem
variable {fs fs' : FileSystem} {p : Path} {loc : Location} {content : Bytes} {node : Node}
  {steps : List PathStep}

/-- A path leads to none of the names of the file at a location. -/
def Misses (fs : FileSystem) (p : Path) (loc : Location) : Prop :=
  ∀ there node, fs.resolve p = .ok (there, node) → fs.isNameOf loc there = false

theorem read_of_surface {loc' : Location} {node' : Node} (here : fs.resolve p = .ok (loc, node))
    (there : fs'.resolve p = .ok (loc', node')) (h : node'.surface = node.surface) : fs'.read p = fs.read p := by
  rw [read, read, here, there]
  cases node <;> cases node' <;> first | rfl | cases h <;> rfl

/-- A path leads to the location that it is said to lead to, or none is said. -/
theorem canonical?_of_resolve (h : fs.resolve p = .ok (loc, node)) :
    fs.canonical? p = some loc ∨ fs.canonical? p = none := by
  obtain ⟨steps, hsteps, hfollow⟩ := exists_steps_of_resolve h
  rw [canonical?, (Path.stepsWithin_eq_ok_iff.1 hsteps).1]
  simp only [hfollow]
  split
  · exact .inr rfl
  · exact .inl rfl

theorem canonical?_setContent (fs : FileSystem) (loc : Location) (content : Bytes) (p : Path) :
    (fs.setContent loc content).canonical? p = fs.canonical? p :=
  canonical?_agree (sameSystem_setContent fs loc content).toSameProcess (agreeAt_setContent fs loc content)

theorem isDir_setContent (fs : FileSystem) (loc : Location) (content : Bytes) (p : Path) :
    (fs.setContent loc content).isDir p = fs.isDir p :=
  isDir_agree (sameSystem_setContent fs loc content).toSameProcess fun there _ =>
    agreeAt_setContent fs loc content there

/-- What is read is another only where a path leads to the file. -/
theorem read_setContent (hpath : fs.Misses p loc) : (fs.setContent loc content).read p = fs.read p := by
  have hagree := resolve_agree (p := p) (sameSystem_setContent fs loc content).toSameProcess fun there _ =>
    agreeAt_setContent fs loc content there
  rcases outline_cases hagree with ⟨e, here, there⟩ | ⟨other, node, node', here, there, -⟩
  · rw [read, read, here, there]
  · have hsurface : ((fs.setContent loc content).top.at? other).map Node.surface = _ :=
      surface_at?_setContent (hpath other node here)
    rw [at?_of_resolve here, at?_of_resolve there] at hsurface
    exact read_of_surface here there (Option.some.inj hsurface)

end SourceSnapshot.FileSystem
