import SourceSnapshot.Proofs.FileSystem.Reading
import SourceSnapshot.Proofs.Ignore.Consulting
import SourceSnapshot.Proofs.Search.Meanwhile

/-! Searches that do not read the file that is written meanwhile. Whatever stands in a file by then, it is found
where it was, and so is all else; so unless it is read for its rules the search is one of files at rest. -/
namespace SourceSnapshot.Search
open FileSystem

variable {s : Search} {loc : Location} {dir path : Path}

/-- None of the paths that are read for the rules of a search leads to the file at a location. -/
def Spares (s : Search) (loc : Location) : Prop := ∀ path, s.Consults path → s.fs.Misses path loc

theorem spares_of_not_respectGitignore (h : s.config.respectGitignore = false) (loc : Location) : s.Spares loc := by
  rintro path ⟨hrespects, -⟩
  rw [h] at hrespects
  cases hrespects

section
variable (h : s.Spares loc) (content : Bytes)
include h

theorem Spares.level (hrespects : s.config.respectGitignore) (hdir : s.ReadsIn dir) :
    Ignore.Level.ofDir (s.fs.setContent loc content) dir = Ignore.Level.ofDir s.fs dir := by
  apply Ignore.Level.ofDir_congr
  · exact Ignore.isFile_agree (sameSystem_setContent s.fs loc content).toSameProcess fun there _ =>
      agreeAt_setContent s.fs loc content there
  · intro path hpath
    exact read_setContent (h path ⟨hrespects, .inl ⟨dir, hdir, hpath⟩⟩)

theorem Spares.rules : Search.rules { s with fs := s.fs.setContent loc content } = s.rules := by
  have hsame := (sameSystem_setContent s.fs loc content).toSameProcess
  refine @rules_congr s { s with fs := s.fs.setContent loc content } rfl rfl
    (canonical?_setContent s.fs loc content s.root) ?_ ?_
  · intro hrespects
    apply Ignore.UserRules.read?_congr hsame
    · intro path
      exact Ignore.isFile_agree hsame fun there _ => agreeAt_setContent s.fs loc content there
    · intro path hpath
      exact read_setContent (h path ⟨hrespects, .inr hpath⟩)
  · intro hrespects dir hdir
    exact h.level content hrespects hdir

end

theorem startEvents_setContent (content : Bytes) (rules : Option Ignore.Stack) :
    startEvents { s with fs := s.fs.setContent loc content } rules = s.startEvents rules := rfl

theorem rootEvents_setContent (content : Bytes) (rules : Option Ignore.Stack) :
    rootEvents { s with fs := s.fs.setContent loc content } rules = s.rootEvents rules := by
  rw [rootEvents, rootEvents]
  dsimp only
  rw [isDir_setContent]
  have hagree := resolve_agree (p := s.root) (sameSystem_setContent s.fs loc content).toSameProcess fun there _ =>
    agreeAt_setContent s.fs loc content there
  rcases outline_cases hagree with ⟨e, here, there⟩ | ⟨other, node, node', here, there, -⟩
  · rw [here, there]
  · rw [here, there]

section
variable {m : Type → Type} {visit : Event → m Unit}

/-- A search that the file is not read for goes alike whatever stands there. -/
theorem Spares.alike (h : s.Spares loc) (content : Bytes) {base : Location} {node : Node}
    (hroot : s.fs.resolve s.root = .ok (base, node)) :
    Alike s { s with fs := s.fs.setContent loc content } visit visit node node where
  config := rfl
  root := rfl
  shape := ⟨distinct_of_resolve hroot, distinct_of_resolve hroot, fun _ _ _ => rfl⟩
  links := fun _ _ _ _ _ _ => isDir_setContent s.fs loc content _
  skipped := by
    intro names
    rw [isSkipped, isSkipped]
    cases s.skip with
    | none => rfl
    | some skip => exact congrArg (· == some skip) (canonical?_setContent s.fs loc content _)
  levels := fun above rules name entries hsearched hsome hdir =>
    h.level content (hsearched.respects hsome) (.inside hroot hsearched hdir)
  notices := fun _ => rfl
  files := fun _ _ _ _ _ _ _ _ => rfl

/-- A visitor that writes a file does what it does with files at rest, if the search does not read that file for
its rules. -/
theorem Spares.forEachEventIn [Monad m] [LawfulMonad m] (h : s.Spares loc) {look : m FileSystem}
    (hlook : ∀ (next : FileSystem → m Unit) (step : m Unit),
      (∀ content, next (s.fs.setContent loc content) = step) → look >>= next = step) :
    s.forEachEventIn look visit = s.forEachEvent visit := by
  have hseen (next : FileSystem → m Unit) (step : m Unit)
      (hnext : ∀ fs, (∃ content, fs = s.fs.setContent loc content) → next fs = step) : look >>= next = step :=
    hlook next step fun content => hnext _ ⟨content, rfl⟩
  refine forEachEventIn_of_alike hseen ?_ ?_
  · rintro fs ⟨content, rfl⟩
    exact ⟨h.rules content, startEvents_setContent content s.rules, rootEvents_setContent content s.rules⟩
  · rintro fs ⟨content, rfl⟩ base node hroot
    exact h.alike content hroot

end

/-- What such a search meets is what it meets in files at rest. -/
theorem Spares.met (h : s.Spares loc) {world : World}
    (hworld : ∀ events, ∃ content, world events = s.fs.setContent loc content) : s.met world = s.events := by
  have hrun : s.forEachEventIn (world <$> get) note = s.forEachEvent note := by
    refine h.forEachEventIn fun next step hnext => ?_
    funext before
    obtain ⟨content, hcontent⟩ := hworld before
    have hstep := congrFun (hnext content) before
    rw [← hcontent] at hstep
    exact hstep
  rw [Search.met, hrun, forEachEvent_eq_forM, run_forM_note, List.nil_append]

end SourceSnapshot.Search
