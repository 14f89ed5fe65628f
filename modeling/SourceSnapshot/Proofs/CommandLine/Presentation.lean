import SourceSnapshot.Proofs.Collect.Account
import SourceSnapshot.Proofs.CommandLine.Acceptance
import SourceSnapshot.Proofs.CommandLine.Course

/-! What is said about how a run is shown does not bear on what the run does. Two command lines that differ in
such arguments alone leave the same file system behind, whatever the environments in which they are run. -/
namespace SourceSnapshot.CommandLine
open Collection

variable {free : List Argument} {o o' changed : Options} {x : Occurrence} {fs : FileSystem}
  {arguments other : List Bytes}

def presentation : List Argument := [.verbose, .json, .color]

/-- The options as if none of these arguments had occurred. -/
def Options.without (o : Options) (free : List Argument) : Options :=
  { o with
    json := if .json ∈ free then false else o.json
    color := if .color ∈ free then .auto else o.color
    verbosity := if .verbose ∈ free then 0 else o.verbosity }

theorem without_set_of_mem (hfree : free ⊆ presentation) (hx : x.1 ∈ free) (h : o.set x = .ok changed) :
    changed.without free = o.without free := by
  obtain ⟨a, value⟩ := x
  have ha : a = .verbose ∨ a = .json ∨ a = .color := by
    simpa [presentation] using hfree hx
  rcases ha with rfl | rfl | rfl
  · cases value <;> obtain rfl := Except.ok.inj h
    · simp_all [Options.without]
    · rfl
  · cases value <;> obtain rfl := Except.ok.inj h
    · simp_all [Options.without]
    · rfl
  · cases value with
    | none =>
      obtain rfl := Except.ok.inj h
      rfl
    | some value =>
      obtain ⟨mode, -, h⟩ := exists_of_bind h
      obtain rfl := Except.ok.inj h
      simp_all [Options.without]

theorem set_without_of_not_mem (hx : x.1 ∉ free) (h : o.set x = .ok changed) :
    (o.without free).set x = .ok (changed.without free) := by
  obtain ⟨a, value⟩ := x
  cases value with
  | none => cases a <;> obtain rfl := Except.ok.inj h <;> simp_all [Options.set, Options.without]
  | some value =>
    cases a <;> try (obtain rfl := Except.ok.inj h; rfl)
    all_goals
      obtain ⟨given, hgiven, h⟩ := exists_of_bind h
      obtain rfl := Except.ok.inj h
      simp_all [Options.set, setValue, Options.without, bind, Except.bind, pure, Except.pure]

/-- What is left of the options depends on what else occurs. -/
theorem foldlM_set_without {met : List Occurrence} (hfree : free ⊆ presentation)
    (h : met.foldlM Options.set o = .ok changed) :
    (met.filter (·.1 ∉ free)).foldlM Options.set (o.without free) = .ok (changed.without free) := by
  induction met generalizing o with
  | nil =>
    obtain rfl := Except.ok.inj h
    rfl
  | cons x met ih =>
    obtain ⟨between, hset, h⟩ := exists_of_bind h
    by_cases hx : x.1 ∈ free
    · rw [List.filter_cons_of_neg (by simpa using hx), ← without_set_of_mem hfree hx hset]
      exact ih h
    · rw [List.filter_cons_of_pos (by simpa using hx), List.foldlM_cons, set_without_of_not_mem hx hset]
      exact ih h

/-- Two command lines on which the same occurs, in the same order, but for some arguments. -/
def DifferIn (free : List Argument) (arguments other : List Bytes) : Prop :=
  (occurrences arguments).filter (·.1 ∉ free) = (occurrences other).filter (·.1 ∉ free)

instance : Decidable (DifferIn free arguments other) := inferInstanceAs (Decidable (_ = _))

example : DifferIn [.verbose] (Utf8.encode "-v" :: arguments) arguments := rfl

example : DifferIn presentation (Utf8.encode "--color" :: Utf8.encode "never" :: arguments) arguments := rfl

theorem without_eq_of_differIn (hfree : free ⊆ presentation) (hparse : parse arguments = .ok o)
    (hparse' : parse other = .ok o') (h : DifferIn free arguments other) : o.without free = o'.without free := by
  have hset := foldlM_set_without hfree (foldlM_set_of_parse hparse)
  rw [DifferIn] at h
  rw [h, foldlM_set_without hfree (foldlM_set_of_parse hparse')] at hset
  exact (Except.ok.inj hset).symm

/-- Collecting does not look at the options about how it is shown, and at the environment only where another
program draws. -/
theorem begunOf_eq_of_without (hdrawing : o.drawing ≠ .external) (h : o.without free = o'.without free)
    (e e' : Environment) : begunOf fs e o = begunOf fs e' o' := by
  have hsame : rendererOf e o.drawing = rendererOf e' o.drawing := by
    cases hmode : o.drawing with
    | external => exact absurd hmode hdrawing
    | _ => rfl
  have hcollected : collectedOf fs e o = collectedOf fs e' o := by
    funext config
    rw [collectedOf, hsame, collectedOf]
  calc begunOf fs e o = begunOf fs e' o := by rw [begunOf, hcollected, begunOf]
    _ = begunOf fs e' (o.without free) := rfl
    _ = begunOf fs e' (o'.without free) := by rw [h]
    _ = begunOf fs e' o' := rfl

/-- Two command lines that are read to their end and differ only in what they say about how the run is shown
leave the same file system, in whatever environments. Where only more or less of the log is asked for, in the
arguments or in the environment, what is printed and the exit code are the same, too. -/
theorem run_of_differIn (hparse : parse arguments = .ok o) (hparse' : parse other = .ok o')
    (hdrawing : o.drawing ≠ .external) (fs : FileSystem) :
    (DifferIn presentation arguments other → ∀ e e' terminal terminal',
      (run fs e terminal arguments).fs = (run fs e' terminal' other).fs) ∧
    (DifferIn [.verbose] arguments other → ∀ e asked terminal,
      (run fs e terminal arguments).code = (run fs { e with logFilter := asked } terminal other).code ∧
      (run fs e terminal arguments).stdout = (run fs { e with logFilter := asked } terminal other).stdout) := by
  constructor
  · intro hdiffer e e' terminal terminal'
    have hwithout := without_eq_of_differIn (List.Subset.refl _) hparse hparse' hdiffer
    rw [run, hparse, run, hparse']
    dsimp only
    rw [(course_runOptions fs e terminal o).fs_eq, (course_runOptions fs e' terminal' o').fs_eq,
      begunOf_eq_of_without hdrawing hwithout e e']
  · intro hdiffer e asked terminal
    have hwithout := without_eq_of_differIn (by decide) hparse hparse' hdiffer
    rw [run, hparse, run, hparse']
    have hprinted : printed o e terminal = printed o' { e with logFilter := asked } terminal :=
      calc printed o e terminal = printed (o.without [.verbose]) e terminal := rfl
        _ = printed (o'.without [.verbose]) e terminal := by rw [hwithout]
        _ = printed o' { e with logFilter := asked } terminal := rfl
    have hending := (course_runOptions fs e terminal o).ending_eq
    rw [begunOf_eq_of_without hdrawing hwithout e { e with logFilter := asked }, hprinted,
      ← (course_runOptions fs _ terminal o').ending_eq] at hending
    exact Prod.mk.inj hending

def quietArguments : List Bytes := ["p", "--structure", "none"].map Utf8.encode

def verboseArguments : List Bytes := ["-v", "p", "--structure=none", "--verbose"].map Utf8.encode

def loudArguments : List Bytes :=
  ["-vv", "--json", "p", "--color", "always", "--structure=none"].map Utf8.encode

theorem run_of_differIn_loud :
    (∃ quiet verbose loud, parse quietArguments = .ok quiet ∧ quiet.drawing ≠ .external ∧
      parse verboseArguments = .ok verbose ∧ parse loudArguments = .ok loud) ∧
    DifferIn presentation quietArguments loudArguments ∧
    (run lonelyProject {} false quietArguments).fs =
      (run lonelyProject { noColor := some [], logFilter := some [0x6F] } true loudArguments).fs ∧
    DifferIn [.verbose] quietArguments verboseArguments ∧
    (run lonelyProject {} true quietArguments).code =
      (run lonelyProject { logFilter := some [0x6F] } true verboseArguments).code ∧
    (run lonelyProject {} true quietArguments).stdout =
      (run lonelyProject { logFilter := some [0x6F] } true verboseArguments).stdout := by
  have hquiet : ∃ quiet, parse quietArguments = .ok quiet ∧ quiet.drawing ≠ .external := ⟨_, rfl, by decide⟩
  have hverbose : ∃ verbose, parse verboseArguments = .ok verbose := ⟨_, rfl⟩
  have hloud : ∃ loud, parse loudArguments = .ok loud := ⟨_, rfl⟩
  have hshown : DifferIn presentation quietArguments loudArguments := by decide +kernel
  have hlogged : DifferIn [.verbose] quietArguments verboseArguments := by decide +kernel
  obtain ⟨quiet, hquiet, hdrawing⟩ := hquiet
  obtain ⟨verbose, hverbose⟩ := hverbose
  obtain ⟨loud, hloud⟩ := hloud
  exact ⟨⟨quiet, verbose, loud, hquiet, hdrawing, hverbose, hloud⟩, hshown,
    (run_of_differIn hquiet hloud hdrawing lonelyProject).1 hshown _ _ _ _, hlogged,
    (run_of_differIn hquiet hverbose hdrawing lonelyProject).2 hlogged {} _ _⟩

end SourceSnapshot.CommandLine
