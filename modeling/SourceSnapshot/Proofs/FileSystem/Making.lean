import SourceSnapshot.Proofs.FileSystem.Below
import SourceSnapshot.Proofs.FileSystem.Opening

/-! Making the directory for a file. Once the file can be opened its directory is there, and to make the
directory again changes nothing. -/
namespace SourceSnapshot.FileSystem
open Place
variable {fs made : FileSystem} {p dir : Path} {steps : List PathStep} {loc : Location} {node : Node}

theorem landNew_eq (hsteps : p.stepsWithin = .ok steps) : fs.landNew p = fs.follow .keep p p.bareSteps := by
  rw [landNew, hsteps, ← (Path.stepsWithin_cases hsteps).1]
  rfl

theorem exists_steps_of_landNew {landing : Landing} (h : fs.landNew p = .ok landing) :
    ∃ steps, p.stepsWithin = .ok steps ∧ fs.follow .keep p p.bareSteps = .ok landing := by
  cases hsteps : p.stepsWithin with
  | error e =>
    rw [landNew, hsteps] at h
    cases h
  | ok steps => exact ⟨steps, rfl, (landNew_eq hsteps).symm.trans h⟩

theorem landNew_of_resolve (h : fs.resolve p = .ok (loc, node)) :
    ∃ loc node, fs.landNew p = .ok (.found loc node) := by
  obtain ⟨steps, hsteps, -⟩ := exists_steps_of_resolve h
  obtain ⟨place, left, hstart, hleft, hdescend⟩ := follow_eq_ok (follow_bareSteps_of_resolve h) nofun
  obtain ⟨loc', node', hkeep⟩ := exists_keep_of_follow hdescend
  refine ⟨loc', node', ?_⟩
  rw [landNew_eq hsteps, follow_of_emerge hstart (emerge_of_last hleft .keep), hkeep]

theorem landNew_of_removed (h : fs.land .follow p = .ok .removed) : fs.landNew p = .ok .removed := by
  obtain ⟨steps, hsteps, hfollow⟩ := exists_steps_of_land h
  obtain ⟨hstart, hleft⟩ := follow_eq_removed.1 hfollow
  have hbare := emerge_filter (emerge_of_last hleft .keep)
  rw [(Path.stepsWithin_cases hsteps).1] at hbare
  rw [landNew_eq hsteps]
  exact follow_eq_removed.2 ⟨hstart, hbare⟩

/-- A directory stands in the way of another. -/
theorem makeDir_of_isDir (h : fs.isDir p) : fs.makeDir p = .error .entryExists := by
  rcases isDir_iff.1 h with hremoved | ⟨loc, node, hresolve, -⟩
  · rw [makeDir, landNew_of_removed hremoved]
    rfl
  · obtain ⟨loc', node', hland⟩ := landNew_of_resolve hresolve
    rw [makeDir, hland]
    rfl

/-- Where nothing was, the path leads to a directory once one is there. -/
theorem resolve_of_landNew {upper : Location} {name : Name} {entries : List (Name × Node)}
    (h : fs.landNew p = .ok (.missing upper name)) (hgrown : fs.Grown made)
    (hmade : made.top.at? (upper ++ [name]) = some (.dir entries)) :
    made.resolve p = .ok (upper ++ [name], .dir entries) := by
  obtain ⟨steps, hsteps, hkeep⟩ := exists_steps_of_landNew h
  have hfollow := follow_follow hkeep nofun fun _ _ _ => nofun
  exact resolve_of_bareSteps hsteps (hgrown.follow hfollow nofun hmade fun _ _ _ _ => nofun) rfl

/-- To make a directory that is there is to do nothing. -/
theorem makeDirs_of_isDir (h : fs.isDir p) : fs.makeDirs p = (.ok (), fs) := by
  obtain ⟨above, habove⟩ : ∃ above, p.ancestors = p :: above := ⟨_, rfl⟩
  have hclimb (waiting above : List Path) : fs.climb waiting (p :: above) = .ok (waiting, fs) := by
    rw [climb, makeDir_of_isDir h]
    dsimp only
    rw [if_neg (by decide), if_pos ⟨by decide, h⟩]
  unfold makeDirs
  rw [habove, List.takeWhile_cons]
  by_cases hmakeable : !p.components.isEmpty && p.parent?.isSome
  · rw [if_pos hmakeable]
    simp only [hclimb, makeEach]
  · rw [if_neg hmakeable]
    rfl

theorem distinct_emptyDir : (Node.dir []).Distinct := by simp [Node.Distinct, Node.AllDistinct]

/-- A directory is made where nothing was, in another. -/
theorem makeDir_eq_ok (h : fs.makeDir p = .ok made) : ∃ upper name,
    fs.landNew p = .ok (.missing upper name) ∧ fs.top.at? (upper ++ [name]) = none ∧
      made = fs.setAt (upper ++ [name]) (.dir []) distinct_emptyDir ∧
      made.top.at? (upper ++ [name]) = some (.dir []) := by
  rw [makeDir] at h
  cases hland : fs.landNew p with
  | error e =>
    rw [hland] at h
    cases h
  | ok landing =>
    rw [hland] at h
    cases landing with
    | found loc node => cases h
    | removed => cases h
    | missing upper name =>
      obtain ⟨-, -, hkeep⟩ := exists_steps_of_landNew hland
      obtain ⟨above, habove, hdir⟩ := exists_dir_of_follow_missing hkeep
      have hmade : made = fs.setAt (upper ++ [name]) (.dir []) distinct_emptyDir := by
        cases hpermit : fs.permit .makeDir (upper ++ [name]) with
        | error e => simp only [bind, Except.bind, hpermit] at h; cases h
        | ok _ =>
          simp only [bind, Except.bind, hpermit] at h
          exact (Except.ok.inj h).symm
      refine ⟨upper, name, rfl, at?_of_follow_missing hkeep, hmade, ?_⟩
      rw [hmade, top_setAt (by simp)]
      exact Node.at?_set_concat habove hdir _

theorem grown_of_makeDir (h : fs.makeDir p = .ok made) : fs.Grown made := by
  obtain ⟨upper, name, -, hnone, rfl, -⟩ := makeDir_eq_ok h
  refine ⟨sameSystem_setAt distinct_emptyDir, grown_setAt distinct_emptyDir fun old hold => ?_⟩
  rw [hnone] at hold
  cases hold

private theorem descendThrough_idle {last : LastName} {links : Nat} {place : Place} {idle rest : List PathStep}
    (h : ∀ step ∈ idle, step = .here ∨ step = .slash) :
    descendThrough last links place (idle ++ rest) = descendThrough last links place rest := by
  induction idle with
  | nil => rfl
  | cons step idle ih =>
    have hidle := ih fun other hother => h other (List.mem_cons_of_mem step hother)
    rcases h step List.mem_cons_self with rfl | rfl
    · rw [List.cons_append, descendThrough_here, hidle]
    · rw [List.cons_append, descendThrough_slash, hidle]

/-- Only a directory can lead on to what is no directory. -/
private theorem isDir_of_found {links : Nat} {lower : Place} {step : PathStep} {after : List PathStep}
    (hlower : lower.Entered fs.top) (hafter : ∀ idle ∈ after, idle = .here ∨ idle = .slash)
    (hhere : step ≠ .here) (hslash : step ≠ .slash)
    (h : descendThrough .follow links lower (step :: after) = .ok (.found loc node))
    (hnode : node.isDir = false) : lower.node.isDir := by
  cases step with
  | here => exact absurd rfl hhere
  | slash => exact absurd rfl hslash
  | tooLong =>
    rw [descendThrough_tooLong] at h
    cases h
  | up =>
    rw [descendThrough_up, ← List.append_nil after, descendThrough_idle hafter, descendThrough_nil] at h
    obtain ⟨-, rfl⟩ := Landing.found.inj (Except.ok.inj h)
    rw [hlower.isDir_up fs.isDir_top] at hnode
    cases hnode
  | into name =>
    cases hchild : lower.node.entries.lookup name with
    | some child => exact Node.isDir_of_lookup hchild
    | none =>
      rw [descendThrough_of_missing hchild, if_neg (by simp)] at h
      split at h <;> cases h

/-- A path that leads to what is no directory leads through its parent, which is one. -/
theorem isDir_parent (hparent : p.parent? = some dir) (hne : dir.bytes ≠ [])
    (h : fs.resolve p = .ok (loc, node)) (hnode : node.isDir = false) : fs.isDir dir := by
  by_cases hroot : dir.bytes = [SourceSnapshot.slash]
  · obtain rfl : dir = ⟨[SourceSnapshot.slash]⟩ := by
      cases dir
      exact congrArg Path.mk hroot
    exact isDir_iff.2 (.inr ⟨[], fs.top, rfl, fs.isDir_top⟩)
  obtain ⟨steps, hsteps, hfollow⟩ := exists_steps_of_resolve h
  obtain ⟨place, left, hstart, hleft, hdescend⟩ := follow_eq_ok hfollow nofun
  obtain ⟨before, step, after, hdir, habsolute, rfl, hidle, hhere, hslash⟩ :=
    Path.exists_step_of_parent? hparent hne hroot hsteps
  have hbefore : ∀ idle ∈ before, idle = .here ∨ idle = .slash := fun idle h =>
    hidle idle (List.mem_append_left _ h)
  have hafter : ∀ idle ∈ after, idle = .here ∨ idle = .slash := fun idle h =>
    hidle idle (List.mem_append_right _ h)
  obtain ⟨hplace, hplaceDir⟩ := startOf?_eq_some hstart
  have hstart' : fs.startOf? dir = some place := by rw [← hstart, startOf?, startOf?, habsolute]
  have hdepth : fs.depthOf dir = fs.depthOf p := by rw [depthOf, depthOf, habsolute]
  rcases emerge_append_eq_ok hleft with ⟨left, hleft', heq⟩ | ⟨hnone, fewer, hrest⟩
  · obtain rfl := Option.some.inj heq
    rcases descendThrough_append hplace fs.isDir_top (List.append_ne_nil_of_right_ne_nil before
      (List.cons_ne_nil step after)) with ⟨fewer, lower, hlower, -, hfound, hrest⟩ | ⟨hnone, -⟩
    · have hresolve := resolve_of_follow hdir ((follow_of_emerge hstart' (by rw [hdepth, hleft'])).trans hfound)
      refine isDir_iff.2 (.inr ⟨lower.loc, lower.node, hresolve, ?_⟩)
      rw [hdescend, descendThrough_idle hbefore] at hrest
      exact isDir_of_found hlower hafter hhere hslash hrest.symm hnode
    · exact absurd hdescend (hnone _)
  · -- the parent is a directory that was taken away
    refine isDir_iff.2 (.inl (land_of_follow hdir (follow_eq_removed.2 ⟨?_, by rw [hdepth, hnone]⟩)))
    rw [hstart', Option.isSome_some]

end SourceSnapshot.FileSystem
