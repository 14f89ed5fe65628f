import SourceSnapshot.Proofs.FileSystem.Below

/-! What lies below a directory that has several paths. Each path comes to the same place, with what links
it has left to follow, and from there the names lead on alike; only where the system refuses one of the paths
for its length, or for the links on it, can the two part. -/
namespace SourceSnapshot

/-- A place is settled by its location. -/
theorem Place.Entered.eq_of_loc {top : Node} {place other : Place} (h : place.Entered top)
    (hother : other.Entered top) (hloc : other.loc = place.loc) : other = place := by
  induction h generalizing other with
  | top =>
    cases hother with
    | top => rfl
    | enter _ _ =>
      rw [loc_enter] at hloc
      exact absurd hloc (List.concat_ne_nil _ _)
  | enter hupper hnode ih =>
    cases hother with
    | top =>
      rw [loc_enter] at hloc
      exact absurd hloc.symm (List.concat_ne_nil _ _)
    | enter hupper' hnode' =>
      rw [loc_enter, loc_enter] at hloc
      obtain ⟨hlocs, hnames⟩ := List.append_inj' hloc rfl
      obtain rfl := ih hupper' hlocs
      obtain rfl := List.singleton_inj.1 hnames
      rw [Option.some.inj (hnode'.symm.trans hnode)]

namespace FileSystem
open Place
variable {fs : FileSystem} {p p' root root' : Path} {base : Location} {node : Node} {names : List Name}
  {last : LastName} {place : Place} {steps : List PathStep} {fewer more : Nat}

/-- Where steps lead does not depend on how many links may still be followed, as long as they do not run
out. -/
theorem descendThrough_of_le (hle : fewer ≤ more)
    (h : descendThrough last fewer place steps ≠ .error .tooManyLinks) :
    descendThrough last more place steps = descendThrough last fewer place steps := by
  induction fewer, place, steps using stepInduction generalizing more with
  | nil links place => rw [descendThrough_nil, descendThrough_nil]
  | idle links place step rest hidle ih =>
    rcases hidle with rfl | rfl
    · rw [descendThrough_here] at h ⊢
      rw [descendThrough_here, ih hle h]
    · rw [descendThrough_slash] at h ⊢
      rw [descendThrough_slash, ih hle h]
  | up links place rest ih =>
    rw [descendThrough_up] at h ⊢
    rw [descendThrough_up, ih hle h]
  | tooLong links place rest => rw [descendThrough_tooLong, descendThrough_tooLong]
  | missing links place name rest hnode =>
    rw [descendThrough_of_missing hnode, descendThrough_of_missing hnode]
  | link links place name rest target hnode ih =>
    rw [descendThrough_of_link hnode] at h ⊢
    rw [descendThrough_of_link hnode]
    split
    · rfl
    · rename_i hmake
      rw [if_neg hmake] at h
      split
      · rfl
      · rename_i hkeep
        rw [if_neg hkeep] at h
        -- the link itself uses up one of the links, under either bound
        cases links with
        | zero => exact absurd rfl h
        | succ links =>
          obtain ⟨more, rfl⟩ : ∃ m, more = m + 1 := ⟨more - 1, by omega⟩
          cases hsteps : target.steps with
          | error e => rw [throughLink, throughLink, hsteps]
          | ok steps =>
            rw [throughLink_of_steps hsteps] at h ⊢
            rw [throughLink_of_steps hsteps]
            exact ih links steps rfl hsteps (Nat.le_of_succ_le_succ hle) h
  | dir links place name rest entries hnode ih =>
    rw [descendThrough_of_dir hnode] at h ⊢
    rw [descendThrough_of_dir hnode]
    split
    · rfl
    · rename_i hmake
      rw [if_neg hmake] at h
      exact ih hle h
  | other links place name rest node hnode hdir hlink =>
    rw [descendThrough_of_other hnode hdir hlink, descendThrough_of_other hnode hdir hlink]

theorem descendThrough_links {links links' : Nat} (h : descendThrough last links place steps ≠ .error .tooManyLinks)
    (h' : descendThrough last links' place steps ≠ .error .tooManyLinks) :
    descendThrough last links' place steps = descendThrough last links place steps := by
  rcases Nat.le_total links links' with hle | hle
  · exact descendThrough_of_le hle h
  · exact (descendThrough_of_le hle h').symm

/-- The system refuses both paths or neither for their length, and both or neither for the links on them. -/
structure RefusedAlike (fs : FileSystem) (p p' : Path) : Prop where
  nameTooLong : fs.resolve p' = .error .nameTooLong ↔ fs.resolve p = .error .nameTooLong
  tooManyLinks : fs.resolve p' = .error .tooManyLinks ↔ fs.resolve p = .error .tooManyLinks

theorem resolve_of_land_error {e : IoError} (h : fs.land .follow p = .error e) : fs.resolve p = .error e := by
  rw [resolve, h]

/-- A path leads nowhere for want of an entry, for want of its directory, or because it cannot be followed. -/
theorem land_of_resolve_error {e : IoError} (h : fs.resolve p = .error e) (hmissing : e ≠ .noEntry)
    (hremoved : e ≠ .isDirectory) : fs.land .follow p = .error e := by
  rw [resolve] at h
  split at h
  · rename_i hland
    rw [hland, Except.error.inj h]
  · exact absurd (Except.error.inj h).symm hmissing
  · exact absurd (Except.error.inj h).symm hremoved
  · cases h

theorem resolve_of_land_eq (h : fs.land .follow p' = fs.land .follow p) : fs.resolve p' = fs.resolve p := by
  rw [resolve, resolve, h]

theorem resolve_under_of_isTooLong (hroot : fs.resolve root = .ok (base, node)) (hnames : names ≠ [])
    (hlong : (root.under names).isTooLong) : fs.resolve (root.under names) = .error .nameTooLong := by
  obtain ⟨steps, hsteps, -⟩ := exists_steps_of_resolve hroot
  apply resolve_of_stepsWithin
  rw [Path.stepsWithin, Path.steps_under hsteps hnames]
  exact if_pos hlong

/-- Names lead to the same from a directory, whichever of its paths they stand behind. -/
theorem land_under_congr (hroot : fs.resolve root = .ok (base, node))
    (hroot' : fs.resolve root' = .ok (base, node)) (hdir : node.isDir) (hnames : names ≠ [])
    (hrefused : fs.RefusedAlike (root.under names) (root'.under names)) :
    fs.land .follow (root'.under names) = fs.land .follow (root.under names) := by
  have hlength {p : Path} (h : fs.resolve p = .error .nameTooLong) : fs.land .follow p = .error .nameTooLong :=
    land_of_resolve_error h nofun nofun
  have hcycle {p : Path} (h : fs.resolve p = .error .tooManyLinks) : fs.land .follow p = .error .tooManyLinks :=
    land_of_resolve_error h nofun nofun
  cases hlong : (root.under names).isTooLong with
  | true =>
    have h := resolve_under_of_isTooLong hroot hnames hlong
    rw [hlength h, hlength (hrefused.nameTooLong.2 h)]
  | false =>
    cases hlong' : (root'.under names).isTooLong with
    | true =>
      have h' := resolve_under_of_isTooLong hroot' hnames hlong'
      rw [hlength h', hlength (hrefused.nameTooLong.1 h')]
    | false =>
      obtain ⟨links, place, hplace, hloc, -, hland⟩ := exists_land_under hroot hdir hnames hlong
      obtain ⟨links', place', hplace', hloc', -, hland'⟩ := exists_land_under hroot' hdir hnames hlong'
      obtain rfl := hplace.eq_of_loc hplace' (hloc'.trans hloc.symm)
      by_cases hlinks : fs.land .follow (root.under names) = .error .tooManyLinks
      · have h := resolve_of_land_error hlinks
        rw [hlinks, hcycle (hrefused.tooManyLinks.2 h)]
      · by_cases hlinks' : fs.land .follow (root'.under names) = .error .tooManyLinks
        · have h' := resolve_of_land_error hlinks'
          rw [hlinks', hcycle (hrefused.tooManyLinks.1 h')]
        · rw [hland] at hlinks
          rw [hland'] at hlinks'
          rw [hland, hland', descendThrough_links hlinks hlinks']

/-- Slashes at the end of the path of a directory change nothing, as long as the path is not too long. -/
theorem resolve_append_slashes (h : fs.resolve p = .ok (base, node)) (hdir : node.isDir) {n : Nat}
    (hshort : Path.isTooLong ⟨p.bytes ++ List.replicate n slash⟩ = false) :
    fs.resolve ⟨p.bytes ++ List.replicate n slash⟩ = .ok (base, node) := by
  obtain ⟨steps, hsteps, -⟩ := exists_steps_of_resolve h
  obtain ⟨⟨hzero, hne⟩, -⟩ := Path.steps_eq_ok_iff.1 (Path.stepsWithin_eq_ok_iff.1 hsteps).1
  have hzero' : 0 ∉ p.bytes ++ List.replicate n slash := by
    rw [List.mem_append, not_or]
    exact ⟨hzero, fun hmem => absurd (List.eq_of_mem_replicate hmem) (by decide)⟩
  have hbare : Path.bareSteps ⟨p.bytes ++ List.replicate n slash⟩ = p.bareSteps := by
    clear hshort hzero'
    induction n with
    | zero => rw [List.replicate_zero, List.append_nil]
    | succ n ih => rw [List.replicate_succ', ← List.append_assoc, Path.bareSteps_append_slash, ih]
  have hstart (steps : List PathStep) :
      fs.follow .follow ⟨p.bytes ++ List.replicate n slash⟩ steps = fs.follow .follow p steps := by
    obtain ⟨b, rest, hb⟩ := List.exists_cons_of_ne_nil hne
    have habsolute : Path.isAbsolute ⟨p.bytes ++ List.replicate n slash⟩ = p.isAbsolute := by
      rw [Path.isAbsolute, Path.isAbsolute, hb]
      rfl
    rw [follow, follow, startOf?, startOf?, depthOf, depthOf, habsolute]
  apply resolve_of_bareSteps (Path.stepsWithin_eq_ok_iff.2
    ⟨Path.steps_eq_ok_iff.2 ⟨⟨hzero', by simp [hne]⟩, rfl⟩, hshort⟩) _ hdir
  rw [hbare, hstart]
  exact follow_bareSteps_of_resolve h

end FileSystem
end SourceSnapshot
