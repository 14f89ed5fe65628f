import SourceSnapshot.Proofs.FileSystem.Following
import SourceSnapshot.Proofs.Path.Steps

/-! Where a path leads that goes on behind another. With a slash behind it the path of a directory leads
where it led; with names behind it, it leads to what they name below. -/
namespace SourceSnapshot.FileSystem
open Place
variable {fs : FileSystem} {p root : Path} {steps : List PathStep} {loc base : Location} {node child : Node}
  {names : List Name}

theorem follow_of_slash (h : fs.follow .follow p (steps ++ [.slash]) = .ok (.found loc node)) :
    fs.follow .follow p steps = .ok (.found loc node) := by
  obtain ⟨place, left, hstart, hleft, hdescend⟩ := follow_eq_ok h nofun
  -- a slash alone leads out of nothing
  rcases emerge_append_eq_ok hleft with ⟨before, hbefore, heq⟩ | ⟨-, fewer, hslash⟩
  case inr => cases hslash
  obtain rfl := Option.some.inj heq
  rcases descendThrough_append (startOf?_eq_some hstart).1 fs.isDir_top
    (List.cons_ne_nil PathStep.slash []) with ⟨fewer, lower, -, -, hlower, hrest⟩ | ⟨hnone, -⟩
  · rw [hdescend, descendThrough_slash, descendThrough_nil] at hrest
    rw [follow_of_emerge hstart hbefore, hlower, hrest]
  · exact absurd hdescend (hnone _)

theorem follow_slash (h : fs.follow .follow p steps = .ok (.found loc node)) (hdir : node.isDir) :
    fs.follow .follow p (steps ++ [.slash]) = .ok (.found loc node) := by
  obtain ⟨place, left, hstart, hleft, hdescend⟩ := follow_eq_ok h nofun
  rw [follow_of_emerge hstart (emerge_append hleft [.slash])]
  rcases descendThrough_append (startOf?_eq_some hstart).1 fs.isDir_top
    (List.cons_ne_nil PathStep.slash []) with ⟨fewer, lower, -, -, hlower, hrest⟩ | ⟨-, hfound⟩
  · rw [hrest, descendThrough_slash, descendThrough_nil, ← hlower, hdescend]
  · rw [hfound loc node hdescend] at hdir
    cases hdir

theorem follow_bareSteps_of_resolve (h : fs.resolve p = .ok (loc, node)) :
    fs.follow .follow p p.bareSteps = .ok (.found loc node) := by
  obtain ⟨steps, hsteps, hfollow⟩ := exists_steps_of_resolve h
  rcases (Path.stepsWithin_cases hsteps).2 with rfl | rfl
  · exact hfollow
  · exact follow_of_slash hfollow

theorem resolve_of_bareSteps (hsteps : p.stepsWithin = .ok steps)
    (h : fs.follow .follow p p.bareSteps = .ok (.found loc node)) (hdir : node.isDir) :
    fs.resolve p = .ok (loc, node) := by
  rcases (Path.stepsWithin_cases hsteps).2 with rfl | rfl
  · exact resolve_of_follow hsteps h
  · exact resolve_of_follow hsteps (follow_slash h hdir)

/-- Names lead down to what they name, through directories. -/
theorem descendThrough_names {links : Nat} {place : Place} (h : place.node.at? names = some child)
    (hlink : ∀ target, child ≠ .link target) :
    descendThrough .follow links place (names.map .into) = .ok (.found (place.loc ++ names) child) := by
  induction names generalizing place with
  | nil =>
    rw [List.map_nil, descendThrough_nil, List.append_nil, Option.some.inj h]
  | cons name rest ih =>
    obtain ⟨inner, hinner, hrest⟩ := Option.bind_eq_some_iff.1 h
    rw [List.map_cons]
    cases hdir : inner.isDir with
    | true =>
      cases inner with
      | dir entries =>
        rw [descendThrough_of_dir hinner, if_neg (by simp), ih hrest, loc_enter, List.append_assoc]
        rfl
      | _ => cases hdir
    | false =>
      obtain rfl := Node.eq_nil_of_at? hdir hrest
      obtain rfl := Option.some.inj hrest
      rw [descendThrough_of_other hinner hdir hlink, if_neg (by simp)]
      rfl

/-- Below a directory names are followed from the place of the directory. -/
theorem exists_land_under (hroot : fs.resolve root = .ok (base, node)) (hdir : node.isDir) (hnames : names ≠ [])
    (hshort : (root.under names).isTooLong = false) : ∃ links place, place.Entered fs.top ∧ place.loc = base ∧
      place.node = node ∧
      fs.land .follow (root.under names) = descendThrough .follow links place (names.map .into) := by
  obtain ⟨steps, hsteps, -⟩ := exists_steps_of_resolve hroot
  obtain ⟨hunder, habsolute⟩ := Path.stepsWithin_under hsteps hnames hshort
  obtain ⟨start, left, hstart, hleft, hdescend⟩ := follow_eq_ok (follow_bareSteps_of_resolve hroot) nofun
  have hstart' : fs.startOf? (root.under names) = some start := by
    rw [← hstart, startOf?, startOf?, habsolute]
  have hdepth : fs.depthOf (root.under names) = fs.depthOf root := by rw [depthOf, depthOf, habsolute]
  have hland : fs.land .follow (root.under names) =
      descendThrough .follow maxLinks start (left ++ names.map .into) := by
    rw [land, hunder]
    exact follow_of_emerge hstart' (by rw [hdepth, emerge_append hleft])
  rcases descendThrough_append (startOf?_eq_some hstart).1 fs.isDir_top
    (show names.map PathStep.into ≠ [] by simpa using hnames) with
    ⟨links, place, hplace, -, hlower, hrest⟩ | ⟨-, hfound⟩
  · rw [hlower] at hdescend
    obtain ⟨hloc, hnode⟩ := Landing.found.inj (Except.ok.inj hdescend)
    exact ⟨links, place, hplace, hloc, hnode, hland.trans hrest⟩
  · rw [hfound base node hdescend] at hdir
    cases hdir

/-- What lies below a directory is found under the path of the directory and its names. -/
theorem resolve_under (hroot : fs.resolve root = .ok (base, node)) (hnames : names ≠ [])
    (hchild : node.at? names = some child) (hlink : ∀ target, child ≠ .link target)
    (hshort : (root.under names).isTooLong = false) :
    fs.resolve (root.under names) = .ok (base ++ names, child) := by
  have hdir : node.isDir := Bool.of_not_eq_false fun hnone => hnames (Node.eq_nil_of_at? hnone hchild)
  obtain ⟨links, place, -, rfl, rfl, hland⟩ := exists_land_under hroot hdir hnames hshort
  rw [resolve, hland, descendThrough_names hchild hlink]

end SourceSnapshot.FileSystem
