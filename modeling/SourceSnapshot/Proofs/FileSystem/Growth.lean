import SourceSnapshot.Proofs.FileSystem.Setting

/-! What is made in a tree hides nothing of it. A path that led somewhere leads there still once a file or
a directory was made, and where only its last name was missing it leads to what was made under that name.
So to make the directories for a file that is there is to make none. -/
namespace SourceSnapshot

/-- The location that was landed at, whether something is there or not. -/
def Landing.loc : Landing → Location
  | .found loc _ => loc
  | .missing dir name => dir ++ [name]
  | .removed => []

namespace Node

/-- A tree that has grown out of another: what was there is there still, and of its kind. -/
def Grown (top top' : Node) : Prop :=
  ∀ loc node, top.at? loc = some node → (top'.at? loc).map kind = some node.kind

end Node

namespace FileSystem
open Place
variable {fs fs' : FileSystem} {top top' : Node} {last : LastName} {links : Nat} {place place' : Place}
  {steps : List PathStep} {landing : Landing}

/-- A tree grows where a node is set in place of nothing, or in place of one of its kind that holds
nothing else. -/
theorem grown_setAt {loc : Location} {node : Node} (hnode : node.Distinct)
    (h : ∀ old, fs.top.at? loc = some old → node.kind = old.kind ∧ old.isDir = false) :
    fs.top.Grown (fs.setAt loc node hnode).top := by
  intro there old hold
  by_cases hthere : loc <+: there
  · obtain ⟨more, rfl⟩ := hthere
    rw [Node.at?_append] at hold
    obtain ⟨inner, hinner, hmore⟩ := Option.bind_eq_some_iff.1 hold
    obtain ⟨hkind, hdir⟩ := h inner hinner
    obtain rfl := Node.eq_nil_of_at? hdir hmore
    obtain rfl := Option.some.inj hmore
    rw [List.append_nil]
    rcases setAt_or fs loc with hset | hset
    · rw [hset, Option.map_some, hkind]
    · rw [hset, hinner, Option.map_some]
  · rw [Node.map_kind_of_surface (surface_at?_setAt hnode hthere), hold, Option.map_some]

/-- In a grown tree a path leads where it led, and to what is there now. A link there is followed, so it
must not stand where nothing was. -/
theorem descendThrough_grown (hgrown : top.Grown top') (hplace : Beside top top' place place')
    (h : descendThrough last links place steps = .ok landing) {node : Node}
    (hnode : top'.at? landing.loc = some node)
    (hmissing : ∀ dir name target, landing = .missing dir name → node ≠ .link target) :
    descendThrough last links place' steps = .ok (.found landing.loc node) := by
  have hkept {place place' : Place} {name : Name} {child : Node} (hplace : Beside top top' place place')
      (hold : place.node.entries.lookup name = some child) :
      ∃ child', place'.node.entries.lookup name = some child' ∧ child'.kind = child.kind := by
    rw [hplace.entered.lookup] at hold
    rw [hplace.lookup]
    exact Option.map_eq_some_iff.1 (hgrown _ _ hold)
  have htop : top'.kind = top.kind := Option.some.inj (hgrown [] top rfl)
  rw [← leads_iff] at h ⊢
  induction h generalizing place' with
  | found =>
    have hfound := hplace.entered'.at?
    rw [hplace.loc] at hfound
    obtain rfl := Option.some.inj (hnode.symm.trans hfound)
    rw [Landing.loc, ← hplace.loc]
    exact .found
  | idle hidle h ih => exact .idle hidle (ih hplace hnode hmissing)
  | up h ih => exact .up (ih hplace.up hnode hmissing)
  | missing hnone =>
    rw [Landing.loc, ← hplace.loc]
    exact .single ((hplace.lookup _).trans hnode) fun target => hmissing _ _ target rfl
  | kept hlast hlink =>
    obtain ⟨child', hchild', hkind⟩ := hkept hplace hlink
    cases child' with
    | link target' =>
      obtain rfl : node = .link target' := Option.some.inj (hnode.symm.trans ((hplace.lookup _).symm.trans hchild'))
      rw [Landing.loc, ← hplace.loc]
      exact .kept hlast hchild'
    | _ => cases hkind
  | link hmake hkeep hlink hsteps h ih =>
    obtain ⟨child', hchild', hkind⟩ := hkept hplace hlink
    cases child' with
    | link target' =>
      cases hkind
      exact .link hmake hkeep hchild' hsteps (ih (hplace.linkStart htop _) hnode hmissing)
    | _ => cases hkind
  | dir hmake hdir h ih =>
    obtain ⟨child', hchild', hkind⟩ := hkept hplace hdir
    cases child' with
    | dir entries' => exact .dir hmake hchild' (ih (hplace.enter hdir hchild' rfl) hnode hmissing)
    | _ => cases hkind
  | other hother hdir hlink =>
    obtain ⟨child', hchild', hkind⟩ := hkept hplace hother
    obtain rfl : node = child' := Option.some.inj (hnode.symm.trans ((hplace.lookup _).symm.trans hchild'))
    rw [Landing.loc, ← hplace.loc]
    exact .single hchild' (Node.not_link_of_kind hkind hlink)

/-- Where only the last name is missing, nothing is there. -/
theorem at?_of_missing (hplace : place.Entered top) {dir : Location} {name : Name}
    (h : descendThrough last links place steps = .ok (.missing dir name)) :
    top.at? (dir ++ [name]) = none := by
  replace h := leads_of_descendThrough h
  generalize hlanding : Landing.missing dir name = landing at h
  induction h with
  | missing hnone =>
    obtain ⟨rfl, rfl⟩ := Landing.missing.inj hlanding
    rw [← hplace.lookup, hnone]
  | idle hidle h ih => exact ih hplace hlanding
  | up h ih => exact ih hplace.up hlanding
  | link hmake hkeep hlink hsteps h ih => exact ih (Entered.linkStart hplace _) hlanding
  | dir hmake hdir h ih => exact ih (hplace.enter hdir) hlanding
  | found | kept | other => cases hlanding

/-- Only in a directory can a name be missing. -/
theorem exists_dir_of_missing (hplace : place.Entered top) (htop : top.isDir) (hdir : place.node.isDir)
    {dir : Location} {name : Name} (h : descendThrough last links place steps = .ok (.missing dir name)) :
    ∃ upper, top.at? dir = some upper ∧ upper.isDir := by
  replace h := leads_of_descendThrough h
  generalize hlanding : Landing.missing dir name = landing at h
  induction h with
  | missing hnone =>
    obtain ⟨rfl, rfl⟩ := Landing.missing.inj hlanding
    exact ⟨_, hplace.at?, hdir⟩
  | idle hidle h ih => exact ih hplace hdir hlanding
  | up h ih => exact ih hplace.up (hplace.isDir_up htop) hlanding
  | link hmake hkeep hlink hsteps h ih =>
    have hhere := Node.isDir_of_lookup hlink
    exact ih (Entered.linkStart hplace _) (isDir_linkStart hplace htop hhere _) hlanding
  | dir hmake hinner h ih => exact ih (hplace.enter hinner) rfl hlanding
  | found | kept | other => cases hlanding

theorem at?_of_follow_missing {p : Path} {dir : Location} {name : Name}
    (h : fs.follow last p steps = .ok (.missing dir name)) : fs.top.at? (dir ++ [name]) = none := by
  obtain ⟨place, left, hstart, -, hdescend⟩ := follow_eq_ok h nofun
  exact at?_of_missing (startOf?_eq_some hstart).1 hdescend

theorem exists_dir_of_follow_missing {p : Path} {dir : Location} {name : Name}
    (h : fs.follow last p steps = .ok (.missing dir name)) :
    ∃ upper, fs.top.at? dir = some upper ∧ upper.isDir := by
  obtain ⟨place, left, hstart, -, hdescend⟩ := follow_eq_ok h nofun
  obtain ⟨hentered, hdir⟩ := startOf?_eq_some hstart
  exact exists_dir_of_missing hentered fs.isDir_top hdir hdescend

/-- A file system that has grown out of another. -/
structure Grown (fs fs' : FileSystem) : Prop extends SameSystem fs fs' where
  top : fs.top.Grown fs'.top

theorem Grown.refl (fs : FileSystem) : fs.Grown fs :=
  ⟨.refl fs, fun loc node h => by rw [h, Option.map_some]⟩

theorem Grown.trans {fs'' : FileSystem} (h : fs.Grown fs') (h' : fs'.Grown fs'') : fs.Grown fs'' :=
  ⟨h.toSameSystem.trans h'.toSameSystem, fun loc node hnode => by
    obtain ⟨between, hbetween, hkind⟩ := Option.map_eq_some_iff.1 (h.top loc node hnode)
    rw [h'.top loc between hbetween, hkind]⟩

theorem grown_makeFile {loc : Location} (hnone : fs.top.at? loc = none) : fs.Grown (fs.makeFile loc) := by
  refine ⟨sameSystem_makeFile fs loc, ?_⟩
  rw [makeFile_eq]
  change (fs.unlink loc).top.Grown _
  refine grown_setAt (distinct_file ..) fun old hold => ?_
  cases hnone.symm.trans hold

theorem grown_setContent (fs : FileSystem) (loc : Location) (content : Bytes) :
    fs.Grown (fs.setContent loc content) :=
  ⟨sameSystem_setContent fs loc content, fun there node hnode => by
    rw [agreeAt_setContent, hnode, Option.map_some]⟩

variable {p : Path} {loc : Location} {node : Node}

theorem Grown.startOf? (h : fs.Grown fs') (hstart : fs.startOf? p = some place) :
    ∃ place', fs'.startOf? p = some place' ∧ Beside fs.top fs'.top place place' :=
  exists_beside h.cwd (fun _ node hnode => h.top fs.cwd node hnode) hstart

theorem Grown.follow (h : fs.Grown fs') (hfollow : fs.follow last p steps = .ok landing)
    (hthere : landing ≠ .removed) {node : Node} (hnode : fs'.top.at? landing.loc = some node)
    (hmissing : ∀ dir name target, landing = .missing dir name → node ≠ .link target) :
    fs'.follow last p steps = .ok (.found landing.loc node) := by
  obtain ⟨place, left, hstart, hleft, hdescend⟩ := follow_eq_ok hfollow hthere
  obtain ⟨place', hstart', hbeside⟩ := h.startOf? hstart
  rw [follow_of_emerge hstart' (by rw [h.depthOf, hleft])]
  exact descendThrough_grown h.top hbeside hdescend hnode hmissing

/-- What is found is found in the grown file system too. -/
theorem Grown.follow_found (h : fs.Grown fs') (hfollow : fs.follow last p steps = .ok (.found loc node)) :
    ∃ node', node'.kind = node.kind ∧ fs'.follow last p steps = .ok (.found loc node') := by
  obtain ⟨node', hnode', hkind⟩ := Option.map_eq_some_iff.1 (h.top _ _ (at?_of_follow hfollow))
  exact ⟨node', hkind, h.follow hfollow nofun hnode' nofun⟩

/-- A path leads where it led. -/
theorem Grown.resolve (h : fs.Grown fs') (hresolve : fs.resolve p = .ok (loc, node)) :
    ∃ node', node'.kind = node.kind ∧ fs'.resolve p = .ok (loc, node') := by
  obtain ⟨steps, hsteps, hfollow⟩ := exists_steps_of_resolve hresolve
  obtain ⟨node', hkind, hfollow'⟩ := h.follow_found hfollow
  exact ⟨node', hkind, resolve_of_follow hsteps hfollow'⟩

end FileSystem
end SourceSnapshot
