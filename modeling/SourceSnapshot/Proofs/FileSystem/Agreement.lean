import SourceSnapshot.Proofs.FileSystem.Following

/-! What following a path depends on. On the way names are looked up at locations one after another, and
nothing counts there but the kind of what is found; so in file systems that agree at the locations looked at
a path leads to the same place, or fails in the same way. -/
namespace SourceSnapshot

def Landing.outline : Landing → Option (Location × Option Kind)
  | .found loc node => some (loc, some node.kind)
  | .missing dir name => some (dir ++ [name], none)
  | .removed => none

namespace FileSystem
open Place
variable {fs fs' : FileSystem} {top top' : Node} {links : Nat} {place place' : Place}
  {steps : List PathStep} {p : Path} {loc : Location} {node : Node}

/-- The locations that the steps of a path depend on: the working directory, unless the path starts at the
top, and the ones looked at on the way. -/
def lookupsAlong (fs : FileSystem) (p : Path) (steps : List PathStep) : List Location :=
  (if p.isAbsolute then [] else [fs.cwd]) ++ fs.wayOf p steps

def lookups (fs : FileSystem) (p : Path) : List Location :=
  match p.stepsWithin with
  | .error _ => []
  | .ok steps => fs.lookupsAlong p steps

/-- Two trees agree on the kind of what they hold at a location. -/
def AgreeAt (top top' : Node) (loc : Location) : Prop :=
  (top'.at? loc).map Node.kind = (top.at? loc).map Node.kind

variable {name : Name} {rest : List PathStep}

/-- The locations looked at for a link on the way, if so many may still be followed. -/
def lookLink : Nat → Place → Path → List PathStep → List Location
  | 0, _, _, _ => []
  | links + 1, place, target, rest =>
    match target.steps with
    | .error _ => []
    | .ok steps => lookThrough links (linkStart target place) (steps ++ rest)

theorem lookThrough_eq (links : Nat) : lookThrough links = lookAlong (lookLink links) := by
  cases links <;> rfl

theorem lookThrough_into : lookThrough links place (.into name :: rest) =
    (place.loc ++ [name]) :: match place.node.entries.lookup name with
      | some (.link target) => lookLink links place target rest
      | some (.dir entries) => lookThrough links (place.enter name (.dir entries)) rest
      | _ => [] := by
  rw [lookThrough_eq]
  rfl

theorem lookThrough_of_link {target : Path} (h : place.node.entries.lookup name = some (.link target)) :
    lookThrough links place (.into name :: rest) =
      (place.loc ++ [name]) :: lookLink links place target rest := by
  rw [lookThrough_into, h]

theorem lookThrough_of_dir {entries : List (Name × Node)}
    (h : place.node.entries.lookup name = some (.dir entries)) :
    lookThrough links place (.into name :: rest) =
      (place.loc ++ [name]) :: lookThrough links (place.enter name (.dir entries)) rest := by
  rw [lookThrough_into, h]

theorem lookThrough_of_missing (h : place.node.entries.lookup name = none) :
    lookThrough links place (.into name :: rest) = [place.loc ++ [name]] := by
  rw [lookThrough_into, h]

theorem lookThrough_of_other (h : place.node.entries.lookup name = some node) (hdir : node.isDir = false)
    (hlink : ∀ target, node ≠ .link target) :
    lookThrough links place (.into name :: rest) = [place.loc ++ [name]] := by
  rw [lookThrough_into, h]
  cases node with
  | dir entries => cases hdir
  | link target => exact absurd rfl (hlink target)
  | _ => rfl

theorem lookLink_of_steps {target : Path} (h : target.steps = .ok steps) :
    lookLink (links + 1) place target rest = lookThrough links (linkStart target place) (steps ++ rest) := by
  rw [lookLink, h]

/-- A name is looked up, whatever it leads to. -/
theorem mem_lookThrough_into : place.loc ++ [name] ∈ lookThrough links place (.into name :: rest) := by
  rw [lookThrough_into]
  exact List.mem_cons_self

@[simp] theorem lookThrough_nil : lookThrough links place [] = [] := by
  rw [lookThrough_eq]
  rfl

@[simp] theorem lookThrough_tooLong : lookThrough links place (.tooLong :: rest) = [] := by
  rw [lookThrough_eq]
  rfl

@[simp] theorem lookThrough_here :
    lookThrough links place (.here :: rest) = lookThrough links place rest := by
  rw [lookThrough_eq]
  rfl

@[simp] theorem lookThrough_slash :
    lookThrough links place (.slash :: rest) = lookThrough links place rest := by
  rw [lookThrough_eq]
  rfl

@[simp] theorem lookThrough_up :
    lookThrough links place (.up :: rest) = lookThrough links place.up rest := by
  rw [lookThrough_eq]
  rfl

/-- What a name leads to in two trees is of one kind if they agree where it is looked up. -/
theorem map_kind_lookup (hplace : Beside top top' place place')
    (h : AgreeAt top top' (place.loc ++ [name])) :
    (place'.node.entries.lookup name).map Node.kind = (place.node.entries.lookup name).map Node.kind := by
  rw [hplace.lookup, hplace.entered.lookup]
  exact h

/-- Where two trees agree at what is looked at, the same steps lead to the same place in both. -/
theorem descendThrough_agree (htop : top'.kind = top.kind) (hplace : Beside top top' place place')
    (h : ∀ loc ∈ lookThrough links place steps, AgreeAt top top' loc) :
    (descendThrough .follow links place' steps).map Landing.outline =
      (descendThrough .follow links place steps).map Landing.outline := by
  induction links, place, steps using stepInduction generalizing place' with
  | nil links place =>
    rw [descendThrough_nil, descendThrough_nil]
    simp only [Except.map, Landing.outline, hplace.loc, hplace.kind]
  | idle links place step rest hidle ih =>
    rcases hidle with rfl | rfl
    · rw [descendThrough_here, descendThrough_here]
      rw [lookThrough_here] at h
      exact ih hplace h
    · rw [descendThrough_slash, descendThrough_slash]
      rw [lookThrough_slash] at h
      exact ih hplace h
  | up links place rest ih =>
    rw [descendThrough_up, descendThrough_up]
    rw [lookThrough_up] at h
    exact ih hplace.up h
  | tooLong links place rest => rw [descendThrough_tooLong, descendThrough_tooLong]
  | missing links place name rest hnone =>
    have hkind := map_kind_lookup hplace (h _ mem_lookThrough_into)
    rw [hnone, Option.map_none, Option.map_eq_none_iff] at hkind
    rw [descendThrough_of_missing hnone, descendThrough_of_missing hkind, hplace.loc]
  | link links place name rest target hlink ih =>
    have hkind := map_kind_lookup hplace (h _ mem_lookThrough_into)
    rw [hlink, Option.map_some, Option.map_eq_some_iff] at hkind
    obtain ⟨child', hlink', hkind⟩ := hkind
    cases child' with
    | link target' =>
      cases hkind
      rw [lookThrough_of_link hlink, List.forall_mem_cons] at h
      rw [descendThrough_of_link hlink, descendThrough_of_link hlink', if_neg (by simp), if_neg (by simp),
        if_neg (by simp), if_neg (by simp)]
      cases links with
      | zero => rfl
      | succ fewer =>
        cases hsteps : target.steps with
        | error e => simp only [throughLink, hsteps]
        | ok steps =>
          rw [throughLink_of_steps hsteps, throughLink_of_steps hsteps]
          rw [lookLink, hsteps] at h
          exact ih fewer steps rfl hsteps (hplace.linkStart htop target) h.2
    | _ => cases hkind
  | dir links place name rest entries hdir ih =>
    have hkind := map_kind_lookup hplace (h _ mem_lookThrough_into)
    rw [hdir, Option.map_some, Option.map_eq_some_iff] at hkind
    obtain ⟨child', hdir', hkind⟩ := hkind
    cases child' with
    | dir entries' =>
      rw [lookThrough_of_dir hdir, List.forall_mem_cons] at h
      rw [descendThrough_of_dir hdir, descendThrough_of_dir hdir', if_neg (by simp), if_neg (by simp)]
      exact ih (hplace.enter hdir hdir' rfl) h.2
    | _ => cases hkind
  | other links place name rest child hother hdir hlink =>
    have hkind := map_kind_lookup hplace (h _ mem_lookThrough_into)
    rw [hother, Option.map_some, Option.map_eq_some_iff] at hkind
    obtain ⟨child', hother', hkind⟩ := hkind
    have hdir' : child'.isDir = false := by rw [Node.isDir_eq_of_kind hkind, hdir]
    have hlink' : ∀ target, child' ≠ .link target := Node.not_link_of_kind hkind hlink
    have hmake : ¬ (LastName.follow = .make ∧ rest = [.slash]) := fun h => by cases h.1
    rw [descendThrough_of_other hother hdir hlink, descendThrough_of_other hother' hdir' hlink',
      if_neg hmake, if_neg hmake]
    split
    · simp only [Except.map, Landing.outline, hplace.loc, hkind]
    · rfl

/-- In both trees the same is looked at. -/
theorem lookThrough_agree (htop : top'.kind = top.kind) (hplace : Beside top top' place place')
    (h : ∀ loc ∈ lookThrough links place steps, AgreeAt top top' loc) :
    lookThrough links place' steps = lookThrough links place steps := by
  induction links, place, steps using stepInduction generalizing place' with
  | nil links place => rw [lookThrough_nil, lookThrough_nil]
  | idle links place step rest hidle ih =>
    rcases hidle with rfl | rfl
    · rw [lookThrough_here] at h ⊢
      rw [lookThrough_here, ih hplace h]
    · rw [lookThrough_slash] at h ⊢
      rw [lookThrough_slash, ih hplace h]
  | up links place rest ih =>
    rw [lookThrough_up] at h ⊢
    rw [lookThrough_up, ih hplace.up h]
  | tooLong links place rest => rw [lookThrough_tooLong, lookThrough_tooLong]
  | missing links place name rest hnone =>
    have hkind := map_kind_lookup hplace (h _ mem_lookThrough_into)
    rw [hnone, Option.map_none, Option.map_eq_none_iff] at hkind
    rw [lookThrough_of_missing hnone, lookThrough_of_missing hkind, hplace.loc]
  | link links place name rest target hlink ih =>
    have hkind := map_kind_lookup hplace (h _ mem_lookThrough_into)
    rw [hlink, Option.map_some, Option.map_eq_some_iff] at hkind
    obtain ⟨child', hlink', hkind⟩ := hkind
    cases child' with
    | link target' =>
      cases hkind
      rw [lookThrough_of_link hlink, List.forall_mem_cons] at h
      rw [lookThrough_of_link hlink, lookThrough_of_link hlink', hplace.loc]
      cases links with
      | zero => rfl
      | succ fewer =>
        cases hsteps : target.steps with
        | error e => rw [lookLink, lookLink, hsteps]
        | ok steps =>
          rw [lookLink_of_steps hsteps] at h
          rw [lookLink_of_steps hsteps, lookLink_of_steps hsteps,
            ih fewer steps rfl hsteps (hplace.linkStart htop target) h.2]
    | _ => cases hkind
  | dir links place name rest entries hdir ih =>
    have hkind := map_kind_lookup hplace (h _ mem_lookThrough_into)
    rw [hdir, Option.map_some, Option.map_eq_some_iff] at hkind
    obtain ⟨child', hdir', hkind⟩ := hkind
    cases child' with
    | dir entries' =>
      rw [lookThrough_of_dir hdir, List.forall_mem_cons] at h
      rw [lookThrough_of_dir hdir, lookThrough_of_dir hdir', hplace.loc,
        ih (hplace.enter hdir hdir' rfl) h.2]
    | _ => cases hkind
  | other links place name rest child hother hdir hlink =>
    have hkind := map_kind_lookup hplace (h _ mem_lookThrough_into)
    rw [hother, Option.map_some, Option.map_eq_some_iff] at hkind
    obtain ⟨child', hother', hkind⟩ := hkind
    rw [lookThrough_of_other hother hdir hlink, lookThrough_of_other hother'
      (by rw [Node.isDir_eq_of_kind hkind, hdir]) (Node.not_link_of_kind hkind hlink), hplace.loc]

/-- What is no directory is looked at before it is found, unless the steps start there. -/
theorem mem_lookThrough (hplace : place.Entered top) (htop : top.isDir) (hnode : node.isDir = false)
    (h : descendThrough .follow links place steps = .ok (.found loc node)) :
    loc ∈ lookThrough links place steps ∨ (loc = place.loc ∧ node = place.node) := by
  replace h := leads_of_descendThrough h
  generalize hlanding : Landing.found loc node = landing at h
  induction h with
  | found =>
    obtain ⟨rfl, rfl⟩ := Landing.found.inj hlanding
    exact .inr ⟨rfl, rfl⟩
  | idle hidle h ih =>
    rcases hidle with rfl | rfl
    · rw [lookThrough_here]
      exact ih hplace hlanding
    · rw [lookThrough_slash]
      exact ih hplace hlanding
  | up h ih =>
    rw [lookThrough_up]
    refine (ih hplace.up hlanding).imp_right fun hstart => ?_
    rw [hstart.2, hplace.isDir_up htop] at hnode
    cases hnode
  | missing hnone => cases hlanding
  | kept hlast hlink => cases hlast
  | link hmake hkeep hlink hsteps h ih =>
    rw [lookThrough_of_link hlink, lookLink, hsteps]
    refine .inl (List.mem_cons_of_mem _ ?_)
    refine (ih (Entered.linkStart hplace _) hlanding).resolve_right fun hstart => ?_
    rw [hstart.2, isDir_linkStart hplace htop (Node.isDir_of_lookup hlink)] at hnode
    cases hnode
  | dir hmake hdir h ih =>
    rw [lookThrough_of_dir hdir]
    refine .inl (List.mem_cons_of_mem _ ((ih (hplace.enter hdir) hlanding).resolve_right fun hstart => ?_))
    rw [hstart.2] at hnode
    cases hnode
  | other hother hdir hlink =>
    obtain ⟨rfl, -⟩ := Landing.found.inj hlanding
    exact .inl mem_lookThrough_into

/-- Landings of one outline, or failures. -/
theorem landing_cases {here there : Except IoError Landing}
    (h : there.map Landing.outline = here.map Landing.outline) :
    (∃ e, here = .error e ∧ there = .error e) ∨
    (∃ dir name dir' name', here = .ok (.missing dir name) ∧ there = .ok (.missing dir' name')) ∨
    (here = .ok .removed ∧ there = .ok .removed) ∨
    ∃ loc node node', here = .ok (.found loc node) ∧ there = .ok (.found loc node') ∧
      node'.kind = node.kind := by
  cases here with
  | error e =>
    cases there with
    | error e' =>
      cases h
      exact .inl ⟨e, rfl, rfl⟩
    | ok landing' => cases h
  | ok landing =>
    cases there with
    | error e' => cases h
    | ok landing' =>
      have houtline : landing'.outline = landing.outline := Except.ok.inj h
      cases landing with
      | missing dir name =>
        cases landing' with
        | missing dir' name' => exact .inr (.inl ⟨dir, name, dir', name', rfl, rfl⟩)
        | found loc' node' => cases (Prod.mk.inj (Option.some.inj houtline)).2
        | removed => cases houtline
      | found loc node =>
        cases landing' with
        | missing dir' name' => cases (Prod.mk.inj (Option.some.inj houtline)).2
        | found loc' node' =>
          obtain ⟨rfl, hkind⟩ := Prod.mk.inj (Option.some.inj houtline)
          exact .inr (.inr (.inr ⟨loc', node, node', rfl, rfl, Option.some.inj hkind⟩))
        | removed => cases houtline
      | removed =>
        cases landing' with
        | removed => exact .inr (.inr (.inl ⟨rfl, rfl⟩))
        | found | missing => cases houtline

def outlineOf (found : Location × Node) : Location × Kind := (found.1, found.2.kind)

theorem outline_cases {here there : Except IoError (Location × Node)}
    (h : there.map outlineOf = here.map outlineOf) :
    (∃ e, here = .error e ∧ there = .error e) ∨
    ∃ loc node node', here = .ok (loc, node) ∧ there = .ok (loc, node') ∧ node'.kind = node.kind := by
  match here, there, h with
  | .error e, .error e', h =>
    cases h
    exact .inl ⟨e, rfl, rfl⟩
  | .ok (loc, node), .ok (loc', node'), h =>
    obtain ⟨rfl, hkind⟩ := Prod.mk.inj (Except.ok.inj h)
    exact .inr ⟨loc', node, node', rfl, rfl, hkind⟩

/-- From landings of one outline a path leads to the same location, to what is of one kind, or it fails in the
same way. -/
theorem resolve_eq_of_land (h : (fs'.land .follow p).map Landing.outline = (fs.land .follow p).map Landing.outline) :
    (fs'.resolve p).map outlineOf = (fs.resolve p).map outlineOf := by
  rw [resolve, resolve]
  rcases landing_cases h with ⟨e, here, there⟩ | ⟨dir, name, dir', name', here, there⟩ | ⟨here, there⟩ |
    ⟨loc, node, node', here, there, hkind⟩
  · rw [here, there]
  · rw [here, there]
  · rw [here, there]
  · simp only [here, there, Except.map, outlineOf, hkind]

theorem isDir_eq_of_land (h : (fs'.land .follow p).map Landing.outline = (fs.land .follow p).map Landing.outline) :
    fs'.isDir p = fs.isDir p := by
  rw [isDir, isDir]
  rcases landing_cases h with ⟨e, here, there⟩ | ⟨dir, name, dir', name', here, there⟩ | ⟨here, there⟩ |
    ⟨loc, node, node', here, there, hkind⟩
  · rw [here, there]
  · rw [here, there]
  · rw [here, there]
  · rw [here, there]
    exact Node.isDir_eq_of_kind hkind

section
variable (hsame : SameProcess fs fs')
include hsame

/-- A path starts at the same location in both file systems, or in both nowhere. -/
theorem startOf?_agree (h : p.isAbsolute = false → AgreeAt fs.top fs'.top fs.cwd) :
    (fs.startOf? p = none ∧ fs'.startOf? p = none) ∨ ∃ place place', fs.startOf? p = some place ∧
      fs'.startOf? p = some place' ∧ Beside fs.top fs'.top place place' := by
  cases hplace : fs.startOf? p with
  | none =>
    refine .inl ⟨rfl, Option.eq_none_iff_forall_ne_some.2 fun place' hplace' => ?_⟩
    obtain ⟨place, hsome, -⟩ := exists_beside hsame.cwd.symm (fun hrelative node hnode => by
      rw [hsame.cwd] at hnode ⊢
      rw [← h hrelative, hnode, Option.map_some]) hplace'
    rw [hplace] at hsome
    cases hsome
  | some place =>
    obtain ⟨place', hplace', hbeside⟩ := exists_beside hsame.cwd (fun hrelative node hnode => by
      rw [h hrelative, hnode, Option.map_some]) hplace
    exact .inr ⟨place, place', rfl, hplace', hbeside⟩

theorem follow_agree (h : ∀ loc ∈ fs.lookupsAlong p steps, AgreeAt fs.top fs'.top loc) :
    (fs'.follow .follow p steps).map Landing.outline = (fs.follow .follow p steps).map Landing.outline ∧
      fs'.wayOf p steps = fs.wayOf p steps := by
  have hcwd : p.isAbsolute = false → AgreeAt fs.top fs'.top fs.cwd := by
    intro hrelative
    refine h _ (List.mem_append_left _ ?_)
    rw [hrelative]
    exact List.mem_singleton_self fs.cwd
  have hway : ∀ loc ∈ fs.wayOf p steps, AgreeAt fs.top fs'.top loc := fun loc hloc =>
    h loc (List.mem_append_right _ hloc)
  rw [follow, follow, wayOf, wayOf, hsame.depthOf]
  rw [wayOf] at hway
  rcases startOf?_agree hsame hcwd with ⟨hnone, hnone'⟩ | ⟨place, place', hplace, hplace', hbeside⟩
  · rw [hnone, hnone']
    exact ⟨rfl, rfl⟩
  · rw [hplace, hplace']
    rw [hplace] at hway
    cases hleft : emerge .follow (fs.depthOf p) steps with
    | error e => exact ⟨rfl, rfl⟩
    | ok left =>
      cases left with
      | none => exact ⟨rfl, rfl⟩
      | some left =>
        simp only [hleft] at hway ⊢
        have htop : fs'.top.kind = fs.top.kind := by rw [fs'.kind_top, fs.kind_top]
        exact ⟨descendThrough_agree htop hbeside hway, lookThrough_agree htop hbeside hway⟩

/-- Where two file systems agree at all that a path depends on, it leads to landings of one outline, or it
fails in the same way. -/
theorem land_agree (h : ∀ loc ∈ fs.lookups p, AgreeAt fs.top fs'.top loc) :
    (fs'.land .follow p).map Landing.outline = (fs.land .follow p).map Landing.outline := by
  rw [land, land]
  cases hsteps : p.stepsWithin with
  | error e => rfl
  | ok steps =>
    refine (follow_agree hsame fun loc hloc => h loc ?_).1
    rw [lookups, hsteps]
    exact hloc

theorem resolve_agree (h : ∀ loc ∈ fs.lookups p, AgreeAt fs.top fs'.top loc) :
    (fs'.resolve p).map outlineOf = (fs.resolve p).map outlineOf := resolve_eq_of_land (land_agree hsame h)

theorem isDir_agree (h : ∀ loc ∈ fs.lookups p, AgreeAt fs.top fs'.top loc) : fs'.isDir p = fs.isDir p :=
  isDir_eq_of_land (land_agree hsame h)

theorem canonical?_agree (h : ∀ loc, AgreeAt fs.top fs'.top loc) : fs'.canonical? p = fs.canonical? p := by
  rw [canonical?, canonical?]
  cases p.steps with
  | error e => rfl
  | ok steps =>
    obtain ⟨hfollow, hway⟩ : _ ∧ fs'.wayOf p steps = fs.wayOf p steps := follow_agree hsame fun loc _ => h loc
    simp only [hsame.depthOf, hway]
    split
    · rfl
    · rcases landing_cases hfollow with ⟨e, here, there⟩ | ⟨dir, name, dir', name', here, there⟩ |
        ⟨here, there⟩ | ⟨loc, node, node', here, there, hkind⟩ <;> rw [here, there]

end

/-- What is no directory is at a location on which the path depends. -/
theorem mem_lookups (h : fs.resolve p = .ok (loc, node)) (hnode : node.isDir = false) :
    loc ∈ fs.lookups p := by
  obtain ⟨steps, hsteps, hfollow⟩ := exists_steps_of_resolve h
  obtain ⟨place, left, hstart, hleft, hdescend⟩ := follow_eq_ok hfollow nofun
  obtain ⟨hentered, hdir⟩ := startOf?_eq_some hstart
  rw [lookups, hsteps]
  refine List.mem_append_right _ ?_
  rw [wayOf, hstart, hleft]
  refine (mem_lookThrough hentered fs.isDir_top hnode hdescend).resolve_right fun hplace => ?_
  rw [hplace.2, hdir] at hnode
  cases hnode

end FileSystem
end SourceSnapshot
