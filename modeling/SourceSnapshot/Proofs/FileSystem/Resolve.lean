import SourceSnapshot.FileSystem.Basic

/-! Where following a path can lead. Every place on the way is entered from the top by names, so what
is found at the end stands in the tree at its location, whatever links lie on the way. -/
namespace SourceSnapshot

namespace Node

/-- Induction on what a directory holds. -/
theorem nodeInduction {P : Node → Prop}
    (dir : ∀ entries, (∀ entry ∈ entries, P entry.2) → P (.dir entries))
    (other : ∀ node, node.isDir = false → P node) (node : Node) : P node := by
  match node with
  | .dir entries =>
    refine dir entries fun entry hentry => ?_
    have hlt : sizeOf entry.2 < sizeOf entries := by
      have hmem := List.sizeOf_lt_of_mem hentry
      obtain ⟨name, child⟩ := entry
      simp only [Prod.mk.sizeOf_spec] at hmem ⊢
      omega
    exact nodeInduction dir other entry.2
  | .file .. | .link .. | .device .. | .tool .. => exact other _ rfl
termination_by sizeOf node
decreasing_by
  simp only [Node.dir.sizeOf_spec]
  omega

theorem entries_of_not_dir {node : Node} (h : node.isDir = false) : node.entries = [] := by
  cases node with
  | dir entries => cases h
  | _ => rfl

theorem at?_append (node : Node) (loc further : Location) :
    node.at? (loc ++ further) = (node.at? loc).bind fun inner => inner.at? further := by
  induction loc generalizing node with
  | nil => rfl
  | cons name rest ih =>
    rw [List.cons_append, at?, at?]
    cases node.entries.lookup name with
    | none => rfl
    | some child => exact ih child

theorem Distinct.nodup_entries {node : Node} (h : node.Distinct) : (node.entries.map Prod.fst).Nodup := by
  cases node with
  | dir entries => exact h.1
  | _ => exact List.nodup_nil

theorem Distinct.child {node child : Node} {name : Name} (h : node.Distinct)
    (hchild : node.entries.lookup name = some child) : child.Distinct := by
  cases node with
  | dir entries => exact allDistinct_iff.1 h.2 _ (mem_of_lookup hchild)
  | _ => cases hchild

theorem Distinct.at? {node inner : Node} {loc : Location} (h : node.Distinct)
    (hat : node.at? loc = some inner) : inner.Distinct := by
  induction loc generalizing node with
  | nil => exact Option.some.inj hat ▸ h
  | cons name rest ih =>
    obtain ⟨child, hchild, hrest⟩ := Option.bind_eq_some_iff.1 hat
    exact ih (h.child hchild) hrest

end Node

namespace Place

inductive Entered (top : Node) : Place → Prop
  | top : Entered top { node := top }
  | enter {place : Place} {name : Name} {node : Node} (h : Entered top place)
      (hnode : place.node.entries.lookup name = some node) : Entered top (place.enter name node)

variable {top : Node} {place : Place}

@[simp] theorem loc_enter (place : Place) (name : Name) (node : Node) :
    (place.enter name node).loc = place.loc ++ [name] := by
  simp [loc, enter]

theorem Entered.at? (h : Entered top place) : top.at? place.loc = some place.node := by
  induction h with
  | top => rfl
  | @enter place name node _ hnode ih =>
    rw [loc_enter, Node.at?_append, ih, Option.bind_some, Node.at?, hnode]
    rfl

theorem Entered.up (h : Entered top place) : Entered top place.up := by
  cases h with
  | top => exact .top
  | enter h _ => exact h

theorem Entered.top_eq (h : Entered top place) : place.top = { node := top } := by
  induction h with
  | top => rfl
  | @enter place name node _ _ ih =>
    have habove : (place.enter name node).above.getLast? =
        some (place.above.getLast?.getD (name, place.node)) := List.getLast?_cons
    unfold Place.top at ih ⊢
    rw [habove]
    cases hlast : place.above.getLast? with
    | none =>
      rw [hlast] at ih
      have hplace : place = { node := top } := ih
      rw [hplace]
      rfl
    | some outermost =>
      rw [hlast] at ih
      exact ih

theorem Entered.down? {loc : Location} {lower : Place} (h : Entered top place)
    (hdown : place.down? loc = some lower) : Entered top lower := by
  induction loc generalizing place with
  | nil => exact Option.some.inj hdown ▸ h
  | cons name rest ih =>
    obtain ⟨node, hnode, hrest⟩ := Option.bind_eq_some_iff.1 hdown
    exact ih (h.enter hnode) hrest

end Place

namespace FileSystem

variable {top : Node} {last : LastName}

/-- Steps from a place that was entered from the top lead to a node of the tree, if each link on the
way does. -/
theorem at?_of_descend {onLink : Place → Path → List PathStep → Except IoError Landing}
    (hlink : ∀ place target rest loc node, place.Entered top →
      onLink place target rest = .ok (.found loc node) → top.at? loc = some node)
    {place : Place} {steps : List PathStep} {loc : Location} {node : Node} (hplace : place.Entered top)
    (h : descend last onLink place steps = .ok (.found loc node)) : top.at? loc = some node := by
  have hentered {place : Place} {name : Name} {child : Node} (hplace : place.Entered top)
      (hchild : place.node.entries.lookup name = some child) :
      top.at? (place.loc ++ [name]) = some child := by
    have := (hplace.enter hchild).at?
    rwa [Place.loc_enter] at this
  induction steps generalizing place with
  | nil =>
    rw [descend] at h
    obtain ⟨rfl, rfl⟩ := Landing.found.inj (Except.ok.inj h)
    exact hplace.at?
  | cons step rest ih =>
    cases step with
    | here => exact ih hplace h
    | slash => exact ih hplace h
    | up => exact ih hplace.up h
    | tooLong => cases h
    | into name =>
      rw [descend] at h
      split at h
      · cases h
      · split at h
        · split at h <;> cases h
        · rename_i target hchild
          split at h
          · obtain ⟨rfl, rfl⟩ := Landing.found.inj (Except.ok.inj h)
            exact hentered hplace hchild
          · exact hlink place target rest loc node hplace h
        · rename_i entries hchild
          exact ih (hplace.enter hchild) h
        · rename_i child _ _ hchild
          split at h
          · obtain ⟨rfl, rfl⟩ := Landing.found.inj (Except.ok.inj h)
            exact hentered hplace hchild
          · cases h

theorem at?_of_descendThrough {links : Nat} {place : Place} {steps : List PathStep} {loc : Location}
    {node : Node} (hplace : place.Entered top)
    (h : descendThrough last links place steps = .ok (.found loc node)) : top.at? loc = some node := by
  induction links generalizing place steps loc node with
  | zero => exact at?_of_descend (fun _ _ _ _ _ _ hlink => by cases hlink) hplace h
  | succ links ih =>
    refine at?_of_descend (fun place target rest loc node hplace hlink => ?_) hplace h
    split at hlink
    · cases hlink
    · rename_i steps _
      have hstart : (linkStart target place).Entered top := by
        unfold linkStart
        split
        · exact hplace.top_eq ▸ .top
        · exact hplace
      exact ih hstart hlink

theorem exists_steps_of_resolve {fs : FileSystem} {p : Path} {loc : Location} {node : Node}
    (h : fs.resolve p = .ok (loc, node)) :
    ∃ steps, p.stepsWithin = .ok steps ∧ fs.follow .follow p steps = .ok (.found loc node) := by
  unfold resolve at h
  split at h
  · cases h
  · cases h
  · cases h
  · rename_i hland
    obtain ⟨rfl, rfl⟩ := Prod.mk.inj (Except.ok.inj h)
    cases hsteps : p.stepsWithin with
    | error e =>
      rw [land, hsteps] at hland
      cases hland
    | ok steps =>
      rw [land, hsteps] at hland
      exact ⟨steps, rfl, hland⟩

theorem resolve_of_stepsWithin {fs : FileSystem} {p : Path} {e : IoError} (h : p.stepsWithin = .error e) :
    fs.resolve p = .error e := by
  rw [resolve, land, h]
  rfl

theorem startOf?_eq_some {fs : FileSystem} {p : Path} {place : Place} (h : fs.startOf? p = some place) :
    place.Entered fs.top ∧ place.node.isDir := by
  unfold startOf? at h
  split at h
  · exact Option.some.inj h ▸ ⟨.top, fs.isDir_top⟩
  · obtain ⟨hdown, hdir⟩ := Option.filter_eq_some_iff.1 h
    exact ⟨Place.Entered.top.down? hdown, hdir⟩

/-- A path is followed from where it starts, by the steps that are left once it is out of all that was
taken away. -/
theorem follow_eq_ok {fs : FileSystem} {p : Path} {steps : List PathStep} {landing : Landing}
    (h : fs.follow last p steps = .ok landing) (hthere : landing ≠ .removed) : ∃ place rest,
      fs.startOf? p = some place ∧ emerge last (fs.depthOf p) steps = .ok (some rest) ∧
      descendThrough last maxLinks place rest = .ok landing := by
  unfold follow at h
  split at h
  · cases h
  · rename_i place hplace
    split at h
    · cases h
    · exact absurd (Except.ok.inj h).symm hthere
    · rename_i rest hrest
      exact ⟨place, rest, hplace, hrest, h⟩

theorem at?_of_follow {fs : FileSystem} {p : Path} {steps : List PathStep} {loc : Location} {node : Node}
    (h : fs.follow last p steps = .ok (.found loc node)) : fs.top.at? loc = some node := by
  obtain ⟨place, rest, hstart, -, hdescend⟩ := follow_eq_ok h nofun
  exact at?_of_descendThrough (startOf?_eq_some hstart).1 hdescend

/-- What a path leads to stands in the tree at its location. -/
theorem at?_of_resolve {fs : FileSystem} {p : Path} {loc : Location} {node : Node}
    (h : fs.resolve p = .ok (loc, node)) : fs.top.at? loc = some node := by
  obtain ⟨steps, -, hfollow⟩ := exists_steps_of_resolve h
  exact at?_of_follow hfollow

theorem at?_below {fs : FileSystem} {p : Path} {loc names : Location} {node child : Node}
    (h : fs.resolve p = .ok (loc, node)) (hchild : node.at? names = some child) :
    fs.top.at? (loc ++ names) = some child := by
  rw [Node.at?_append, at?_of_resolve h, Option.bind_some, hchild]

theorem distinct_of_resolve {fs : FileSystem} {p : Path} {loc : Location} {node : Node}
    (h : fs.resolve p = .ok (loc, node)) : node.Distinct :=
  fs.distinct_top.at? (at?_of_resolve h)

theorem bytes_ne_nil_of_resolve {fs : FileSystem} {p : Path} {loc : Location} {node : Node}
    (h : fs.resolve p = .ok (loc, node)) : p.bytes ≠ [] := by
  obtain ⟨steps, hsteps, -⟩ := exists_steps_of_resolve h
  intro hnil
  simp [Path.stepsWithin, Path.steps, hnil, Bind.bind, Except.bind] at hsteps

theorem exists_land_error (fs : FileSystem) (last : LastName) {p : Path} (hlong : p.isTooLong) :
    ∃ e, fs.land last p = .error e := by
  rw [land, Path.stepsWithin]
  cases p.steps with
  | error e => exact ⟨e, rfl⟩
  | ok steps => exact ⟨.nameTooLong, by simp [hlong, Bind.bind, Except.bind]⟩

theorem not_isTooLong_of_list {fs : FileSystem} {p : Path} {entries : List (Name × Node)}
    (h : fs.list p = .ok entries) : p.isTooLong = false := by
  refine Bool.eq_false_iff.2 fun hlong => ?_
  obtain ⟨e, herror⟩ := exists_land_error fs .follow hlong
  rw [list, herror] at h
  cases h

end FileSystem
end SourceSnapshot
