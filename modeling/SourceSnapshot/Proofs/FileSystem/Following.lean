import SourceSnapshot.Proofs.FileSystem.Resolve

/-! How a path is followed, step by step. The steps are taken one after another, and at a link its own
steps come first; so what is proved of following goes by the last step taken, with one case for each thing
that a name can lead to. -/
namespace SourceSnapshot

inductive Kind
  | file
  | dir
  | link (target : Path)
  | device (device : Device)
  | tool (tool : Tool)

namespace Node

def kind : Node → Kind
  | .file _ _ => .file
  | .dir _ => .dir
  | .link target => .link target
  | .device d => .device d
  | .tool t => .tool t

theorem isDir_iff_kind {node : Node} : node.isDir ↔ node.kind = .dir := by
  cases node <;> simp [isDir, kind]

theorem isDir_eq_of_kind {node other : Node} (h : other.kind = node.kind) : other.isDir = node.isDir := by
  rw [Bool.eq_iff_iff, isDir_iff_kind, isDir_iff_kind, h]

/-- A node, less what a directory holds. -/
def surface : Node → Node
  | .dir _ => .dir []
  | node => node

theorem kind_surface (node : Node) : node.surface.kind = node.kind := by cases node <;> rfl

theorem surface_of_dir {node other : Node} (hdir : node.isDir) (hkind : other.kind = node.kind) :
    other.surface = node.surface := by
  cases node with
  | dir entries =>
    cases other with
    | dir others => rfl
    | _ => cases hkind
  | _ => cases hdir

theorem map_kind_of_surface {here there : Option Node} (h : there.map surface = here.map surface) :
    there.map kind = here.map kind := by
  have hkind (node : Option Node) : node.map kind = (node.map surface).map kind := by
    rw [Option.map_map]
    exact congrArg (node.map ·) (funext fun node => (kind_surface node).symm)
  rw [hkind there, hkind here, h]

theorem not_link_of_kind {node other : Node} (h : other.kind = node.kind)
    (hlink : ∀ target, node ≠ .link target) : ∀ target, other ≠ .link target := by
  rintro target rfl
  cases node with
  | link own => exact hlink own rfl
  | _ => cases h

theorem isDir_of_lookup {node child : Node} {name : Name} (h : node.entries.lookup name = some child) :
    node.isDir := by
  cases node with
  | dir entries => rfl
  | _ => cases h

theorem eq_nil_of_at? {node inner : Node} {loc : Location} (hdir : node.isDir = false)
    (h : node.at? loc = some inner) : loc = [] := by
  cases loc with
  | nil => rfl
  | cons name rest =>
    obtain ⟨child, hchild, -⟩ := Option.bind_eq_some_iff.1 h
    rw [isDir_of_lookup hchild] at hdir
    cases hdir

/-- Below a directory without directories only its entries stand. -/
theorem exists_entry_of_at? {entries : List (Name × Node)} {child : Node} {loc : Location}
    (h : ∀ entry ∈ entries, entry.2.isDir = false) (hne : loc ≠ []) (hchild : (Node.dir entries).at? loc = some child) :
    ∃ entry ∈ entries, loc = [entry.1] ∧ child = entry.2 := by
  cases loc with
  | nil => exact absurd rfl hne
  | cons name rest =>
    obtain ⟨inner, hinner, hrest⟩ := Option.bind_eq_some_iff.1 hchild
    have hentry := mem_of_lookup hinner
    obtain rfl := eq_nil_of_at? (h _ hentry) hrest
    exact ⟨_, hentry, rfl, (Option.some.inj hrest).symm⟩

theorem at?_singleton (node : Node) (name : Name) : node.at? [name] = node.entries.lookup name := by
  rw [at?]
  cases node.entries.lookup name <;> rfl

end Node

namespace Place
variable {top top' : Node} {place place' : Place}

theorem Entered.lookup (h : place.Entered top) (name : Name) :
    place.node.entries.lookup name = top.at? (place.loc ++ [name]) := by
  rw [Node.at?_append, h.at?, Option.bind_some, Node.at?_singleton]

theorem Entered.loc_up (h : place.Entered top) : place.up.loc = place.loc.dropLast := by
  cases h with
  | top => rfl
  | @enter upper name node _ _ =>
    rw [loc_enter, List.dropLast_concat]
    rfl

/-- Above there are only directories. -/
theorem Entered.isDir_up (h : place.Entered top) (htop : top.isDir) : place.up.node.isDir := by
  cases h with
  | top => exact htop
  | enter h hnode => exact Node.isDir_of_lookup hnode

/-- To go down from a place leads to what stands there. -/
theorem down?_eq (place : Place) (loc : Location) :
    (place.down? loc).map (fun lower => (lower.loc, lower.node)) =
      (place.node.at? loc).map fun node => (place.loc ++ loc, node) := by
  induction loc generalizing place with
  | nil => simp [down?, Node.at?]
  | cons name rest ih =>
    rw [down?, Node.at?]
    cases place.node.entries.lookup name with
    | none => rfl
    | some child =>
      rw [Option.bind_some, Option.bind_some, ih, loc_enter]
      simp [enter]

/-- Two places in two trees at one location, and what is there is of one kind. -/
structure Beside (top top' : Node) (place place' : Place) : Prop where
  entered : place.Entered top
  entered' : place'.Entered top'
  loc : place'.loc = place.loc
  kind : place'.node.kind = place.node.kind

theorem Beside.lookup (h : Beside top top' place place') (name : Name) :
    place'.node.entries.lookup name = top'.at? (place.loc ++ [name]) := by
  rw [h.entered'.lookup, h.loc]

theorem Beside.up (h : Beside top top' place place') : Beside top top' place.up place'.up := by
  refine ⟨h.entered.up, h.entered'.up, by rw [h.entered'.loc_up, h.entered.loc_up, h.loc], ?_⟩
  cases hplace : h.entered with
  | top =>
    have hloc : place'.loc = [] := h.loc
    cases h.entered' with
    | top => exact h.kind
    | enter _ _ =>
      rw [loc_enter] at hloc
      simp at hloc
  | enter hupper hnode =>
    have hloc := h.loc
    cases h.entered' with
    | top =>
      rw [loc_enter] at hloc
      simp [Place.loc] at hloc
    | enter _ hnode' =>
      exact (Node.isDir_iff_kind.1 (Node.isDir_of_lookup hnode')).trans
        (Node.isDir_iff_kind.1 (Node.isDir_of_lookup hnode)).symm

theorem Beside.enter {name : Name} {child child' : Node} (h : Beside top top' place place')
    (hchild : place.node.entries.lookup name = some child)
    (hchild' : place'.node.entries.lookup name = some child') (hkind : child'.kind = child.kind) :
    Beside top top' (place.enter name child) (place'.enter name child') :=
  ⟨h.entered.enter hchild, h.entered'.enter hchild', by rw [loc_enter, loc_enter, h.loc], hkind⟩

theorem Beside.linkStart (h : Beside top top' place place') (htop : top'.kind = top.kind) (target : Path) :
    Beside top top' (FileSystem.linkStart target place) (FileSystem.linkStart target place') := by
  unfold FileSystem.linkStart
  split
  · rw [h.entered.top_eq, h.entered'.top_eq]
    exact ⟨.top, .top, rfl, htop⟩
  · exact h

end Place

namespace FileSystem
open Place
variable {last : LastName} {links : Nat} {place : Place} {name : Name} {rest : List PathStep}

/-- What becomes of a link on the way, if so many may still be followed. -/
def throughLink (last : LastName) : Nat → Place → Path → List PathStep → Except IoError Landing
  | 0, _, _, _ => .error .tooManyLinks
  | links + 1, place, target, rest =>
    match target.steps with
    | .error e => .error e
    | .ok steps => descendThrough last links (linkStart target place) (steps ++ rest)

theorem descendThrough_eq (last : LastName) (links : Nat) :
    descendThrough last links = descend last (throughLink last links) := by
  cases links <;> rfl

@[simp] theorem descendThrough_nil :
    descendThrough last links place [] = .ok (.found place.loc place.node) := by
  rw [descendThrough_eq]
  rfl

@[simp] theorem descendThrough_here :
    descendThrough last links place (.here :: rest) = descendThrough last links place rest := by
  rw [descendThrough_eq]
  rfl

@[simp] theorem descendThrough_slash :
    descendThrough last links place (.slash :: rest) = descendThrough last links place rest := by
  rw [descendThrough_eq]
  rfl

@[simp] theorem descendThrough_up :
    descendThrough last links place (.up :: rest) = descendThrough last links place.up rest := by
  rw [descendThrough_eq]
  rfl

theorem descendThrough_tooLong : descendThrough last links place (.tooLong :: rest) =
    .error (if last = .make ∧ rest = [.slash] then .isDirectory else .nameTooLong) := by
  rw [descendThrough_eq]
  rfl

/-- A file is not made at a name with a slash after it; else what stands under the name counts. -/
theorem descendThrough_into : descendThrough last links place (.into name :: rest) =
    if last = .make ∧ rest = [.slash] then .error .isDirectory
    else match place.node.entries.lookup name with
      | none => if rest.isEmpty then .ok (.missing place.loc name) else .error .noEntry
      | some (.link target) =>
        if last = .keep ∧ rest = [] then .ok (.found (place.loc ++ [name]) (.link target))
        else throughLink last links place target rest
      | some (.dir entries) => descendThrough last links (place.enter name (.dir entries)) rest
      | some node =>
        if rest.isEmpty then .ok (.found (place.loc ++ [name]) node) else .error .notDirectory := by
  rw [descendThrough_eq]
  rfl

/-- Induction on the steps that are taken, the steps of links with them. -/
theorem stepInduction {P : Nat → Place → List PathStep → Prop}
    (nil : ∀ links place, P links place [])
    (idle : ∀ links place step rest, step = .here ∨ step = .slash → P links place rest →
      P links place (step :: rest))
    (up : ∀ links place rest, P links place.up rest → P links place (.up :: rest))
    (tooLong : ∀ links place rest, P links place (.tooLong :: rest))
    (missing : ∀ links place name rest, place.node.entries.lookup name = none →
      P links place (.into name :: rest))
    (link : ∀ links place name rest target, place.node.entries.lookup name = some (.link target) →
      (∀ fewer steps, links = fewer + 1 → target.steps = .ok steps →
        P fewer (linkStart target place) (steps ++ rest)) → P links place (.into name :: rest))
    (dir : ∀ links place name rest entries, place.node.entries.lookup name = some (.dir entries) →
      P links (place.enter name (.dir entries)) rest → P links place (.into name :: rest))
    (other : ∀ links place name rest node, place.node.entries.lookup name = some node →
      node.isDir = false → (∀ target, node ≠ .link target) → P links place (.into name :: rest))
    (links : Nat) (place : Place) (steps : List PathStep) : P links place steps := by
  induction links using Nat.strongRecOn generalizing place steps with
  | ind links ihLinks =>
    induction steps generalizing place with
    | nil => exact nil links place
    | cons step rest ih =>
      cases step with
      | here => exact idle links place .here rest (.inl rfl) (ih place)
      | slash => exact idle links place .slash rest (.inr rfl) (ih place)
      | up => exact up links place rest (ih place.up)
      | tooLong => exact tooLong links place rest
      | into name =>
        cases hnode : place.node.entries.lookup name with
        | none => exact missing links place name rest hnode
        | some node =>
          cases node with
          | dir entries => exact dir links place name rest entries hnode (ih _)
          | link target =>
            refine link links place name rest target hnode fun fewer steps hfewer _ => ?_
            exact ihLinks fewer (by omega) _ _
          | _ => exact other links place name rest _ hnode rfl nofun

theorem descendThrough_of_missing (h : place.node.entries.lookup name = none) :
    descendThrough last links place (.into name :: rest) =
      if last = .make ∧ rest = [.slash] then .error .isDirectory
      else if rest.isEmpty then .ok (.missing place.loc name) else .error .noEntry := by
  rw [descendThrough_into, h]

theorem descendThrough_of_link {target : Path} (h : place.node.entries.lookup name = some (.link target)) :
    descendThrough last links place (.into name :: rest) =
      if last = .make ∧ rest = [.slash] then .error .isDirectory
      else if last = .keep ∧ rest = [] then .ok (.found (place.loc ++ [name]) (.link target))
      else throughLink last links place target rest := by
  rw [descendThrough_into, h]

theorem descendThrough_of_dir {entries : List (Name × Node)}
    (h : place.node.entries.lookup name = some (.dir entries)) :
    descendThrough last links place (.into name :: rest) =
      if last = .make ∧ rest = [.slash] then .error .isDirectory
      else descendThrough last links (place.enter name (.dir entries)) rest := by
  rw [descendThrough_into, h]

theorem descendThrough_of_other {node : Node} (h : place.node.entries.lookup name = some node)
    (hdir : node.isDir = false) (hlink : ∀ target, node ≠ .link target) :
    descendThrough last links place (.into name :: rest) =
      if last = .make ∧ rest = [.slash] then .error .isDirectory
      else if rest.isEmpty then .ok (.found (place.loc ++ [name]) node) else .error .notDirectory := by
  rw [descendThrough_into, h]
  cases node with
  | dir entries => cases hdir
  | link target => exact absurd rfl (hlink target)
  | _ => rfl

/-- A link is gone through only by its own steps. -/
theorem throughLink_eq_ok {target : Path} {landing : Landing}
    (h : throughLink last links place target rest = .ok landing) : ∃ fewer steps, links = fewer + 1 ∧
      target.steps = .ok steps ∧
      descendThrough last fewer (linkStart target place) (steps ++ rest) = .ok landing := by
  cases links with
  | zero => cases h
  | succ fewer =>
    rw [throughLink] at h
    cases hsteps : target.steps with
    | error e =>
      rw [hsteps] at h
      cases h
    | ok steps =>
      rw [hsteps] at h
      exact ⟨fewer, steps, rfl, rfl, h⟩

theorem throughLink_of_steps {target : Path} {steps : List PathStep} (h : target.steps = .ok steps) :
    throughLink last (links + 1) place target rest =
      descendThrough last links (linkStart target place) (steps ++ rest) := by
  rw [throughLink, h]

/-- Where steps lead, if they lead anywhere: one rule for each thing that a step can come to. -/
inductive Leads (last : LastName) : Nat → Place → List PathStep → Landing → Prop
  | found {links : Nat} {place : Place} : Leads last links place [] (.found place.loc place.node)
  | idle {links : Nat} {place : Place} {step : PathStep} {rest : List PathStep} {landing : Landing}
      (hidle : step = .here ∨ step = .slash) (h : Leads last links place rest landing) :
      Leads last links place (step :: rest) landing
  | up {links : Nat} {place : Place} {rest : List PathStep} {landing : Landing}
      (h : Leads last links place.up rest landing) : Leads last links place (.up :: rest) landing
  | missing {links : Nat} {place : Place} {name : Name} (hnone : place.node.entries.lookup name = none) :
      Leads last links place [.into name] (.missing place.loc name)
  /-- A link at the end can itself be what is meant. -/
  | kept {links : Nat} {place : Place} {name : Name} {target : Path} (hlast : last = .keep)
      (hlink : place.node.entries.lookup name = some (.link target)) :
      Leads last links place [.into name] (.found (place.loc ++ [name]) (.link target))
  | link {links : Nat} {place : Place} {name : Name} {target : Path} {steps rest : List PathStep}
      {landing : Landing} (hmake : ¬ (last = .make ∧ rest = [.slash])) (hkeep : ¬ (last = .keep ∧ rest = []))
      (hlink : place.node.entries.lookup name = some (.link target)) (hsteps : target.steps = .ok steps)
      (h : Leads last links (linkStart target place) (steps ++ rest) landing) :
      Leads last (links + 1) place (.into name :: rest) landing
  | dir {links : Nat} {place : Place} {name : Name} {entries : List (Name × Node)} {rest : List PathStep}
      {landing : Landing} (hmake : ¬ (last = .make ∧ rest = [.slash]))
      (hdir : place.node.entries.lookup name = some (.dir entries))
      (h : Leads last links (place.enter name (.dir entries)) rest landing) :
      Leads last links place (.into name :: rest) landing
  | other {links : Nat} {place : Place} {name : Name} {node : Node}
      (hother : place.node.entries.lookup name = some node) (hdir : node.isDir = false)
      (hlink : ∀ target, node ≠ .link target) :
      Leads last links place [.into name] (.found (place.loc ++ [name]) node)

variable {steps : List PathStep} {landing : Landing}

theorem leads_of_descendThrough (h : descendThrough last links place steps = .ok landing) :
    Leads last links place steps landing := by
  induction links, place, steps using stepInduction with
  | nil links place =>
    rw [descendThrough_nil] at h
    exact Except.ok.inj h ▸ .found
  | idle links place step rest hidle ih =>
    refine .idle hidle (ih ?_)
    rcases hidle with rfl | rfl
    · rwa [descendThrough_here] at h
    · rwa [descendThrough_slash] at h
  | up links place rest ih =>
    rw [descendThrough_up] at h
    exact .up (ih h)
  | tooLong links place rest =>
    rw [descendThrough_tooLong] at h
    cases h
  | missing links place name rest hnone =>
    rw [descendThrough_of_missing hnone] at h
    split at h
    · cases h
    · split at h
      · rename_i hrest
        obtain rfl := List.isEmpty_iff.1 hrest
        exact Except.ok.inj h ▸ .missing hnone
      · cases h
  | link links place name rest target hlink ih =>
    rw [descendThrough_of_link hlink] at h
    split at h
    · cases h
    · rename_i hmake
      split at h
      · rename_i hend
        obtain ⟨hlast, rfl⟩ := hend
        exact Except.ok.inj h ▸ .kept hlast hlink
      · rename_i hkeep
        obtain ⟨fewer, steps, rfl, hsteps, hrest⟩ := throughLink_eq_ok h
        exact .link hmake hkeep hlink hsteps (ih fewer steps rfl hsteps hrest)
  | dir links place name rest entries hdir ih =>
    rw [descendThrough_of_dir hdir] at h
    split at h
    · cases h
    · rename_i hmake
      exact .dir hmake hdir (ih h)
  | other links place name rest node hother hdir hlink =>
    rw [descendThrough_of_other hother hdir hlink] at h
    split at h
    · cases h
    · split at h
      · rename_i hrest
        obtain rfl := List.isEmpty_iff.1 hrest
        exact Except.ok.inj h ▸ .other hother hdir hlink
      · cases h

theorem Leads.descendThrough_eq (h : Leads last links place steps landing) :
    descendThrough last links place steps = .ok landing := by
  induction h with
  | found => rw [descendThrough_nil]
  | idle hidle h ih =>
    rcases hidle with rfl | rfl
    · rw [descendThrough_here, ih]
    · rw [descendThrough_slash, ih]
  | up h ih => rw [descendThrough_up, ih]
  | missing hnone => rw [descendThrough_of_missing hnone, if_neg (by simp), if_pos List.isEmpty_nil]
  | kept hlast hlink => rw [descendThrough_of_link hlink, if_neg (by simp), if_pos ⟨hlast, rfl⟩]
  | link hmake hkeep hlink hsteps h ih =>
    rw [descendThrough_of_link hlink, if_neg hmake, if_neg hkeep, throughLink_of_steps hsteps, ih]
  | dir hmake hdir h ih => rw [descendThrough_of_dir hdir, if_neg hmake, ih]
  | other hother hdir hlink =>
    rw [descendThrough_of_other hother hdir hlink, if_neg (by simp), if_pos List.isEmpty_nil]

/-- The rules say all of where steps lead. -/
theorem leads_iff : Leads last links place steps landing ↔ descendThrough last links place steps = .ok landing :=
  ⟨Leads.descendThrough_eq, leads_of_descendThrough⟩

theorem Leads.ne_removed (h : Leads last links place steps landing) : landing ≠ .removed := by
  induction h with
  | found | missing | kept | other => nofun
  | idle _ _ ih | up _ ih | link _ _ _ _ _ ih | dir _ _ _ ih => exact ih

/-- A last name leads to what stands under it, if that is no link. -/
theorem Leads.single {name : Name} {node : Node} (h : place.node.entries.lookup name = some node)
    (hlink : ∀ target, node ≠ .link target) :
    Leads last links place [.into name] (.found (place.loc ++ [name]) node) := by
  cases hnode : node.isDir with
  | false => exact .other h hnode hlink
  | true =>
    cases node with
    | dir entries =>
      have hinside : Leads last links (place.enter name (.dir entries)) [] _ := .found
      rw [loc_enter] at hinside
      exact .dir (by simp) h hinside
    | _ => cases hnode

/-- Where a path leads without a link being meant itself, it leads too when links are followed. -/
theorem descendThrough_follow (h : descendThrough last links place steps = .ok landing)
    (hkeep : last = .keep → ∀ loc node, landing ≠ .found loc node) :
    descendThrough .follow links place steps = .ok landing := by
  rw [← leads_iff] at h ⊢
  induction h with
  | found => exact .found
  | idle hidle h ih => exact .idle hidle (ih hkeep)
  | up h ih => exact .up (ih hkeep)
  | missing hnone => exact .missing hnone
  | kept hlast hlink => exact absurd rfl (hkeep hlast _ _)
  | link hmake _ hlink hsteps h ih => exact .link (by simp) (by simp) hlink hsteps (ih hkeep)
  | dir hmake hdir h ih => exact .dir (by simp) hdir (ih hkeep)
  | other hother hdir hlink => exact .other hother hdir hlink

/-- What a path leads to is found also if a link at its end is meant itself, as that link or as it is. -/
theorem exists_keep_of_follow {loc : Location} {node : Node}
    (h : descendThrough .follow links place steps = .ok (.found loc node)) :
    ∃ loc' node', descendThrough .keep links place steps = .ok (.found loc' node') := by
  simp only [← leads_iff] at h ⊢
  generalize hlanding : Landing.found loc node = landing at h
  induction h with
  | found => exact ⟨_, _, .found⟩
  | idle hidle h ih =>
    obtain ⟨loc', node', hkeep⟩ := ih hlanding
    exact ⟨loc', node', .idle hidle hkeep⟩
  | up h ih =>
    obtain ⟨loc', node', hkeep⟩ := ih hlanding
    exact ⟨loc', node', .up hkeep⟩
  | missing hnone => cases hlanding
  | kept hlast hlink => cases hlast
  | @link links place name target steps rest landing hmake _ hlink hsteps h ih =>
    by_cases hend : rest = []
    · subst hend
      exact ⟨_, _, .kept rfl hlink⟩
    · obtain ⟨loc', node', hkeep⟩ := ih hlanding
      exact ⟨loc', node', .link (by simp) (fun hlast => hend hlast.2) hlink hsteps hkeep⟩
  | dir hmake hdir h ih =>
    obtain ⟨loc', node', hkeep⟩ := ih hlanding
    exact ⟨loc', node', .dir (by simp) hdir hkeep⟩
  | other hother hdir hlink => exact ⟨_, _, .other hother hdir hlink⟩

variable {top : Node}

theorem Entered.linkStart (h : place.Entered top) (target : Path) :
    (FileSystem.linkStart target place).Entered top := by
  unfold FileSystem.linkStart
  split
  · exact h.top_eq ▸ .top
  · exact h

theorem isDir_linkStart (h : place.Entered top) (htop : top.isDir) (hdir : place.node.isDir)
    (target : Path) : (linkStart target place).node.isDir := by
  unfold linkStart
  split
  · rw [h.top_eq]
    exact htop
  · exact hdir

/-- Where one path is followed and then another, the second starts at the place that the first leads to,
with what links are left; else the first leads to no directory, and the two lead nowhere. -/
theorem descendThrough_append (hplace : place.Entered top) (htop : top.isDir) {more : List PathStep}
    (hmore : more ≠ []) :
    (∃ fewer lower, lower.Entered top ∧ (place.node.isDir → lower.node.isDir) ∧
      descendThrough .follow links place steps = .ok (.found lower.loc lower.node) ∧
      descendThrough .follow links place (steps ++ more) = descendThrough .follow fewer lower more) ∨
    ((∀ landing, descendThrough .follow links place (steps ++ more) ≠ .ok landing) ∧
      ∀ loc node, descendThrough .follow links place steps = .ok (.found loc node) →
        node.isDir = false) := by
  induction links, place, steps using stepInduction with
  | nil links place => exact .inl ⟨links, place, hplace, id, descendThrough_nil, rfl⟩
  | idle links place step rest hidle ih =>
    rcases hidle with rfl | rfl
    · rw [List.cons_append, descendThrough_here, descendThrough_here]
      exact ih hplace
    · rw [List.cons_append, descendThrough_slash, descendThrough_slash]
      exact ih hplace
  | up links place rest ih =>
    rw [List.cons_append, descendThrough_up, descendThrough_up]
    exact (ih hplace.up).imp_left fun ⟨fewer, lower, hlower, hdir, h⟩ =>
      ⟨fewer, lower, hlower, fun _ => hdir (hplace.isDir_up htop), h⟩
  | tooLong links place rest =>
    rw [List.cons_append, descendThrough_tooLong, descendThrough_tooLong]
    exact .inr ⟨nofun, nofun⟩
  | missing links place name rest hnode =>
    have hfurther : descendThrough .follow links place (.into name :: (rest ++ more)) = .error .noEntry := by
      rw [descendThrough_of_missing hnode, if_neg (by simp), if_neg (by simp [hmore])]
    rw [List.cons_append, hfurther, descendThrough_of_missing hnode, if_neg (by simp)]
    refine .inr ⟨nofun, fun loc node h => ?_⟩
    split at h <;> cases h
  | link links place name rest target hnode ih =>
    rw [List.cons_append, descendThrough_of_link hnode, descendThrough_of_link hnode, if_neg (by simp),
      if_neg (by simp), if_neg (by simp), if_neg (by simp)]
    cases links with
    | zero => exact .inr ⟨nofun, nofun⟩
    | succ fewer =>
      cases hsteps : target.steps with
      | error e =>
        simp only [throughLink, hsteps]
        exact .inr ⟨nofun, nofun⟩
      | ok steps =>
        rw [throughLink_of_steps hsteps, throughLink_of_steps hsteps, ← List.append_assoc]
        have hdir := isDir_linkStart hplace htop (Node.isDir_of_lookup hnode) target
        exact (ih fewer steps rfl hsteps (Entered.linkStart hplace target)).imp_left
          fun ⟨fewer, lower, hlower, hlowerDir, h⟩ => ⟨fewer, lower, hlower, fun _ => hlowerDir hdir, h⟩
  | dir links place name rest entries hnode ih =>
    rw [List.cons_append, descendThrough_of_dir hnode, descendThrough_of_dir hnode, if_neg (by simp),
      if_neg (by simp)]
    exact (ih (hplace.enter hnode)).imp_left fun ⟨fewer, lower, hlower, hdir, h⟩ =>
      ⟨fewer, lower, hlower, fun _ => hdir rfl, h⟩
  | other links place name rest node hnode hdir hlink =>
    have hfurther :
        descendThrough .follow links place (.into name :: (rest ++ more)) = .error .notDirectory := by
      rw [descendThrough_of_other hnode hdir hlink, if_neg (by simp), if_neg (by simp [hmore])]
    rw [List.cons_append, hfurther, descendThrough_of_other hnode hdir hlink, if_neg (by simp)]
    refine .inr ⟨nofun, fun loc found h => ?_⟩
    split at h
    · obtain ⟨-, rfl⟩ := Landing.found.inj (Except.ok.inj h)
      exact hdir
    · cases h

/-- Only a directory is found by a path with a slash after it. -/
theorem isDir_of_slash (hplace : place.Entered top) (htop : top.isDir) (hdir : place.node.isDir)
    {loc : Location} {node : Node}
    (h : descendThrough .follow links place (steps ++ [.slash]) = .ok (.found loc node)) : node.isDir := by
  rcases descendThrough_append hplace htop (List.cons_ne_nil PathStep.slash []) with
    ⟨fewer, lower, -, hlower, -, hrest⟩ | ⟨hnone, -⟩
  · rw [h, descendThrough_slash, descendThrough_nil] at hrest
    obtain ⟨-, rfl⟩ := Landing.found.inj (Except.ok.inj hrest)
    exact hlower hdir
  · exact absurd h (hnone _)

/-- What is no directory is found also where a file is to be made. -/
theorem descendThrough_make (hplace : place.Entered top) (htop : top.isDir) {loc : Location} {node : Node}
    (h : descendThrough .follow links place steps = .ok (.found loc node)) (hnode : node.isDir = false) :
    descendThrough .make links place steps = .ok (.found loc node) := by
  -- a slash at the end would have led to a directory
  have hslash {links : Nat} {place : Place} {name : Name} {rest : List PathStep} {child : Node}
      (hplace : place.Entered top) (hchild : place.node.entries.lookup name = some child)
      (h : descendThrough .follow links place (.into name :: rest) = .ok (.found loc node)) :
      ¬ (LastName.make = .make ∧ rest = [.slash]) := by
    rintro ⟨-, rfl⟩
    have hslashed : descendThrough .follow links place ([.into name] ++ [.slash]) = .ok (.found loc node) := h
    have hdir := isDir_of_slash hplace htop (Node.isDir_of_lookup hchild) hslashed
    rw [hnode] at hdir
    cases hdir
  replace h := leads_of_descendThrough h
  rw [← leads_iff]
  generalize hlanding : Landing.found loc node = landing at h
  induction h with
  | found => exact .found
  | idle hidle h ih => exact .idle hidle (ih hplace hlanding)
  | up h ih => exact .up (ih hplace.up hlanding)
  | missing hnone => cases hlanding
  | kept hlast hlink => cases hlast
  | link hmake hkeep hlink hsteps h ih =>
    have hrest := hslash hplace hlink (hlanding ▸ (Leads.link hmake hkeep hlink hsteps h).descendThrough_eq)
    exact .link hrest (by simp) hlink hsteps (ih (Entered.linkStart hplace _) hlanding)
  | dir hmake hdir h ih =>
    have hrest := hslash hplace hdir (hlanding ▸ (Leads.dir hmake hdir h).descendThrough_eq)
    exact .dir hrest hdir (ih (hplace.enter hdir) hlanding)
  | other hother hdir hlink => exact .other hother hdir hlink

/-! Out of directories that were taken away. -/

section
variable {n : Nat} {left : List PathStep} {found : Option (List PathStep)}

@[simp] theorem emerge_zero (last : LastName) (steps : List PathStep) :
    emerge last 0 steps = .ok (some steps) := by
  rw [emerge]

theorem emerge_append (h : emerge last n steps = .ok (some left)) (more : List PathStep) :
    emerge last n (steps ++ more) = .ok (some (left ++ more)) := by
  fun_induction emerge last n steps with
  | case1 => rw [emerge_zero, Option.some.inj (Except.ok.inj h)]
  | case2 => cases h
  | case3 n rest ih | case4 n rest ih | case5 n rest ih => rw [List.cons_append, emerge, ih h]
  | case6 => cases h

/-- The first of some steps lead out, or they leave it to the others. -/
theorem emerge_append_eq_ok {more : List PathStep} (h : emerge last n (steps ++ more) = .ok found) :
    (∃ left, emerge last n steps = .ok (some left) ∧ found = some (left ++ more)) ∨
      emerge last n steps = .ok none ∧ ∃ fewer, emerge last (fewer + 1) more = .ok found := by
  fun_induction emerge last n steps with
  | case1 steps =>
    rw [emerge_zero] at h
    exact .inl ⟨steps, rfl, (Except.ok.inj h).symm⟩
  | case2 n => exact .inr ⟨rfl, n, h⟩
  | case3 n rest ih | case4 n rest ih | case5 n rest ih => exact ih h
  | case6 n step rest hhere hslash hup =>
    cases step with
    | here => exact absurd rfl hhere
    | slash => exact absurd rfl hslash
    | up => exact absurd rfl hup
    | into name | tooLong => cases h

/-- It does not hang on the last name whether steps lead out. -/
theorem emerge_of_last (h : emerge last n steps = .ok found) (other : LastName) :
    emerge other n steps = .ok found := by
  fun_induction emerge last n steps with
  | case1 => rw [emerge_zero, Except.ok.inj h]
  | case2 => rw [emerge, Except.ok.inj h]
  | case3 n rest ih | case4 n rest ih | case5 n rest ih => rw [emerge, ih h]
  | case6 => cases h

theorem emerge_filter (h : emerge last n steps = .ok found) :
    emerge last n (steps.filter (· != .slash)) = .ok (found.map (·.filter (· != .slash))) := by
  fun_induction emerge last n steps with
  | case1 => rw [emerge_zero, ← Except.ok.inj h, Option.map_some]
  | case2 => rw [List.filter_nil, emerge, ← Except.ok.inj h, Option.map_none]
  | case3 n rest ih | case5 n rest ih => rw [List.filter_cons_of_pos rfl, emerge, ih h]
  | case4 n rest ih => rw [List.filter_cons_of_neg (by decide), ih h]
  | case6 => cases h

end

variable {fs : FileSystem} {p : Path} {loc : Location} {node : Node}

theorem kind_top (fs : FileSystem) : fs.top.kind = .dir := Node.isDir_iff_kind.1 fs.isDir_top

structure SameProcess (fs fs' : FileSystem) : Prop where
  cwd : fs'.cwd = fs.cwd
  process : fs'.process = fs.process

theorem SameProcess.depthOf {fs' : FileSystem} (h : SameProcess fs fs') (p : Path) :
    fs'.depthOf p = fs.depthOf p := by
  rw [FileSystem.depthOf, FileSystem.depthOf, h.process]

/-- A path starts at the same location in two file systems if the working directory is there in both. -/
theorem exists_beside {fs' : FileSystem} (hcwd : fs'.cwd = fs.cwd)
    (hkept : p.isAbsolute = false → ∀ node, fs.top.at? fs.cwd = some node →
      (fs'.top.at? fs.cwd).map Node.kind = some node.kind)
    (hstart : fs.startOf? p = some place) :
    ∃ place', fs'.startOf? p = some place' ∧ Beside fs.top fs'.top place place' := by
  unfold startOf? at hstart ⊢
  split
  · rename_i habsolute
    rw [if_pos habsolute] at hstart
    obtain rfl := Option.some.inj hstart
    exact ⟨_, rfl, .top, .top, rfl, by rw [fs'.kind_top, fs.kind_top]⟩
  · rename_i hrelative
    rw [if_neg hrelative] at hstart
    obtain ⟨hdown, hdir⟩ := Option.filter_eq_some_iff.1 hstart
    have hat := down?_eq { node := fs.top } fs.cwd
    have hat' := down?_eq { node := fs'.top } fs'.cwd
    rw [hdown, Option.map_some] at hat
    obtain ⟨node, hnode, hloc⟩ := Option.map_eq_some_iff.1 hat.symm
    obtain ⟨node', hnode', hkind⟩ :=
      Option.map_eq_some_iff.1 (hkept (Bool.eq_false_iff.2 hrelative) node hnode)
    rw [hcwd] at hat' ⊢
    rw [hnode', Option.map_some] at hat'
    obtain ⟨place', hdown', hloc'⟩ := Option.map_eq_some_iff.1 hat'
    have hkinds : place'.node.kind = place.node.kind := by
      rw [← (Prod.mk.inj hloc).2, (Prod.mk.inj hloc').2, hkind]
    refine ⟨place', Option.filter_eq_some_iff.2 ⟨hdown', ?_⟩, Entered.top.down? hdown,
      Entered.top.down? hdown', (Prod.mk.inj hloc').1.trans (Prod.mk.inj hloc).1, hkinds⟩
    rw [Node.isDir_eq_of_kind hkinds]
    exact hdir

theorem follow_of_emerge {left : List PathStep} (hstart : fs.startOf? p = some place)
    (hleft : emerge last (fs.depthOf p) steps = .ok (some left)) :
    fs.follow last p steps = descendThrough last maxLinks place left := by
  rw [follow, hstart]
  simp only [hleft]

theorem follow_eq_removed : fs.follow last p steps = .ok .removed ↔
    (fs.startOf? p).isSome ∧ emerge last (fs.depthOf p) steps = .ok none := by
  rw [follow]
  cases fs.startOf? p with
  | none => simp
  | some place =>
    cases emerge last (fs.depthOf p) steps with
    | error e => simp
    | ok left =>
      cases left with
      | none => simp
      | some left => simpa using fun h => (leads_of_descendThrough h).ne_removed rfl

/-- Where a path leads without a link being meant itself, it leads too when links are followed. -/
theorem follow_follow (h : fs.follow last p steps = .ok landing) (hthere : landing ≠ .removed)
    (hkeep : last = .keep → ∀ loc node, landing ≠ .found loc node) : fs.follow .follow p steps = .ok landing := by
  obtain ⟨place, left, hstart, hleft, hdescend⟩ := follow_eq_ok h hthere
  rw [follow_of_emerge hstart (emerge_of_last hleft .follow)]
  exact descendThrough_follow hdescend hkeep

theorem exists_steps_of_land (h : fs.land last p = .ok landing) :
    ∃ steps, p.stepsWithin = .ok steps ∧ fs.follow last p steps = .ok landing := by
  cases hsteps : p.stepsWithin with
  | error e =>
    rw [land, hsteps] at h
    cases h
  | ok steps =>
    rw [land, hsteps] at h
    exact ⟨steps, rfl, h⟩

theorem land_of_follow {steps : List PathStep} (hsteps : p.stepsWithin = .ok steps)
    (h : fs.follow last p steps = .ok landing) : fs.land last p = .ok landing := by
  rw [land, hsteps]
  exact h

theorem resolve_of_follow (hsteps : p.stepsWithin = .ok steps)
    (h : fs.follow .follow p steps = .ok (.found loc node)) : fs.resolve p = .ok (loc, node) := by
  rw [resolve, land_of_follow hsteps h]

theorem isDir_iff : fs.isDir p ↔ fs.land .follow p = .ok .removed ∨
    ∃ loc node, fs.resolve p = .ok (loc, node) ∧ node.isDir := by
  unfold isDir resolve
  cases fs.land .follow p with
  | error e => simp
  | ok landing =>
    cases landing with
    | found loc node =>
      exact ⟨fun h => .inr ⟨loc, node, rfl, h⟩, fun h => by
        rcases h with h | ⟨_, _, heq, h⟩
        · cases h
        · cases heq
          exact h⟩
    | missing dir name => simp
    | removed => simp

end FileSystem
end SourceSnapshot
