import SourceSnapshot.FileSystem.Change
import SourceSnapshot.Proofs.FileSystem.Following

/-! What a tree holds after a change. A node that was set stands at its location, and elsewhere is what was
there; a location without a directory for it takes nothing, and then the whole tree is as it was. A file that
was written has what was written under all its names. -/
namespace SourceSnapshot

namespace Node
variable {name other : Name} {child node : Node} {loc there : Location} {entries : List (Name × Node)}

theorem lookup_cons_eq_ite : ((name, child) :: entries).lookup other =
    if other = name then some child else entries.lookup other := by
  rw [List.lookup_cons]
  by_cases h : other = name
  · simp [h]
  · have hne : (other == name) = false := beq_eq_false_iff_ne.2 h
    simp [hne, h]

theorem lookup_setEntry : (setEntry name child entries).lookup other =
    if other = name then some child else entries.lookup other := by
  induction entries with
  | nil => rw [setEntry, lookup_cons_eq_ite]
  | cons entry rest ih =>
    obtain ⟨first, inner⟩ := entry
    rw [setEntry]
    by_cases hfirst : first = name
    · subst hfirst
      rw [if_pos rfl, lookup_cons_eq_ite, lookup_cons_eq_ite]
      split <;> rfl
    · rw [if_neg hfirst, lookup_cons_eq_ite, lookup_cons_eq_ite, ih]
      by_cases hother : other = first
      · rw [if_pos hother, if_neg (hother ▸ hfirst), if_pos hother]
      · rw [if_neg hother, if_neg hother]

theorem setEntry_of_lookup (h : entries.lookup name = some child) :
    setEntry name child entries = entries := by
  induction entries with
  | nil => cases h
  | cons entry rest ih =>
    obtain ⟨first, inner⟩ := entry
    rw [lookup_cons_eq_ite] at h
    by_cases hfirst : first = name
    · rw [if_pos hfirst.symm] at h
      rw [setEntry, if_pos hfirst, ← hfirst, Option.some.inj h]
    · rw [if_neg (Ne.symm hfirst)] at h
      rw [setEntry, if_neg hfirst, ih h]

/-- A location takes every node, or it takes none. -/
theorem at?_set_or (loc : Location) (node : Node) :
    (∀ child, (set child loc node).at? loc = some child) ∨ ∀ child, set child loc node = node := by
  induction loc generalizing node with
  | nil => exact .inl fun child => rfl
  | cons name rest ih =>
    cases node with
    | dir entries =>
      cases hinner : entries.lookup name with
      | some inner =>
        refine (ih inner).imp (fun h child => ?_) fun h child => ?_
        · simp only [set, hinner, at?, Node.entries, lookup_setEntry, if_true, Option.bind_some]
          exact h child
        · simp only [set, hinner, h child, setEntry_of_lookup hinner]
      | none =>
        cases rest with
        | nil => exact .inl fun child => by simp [set, hinner, at?, Node.entries, lookup_setEntry]
        | cons _ _ => exact .inr fun child => by simp [set, hinner]
    | _ => exact .inr fun child => rfl

/-- A directory takes a node under every name. -/
theorem at?_set_concat {upper : Node} (h : node.at? loc = some upper) (hdir : upper.isDir) (child : Node) :
    (set child (loc ++ [name]) node).at? (loc ++ [name]) = some child := by
  induction loc generalizing node with
  | nil =>
    obtain rfl := Option.some.inj h
    cases node with
    | dir entries => cases hinner : entries.lookup name <;> simp [set, hinner, at?, Node.entries, lookup_setEntry]
    | _ => cases hdir
  | cons first rest ih =>
    cases node with
    | dir entries =>
      obtain ⟨below, hbelow, hrest⟩ := Option.bind_eq_some_iff.1 h
      have hlookup : entries.lookup first = some below := hbelow
      simp only [List.cons_append, set, hlookup, at?, Node.entries, lookup_setEntry, if_true, Option.bind_some]
      exact ih hrest
    | _ => cases h

/-- Nowhere else is another node than before, but that directories above have the new one in them. -/
theorem surface_at?_set (child node : Node) (h : ¬ loc <+: there) :
    ((set child loc node).at? there).map surface = (node.at? there).map surface := by
  induction loc generalizing node there with
  | nil => exact absurd (List.nil_prefix) h
  | cons name rest ih =>
    cases node with
    | dir entries =>
      cases there with
      | nil =>
        cases hinner : entries.lookup name with
        | some inner => simp only [set, hinner, at?, surface, Option.map_some]
        | none => cases rest <;> simp [set, hinner, at?, surface]
      | cons other more =>
        by_cases hother : other = name
        · subst hother
          have hmore : ¬ rest <+: more := fun hrest => h (List.cons_prefix_cons.2 ⟨rfl, hrest⟩)
          cases hinner : entries.lookup other with
          | some inner =>
            simp only [set, hinner, at?, Node.entries, lookup_setEntry, if_true, Option.bind_some]
            exact ih inner hmore
          | none =>
            cases rest with
            | nil => exact absurd List.nil_prefix hmore
            | cons _ _ => simp [set, hinner]
        · cases hinner : entries.lookup name with
          | some inner => simp only [set, hinner, at?, Node.entries, lookup_setEntry, if_neg hother]
          | none => cases rest <;> simp [set, hinner, at?, Node.entries, lookup_setEntry, hother]
    | _ => rfl

section
variable {hit : Location → Bool} {content : Bytes}

theorem lookup_refillEach (entries : List (Name × Node)) : (refillEach hit content entries).lookup name =
    (entries.lookup name).map (refill (fun further => hit (name :: further)) content) := by
  induction entries with
  | nil => rfl
  | cons entry rest ih =>
    obtain ⟨first, inner⟩ := entry
    rw [refillEach, lookup_cons_eq_ite, lookup_cons_eq_ite, ih]
    by_cases hname : name = first
    · rw [if_pos hname, if_pos hname, hname, Option.map_some]
    · rw [if_neg hname, if_neg hname]

/-- At each location stands what stood there, with the content in it where it was hit. -/
theorem at?_refill (node : Node) (loc : Location) : (refill hit content node).at? loc =
    (node.at? loc).map (refill (fun further => hit (loc ++ further)) content) := by
  induction loc generalizing node hit with
  | nil => rfl
  | cons name rest ih =>
    cases node with
    | dir entries =>
      rw [refill, at?, at?, Node.entries, Node.entries, lookup_refillEach]
      cases entries.lookup name with
      | none => rfl
      | some inner => exact ih inner
    | _ => rfl

@[simp] theorem kind_refill (node : Node) : (refill hit content node).kind = node.kind := by
  cases node <;> rfl

theorem surface_refill (hhit : hit [] = false) : (node : Node) → (refill hit content node).surface = node.surface
  | .file old executable => by rw [refill, hhit, if_neg Bool.false_ne_true]
  | .dir _ | .link _ | .device _ | .tool _ => rfl

mutual

/-- The second of two contents counts. -/
theorem refill_refill (hit : Location → Bool) (a b : Bytes) :
    (node : Node) → refill hit b (refill hit a node) = refill hit b node
  | .file old executable => by
    rw [refill, refill, refill]
    split <;> rfl
  | .dir entries => by rw [refill, refill, refill, refillEach_refillEach hit a b entries]
  | .link _ | .device _ | .tool _ => rfl

theorem refillEach_refillEach (hit : Location → Bool) (a b : Bytes) :
    (entries : List (Name × Node)) → refillEach hit b (refillEach hit a entries) = refillEach hit b entries
  | [] => rfl
  | (name, node) :: rest => by
    rw [refillEach, refillEach, refillEach, refill_refill _ a b node, refillEach_refillEach hit a b rest]

end

/-- Nothing changes if each file that is hit has the content already. -/
theorem refill_eq_self (hdistinct : node.Distinct) (h : ∀ loc old executable, hit loc →
    node.at? loc = some (.file old executable) → old = content) : refill hit content node = node := by
  induction node using nodeInduction generalizing hit with
  | dir entries ih =>
    have heach : ∀ rest ⊆ entries, refillEach hit content rest = rest := by
      intro rest hrest
      induction rest with
      | nil => rfl
      | cons entry rest ihRest =>
        obtain ⟨name, inner⟩ := entry
        have hmem : (name, inner) ∈ entries := hrest List.mem_cons_self
        have hlookup : entries.lookup name = some inner := lookup_of_mem hdistinct.1 hmem
        rw [refillEach, ihRest (List.Subset.trans (List.subset_cons_self _ _) hrest),
          ih (name, inner) hmem (allDistinct_iff.1 hdistinct.2 _ hmem)]
        intro loc old executable hhit hat
        refine h (name :: loc) old executable hhit ?_
        rw [at?, Node.entries, hlookup]
        exact hat
    rw [refill, heach entries (List.Subset.refl _)]
  | other node hdir =>
    cases node with
    | file old executable =>
      rw [refill]
      split
      · rename_i hhit
        rw [h [] old executable hhit rfl]
      · rfl
    | dir entries => cases hdir
    | _ => rfl

end

theorem at?_of_entries_nil {more : Location} (h : node.entries = []) (hmore : more ≠ []) :
    node.at? more = none := by
  cases more with
  | nil => exact absurd rfl hmore
  | cons name rest => simp [at?, h]

end Node

namespace FileSystem
variable {fs : FileSystem} {loc there : Location} {node : Node} {content : Bytes}

/-- Two file systems are seen by one process, which may do the same in both. -/
structure SameSystem (fs fs' : FileSystem) : Prop extends SameProcess fs fs' where
  refusal : fs'.refusal = fs.refusal
  limit : fs'.limit = fs.limit

theorem SameSystem.refl (fs : FileSystem) : SameSystem fs fs := ⟨⟨rfl, rfl⟩, rfl, rfl⟩

theorem SameSystem.trans {fs' fs'' : FileSystem} (h : SameSystem fs fs') (h' : SameSystem fs' fs'') :
    SameSystem fs fs'' :=
  ⟨⟨h'.cwd.trans h.cwd, h'.process.trans h.process⟩, h'.refusal.trans h.refusal, h'.limit.trans h.limit⟩

theorem eq_of_top {fs' : FileSystem} (h : SameSystem fs fs') (hlinks : fs'.links = fs.links)
    (htop : fs'.top = fs.top) : fs' = fs := by
  obtain ⟨⟨hcwd, hprocess⟩, hrefusal, hlimit⟩ := h
  cases fs
  cases fs'
  cases hcwd
  cases hprocess
  cases hlinks
  cases hrefusal
  cases hlimit
  cases htop
  rfl

/-! Setting a node. -/

theorem top_setAt (hloc : loc ≠ []) (h : node.Distinct) :
    (fs.setAt loc node h).top = Node.set node loc fs.top := by
  rw [setAt, dif_neg hloc]

@[simp] theorem setAt_nil (h : node.Distinct) : fs.setAt [] node h = fs := by
  rw [setAt, dif_pos rfl]

theorem sameSystem_setAt (h : node.Distinct) : SameSystem fs (fs.setAt loc node h) := by
  unfold setAt
  split
  · exact .refl fs
  · exact ⟨⟨rfl, rfl⟩, rfl, rfl⟩

@[simp] theorem links_setAt (h : node.Distinct) : (fs.setAt loc node h).links = fs.links := by
  unfold setAt
  split <;> rfl

theorem setAt_or (fs : FileSystem) (loc : Location) :
    (∀ node h, (fs.setAt loc node h).top.at? loc = some node) ∨ ∀ node h, fs.setAt loc node h = fs := by
  by_cases hloc : loc = []
  · subst hloc
    exact .inr fun node h => setAt_nil h
  · refine (Node.at?_set_or loc fs.top).imp (fun hset node h => ?_) fun hset node h => ?_
    · rw [top_setAt hloc]
      exact hset node
    · refine eq_of_top (sameSystem_setAt h) (links_setAt h) ?_
      rw [top_setAt hloc]
      exact hset node

theorem surface_at?_setAt (h : node.Distinct) (hthere : ¬ loc <+: there) :
    ((fs.setAt loc node h).top.at? there).map Node.surface = (fs.top.at? there).map Node.surface := by
  by_cases hloc : loc = []
  · exact absurd (hloc ▸ List.nil_prefix) hthere
  · rw [top_setAt hloc]
    exact Node.surface_at?_set node fs.top hthere

/-- A node that holds nothing takes the place of nothing, or of one that holds nothing: elsewhere no node is
another. -/
theorem surface_at?_setAt_of_ne (h : node.Distinct) (hnode : node.entries = [])
    (hold : ∀ old, fs.top.at? loc = some old → old.entries = []) (hthere : there ≠ loc) :
    ((fs.setAt loc node h).top.at? there).map Node.surface = (fs.top.at? there).map Node.surface := by
  by_cases hprefix : loc <+: there
  · obtain ⟨more, rfl⟩ := hprefix
    have hmore : more ≠ [] := fun hnil => hthere (by rw [hnil, List.append_nil])
    rcases setAt_or fs loc with hset | hset
    · rw [Node.at?_append, Node.at?_append, hset, Option.bind_some, Node.at?_of_entries_nil hnode hmore]
      cases hat : fs.top.at? loc with
      | none => rfl
      | some old => rw [Option.bind_some, Node.at?_of_entries_nil (hold old hat) hmore]
    · rw [hset]
  · exact surface_at?_setAt h hprefix

/-! Making a file. -/

theorem distinct_file (content : Bytes) (executable : Bool) : (Node.file content executable).Distinct := by
  simp [Node.Distinct]

theorem makeFile_eq (fs : FileSystem) (loc : Location) :
    fs.makeFile loc = (fs.unlink loc).setAt loc (.file [] false) (distinct_file ..) := rfl

theorem sameSystem_makeFile (fs : FileSystem) (loc : Location) : SameSystem fs (fs.makeFile loc) := by
  have hunlink : SameSystem fs (fs.unlink loc) := ⟨⟨rfl, rfl⟩, rfl, rfl⟩
  rw [makeFile_eq]
  exact hunlink.trans (sameSystem_setAt (distinct_file ..))

/-- A file that was made has no other name. -/
theorem isNameOf_makeFile : (fs.makeFile loc).isNameOf loc there = (there == loc) := by
  have hlinks : (fs.makeFile loc).links.any (fun names => names.contains loc && names.contains there) = false := by
    rw [makeFile_eq, links_setAt, unlink]
    simp [List.mem_filter]
  rw [isNameOf, hlinks, Bool.or_false]

/-- What was there has the names that it had. -/
theorem isNameOf_makeFile_of_ne {other : Location} (hthere : there ≠ loc) (hother : other ≠ loc) :
    (fs.makeFile loc).isNameOf there other = fs.isNameOf there other := by
  have hkept {names : List Location} {there : Location} (h : there ≠ loc) :
      (names.filter (· != loc)).contains there = names.contains there := by
    rw [Bool.eq_iff_iff, List.contains_iff_mem, List.contains_iff_mem, List.mem_filter, bne_iff_ne]
    exact and_iff_left h
  rw [isNameOf, isNameOf, makeFile_eq, links_setAt, unlink, List.any_map]
  simp only [Function.comp_def, hkept hthere, hkept hother]

theorem surface_at?_makeFile (hnone : fs.top.at? loc = none) (hthere : there ≠ loc) :
    ((fs.makeFile loc).top.at? there).map Node.surface = (fs.top.at? there).map Node.surface := by
  rw [makeFile_eq]
  change _ = ((fs.unlink loc).top.at? there).map Node.surface
  refine surface_at?_setAt_of_ne (distinct_file ..) rfl (fun old hold => ?_) hthere
  cases hnone.symm.trans hold

/-- A directory takes a file under every name. -/
theorem at?_makeFile {dir : Location} {name : Name} {upper : Node} (hupper : fs.top.at? dir = some upper)
    (hdir : upper.isDir) : (fs.makeFile (dir ++ [name])).top.at? (dir ++ [name]) = some (.file [] false) := by
  rw [makeFile_eq, top_setAt (by simp)]
  exact Node.at?_set_concat hupper hdir _

/-! Writing in a file. -/

@[simp] theorem isNameOf_self (fs : FileSystem) (loc : Location) : fs.isNameOf loc loc := by
  simp [isNameOf]

theorem sameSystem_setContent (fs : FileSystem) (loc : Location) (content : Bytes) :
    SameSystem fs (fs.setContent loc content) := ⟨⟨rfl, rfl⟩, rfl, rfl⟩

theorem at?_top_setContent : (fs.setContent loc content).top.at? there =
    (fs.top.at? there).map (Node.refill (fun further => fs.isNameOf loc (there ++ further)) content) :=
  Node.at?_refill fs.top there

/-- What is written in a file changes the kind of nothing. -/
theorem agreeAt_setContent (fs : FileSystem) (loc : Location) (content : Bytes) (there : Location) :
    ((fs.setContent loc content).top.at? there).map Node.kind = (fs.top.at? there).map Node.kind := by
  rw [at?_top_setContent, Option.map_map]
  exact congrArg ((fs.top.at? there).map ·) (funext Node.kind_refill)

/-- Nothing is another but the file, under its names. -/
theorem surface_at?_setContent (hthere : fs.isNameOf loc there = false) :
    ((fs.setContent loc content).top.at? there).map Node.surface = (fs.top.at? there).map Node.surface := by
  rw [at?_top_setContent, Option.map_map]
  refine congrArg ((fs.top.at? there).map ·) (funext fun node => Node.surface_refill ?_ node)
  rw [List.append_nil]
  exact hthere

/-- Under each of its names the file has what was written, and keeps its mode. -/
theorem at?_setContent {old : Bytes} {executable : Bool} (hname : fs.isNameOf loc there)
    (hfile : fs.top.at? there = some (.file old executable)) :
    (fs.setContent loc content).top.at? there = some (.file content executable) := by
  rw [at?_top_setContent, hfile, Option.map_some, Node.refill, List.append_nil, if_pos hname]

/-- What stands somewhere stays as it is, or is a name of the file and holds what was written. -/
theorem at?_setContent_or (loc : Location) (content : Bytes) (hnode : fs.top.at? there = some node) :
    ((fs.setContent loc content).top.at? there).map Node.surface = some node.surface ∨
      ∃ old executable, node = .file old executable ∧ fs.isNameOf loc there ∧
        (fs.setContent loc content).top.at? there = some (.file content executable) := by
  cases hname : fs.isNameOf loc there with
  | false => exact .inl (by rw [surface_at?_setContent hname, hnode, Option.map_some])
  | true =>
    cases node with
    | file old executable => exact .inr ⟨old, executable, rfl, rfl, at?_setContent hname hnode⟩
    | _ =>
      rw [at?_top_setContent, hnode]
      exact .inl rfl

/-- The second of two contents counts. -/
theorem setContent_setContent (fs : FileSystem) (loc : Location) (a b : Bytes) :
    (fs.setContent loc a).setContent loc b = fs.setContent loc b :=
  eq_of_top ⟨⟨rfl, rfl⟩, rfl, rfl⟩ rfl (Node.refill_refill _ a b fs.top)

theorem setContent_eq_self (h : ∀ there old executable, fs.isNameOf loc there →
    fs.top.at? there = some (.file old executable) → old = content) : fs.setContent loc content = fs :=
  eq_of_top ⟨⟨rfl, rfl⟩, rfl, rfl⟩ rfl (Node.refill_eq_self fs.distinct_top h)

end FileSystem
end SourceSnapshot
