import Mathlib.Data.List.Forall2
import SourceSnapshot.Proofs.Tree.Leaves

/-! The levels of a tree. Above the last level a directory shows all of its entries that are to be seen, each once and in
the order of their names, and at the last level it shows none. So a tree of fewer levels is a deeper one cut off, and
the levels can be counted from the root in a word of the size that the depth is given in. -/
namespace SourceSnapshot.Tree

/-- An entry that is to be seen: its name does not begin with a dot, and it is no directory that is left out. -/
structure IsShown (excluded : NameSet) (entry : Name × Node) : Prop where
  visible : entry.1.bytes.head? ≠ some dot
  kept : entry.2.isDir → entry.1.display ∉ excluded

/-- Whether a tree stands for an entry: a directory has its name and children for which `Below` holds, and anything
else, a link to a directory too, is a file of its name. -/
def StandsFor (Below : List (Name × Node) → List Tree → Prop) (entry : Name × Node) (tree : Tree) : Prop :=
  match entry.2 with
  | .dir inner => ∃ children, tree = dir entry.1.display children ∧ Below inner children
  | _ => tree = file entry.1.display

/-- Whether trees show the entries of a directory, and what is below them, so many levels deep. -/
def Show (excluded : NameSet) : Nat → List (Name × Node) → List Tree → Prop
  | 0, _, trees => trees = []
  | levels + 1, entries, trees => ∃ shown : List (Name × Node),
      (∀ entry, entry ∈ shown ↔ entry ∈ entries ∧ IsShown excluded entry) ∧
      shown.Pairwise (fun a b => a.1.bytes < b.1.bytes) ∧
      List.Forall₂ (StandsFor (Show excluded levels)) shown trees

/-- A tree without all that is more than so many levels below its root. -/
def cut : Nat → Tree → Tree
  | 0, dir name _ => dir name []
  | levels + 1, dir name children => dir name (children.map (cut levels))
  | _, file name => file name

/-- The next level, if its number still fits into a word. -/
def levelBelow? (level : UInt64) : Option UInt64 :=
  if level.toNat + 1 < UInt64.size then some (level + 1) else none

mutual

/-- The tree of an entry of a directory at `level`, from a walk that counts the levels from the root until it comes to
`limit`; nothing if the count does not fit into a word. -/
def countedNode? (excluded : NameSet) (limit level : UInt64) (path : Path) (name : Name) :
    Node → Option (Option Tree)
  | .dir entries =>
    if isHidden name || excluded.contains name.display then some none
    else (levelBelow? level).bind fun below =>
      if limit ≤ below || path.isTooLong then some (some (dir name.display []))
      else (countedEntries? excluded limit below path entries).map fun found =>
        some (dir name.display ((sortByName found).filterMap Prod.snd))
  | _ => some (if isHidden name then none else some (file name.display))

/-- The trees of the entries of the directory at `path`, which is at `level`. -/
def countedEntries? (excluded : NameSet) (limit level : UInt64) (path : Path) :
    List (Name × Node) → Option (List (Name × Option Tree))
  | [] => some []
  | (name, node) :: rest =>
    (countedNode? excluded limit level (path.entry name) name node).bind fun tree =>
      (countedEntries? excluded limit level path rest).map ((name, tree) :: ·)

end

def countedDirectory? (fs : FileSystem) (root : Path) (depth : UInt64) (excluded : NameSet) :
    Option (Except IoError Tree) :=
  if depth ≤ 0 then some (.ok (dir root.display []))
  else match fs.list root with
    | .error e => some (.error e)
    | .ok entries => (countedEntries? excluded depth 0 root entries).map fun found =>
      .ok (dir root.display ((sortByName found).filterMap Prod.snd))

variable {excluded : NameSet} {levels shallower : Nat} {path : Path} {name : Name} {node : Node}
  {entries : List (Name × Node)}

instance (entry : Name × Node) : Decidable (IsShown excluded entry) :=
  decidable_of_iff (entry.1.bytes.head? ≠ some dot ∧ (entry.2.isDir → entry.1.display ∉ excluded))
    ⟨fun h => ⟨h.1, h.2⟩, fun h => ⟨h.visible, h.kept⟩⟩

theorem isShown_dir_iff : IsShown excluded (name, .dir entries) ↔
    (isHidden name || excluded.contains name.display) = false := by
  rw [isHidden, Bool.or_eq_false_iff, beq_eq_false_iff_ne, ← Bool.not_eq_true (excluded.contains _),
    NameSet.contains_iff]
  exact ⟨fun h => ⟨h.visible, h.kept rfl⟩, fun h => ⟨h.1, fun _ => h.2⟩⟩

theorem isShown_other_iff (h : node.isDir = false) : IsShown excluded (name, node) ↔ isHidden name = false := by
  rw [isHidden, beq_eq_false_iff_ne]
  exact ⟨fun hshown => hshown.visible, fun hvisible => ⟨hvisible, fun hdir => by simp [h] at hdir⟩⟩

/-- The trees of what is in the directory at `path`, so many levels deep. -/
def childrenOf (excluded : NameSet) (levels : Nat) (path : Path) (entries : List (Name × Node)) : List Tree :=
  if levels = 0 || path.isTooLong then []
  else (sortByName (ofEntries excluded (levels - 1) path entries)).filterMap Prod.snd

/-- The tree of an entry that is to be seen, with so many levels below it. -/
def ofShown (excluded : NameSet) (levels : Nat) (path : Path) (name : Name) : Node → Tree
  | .dir entries => dir name.display (childrenOf excluded levels path entries)
  | _ => file name.display

theorem ofNode?_eq : ofNode? excluded levels path name node =
    if IsShown excluded (name, node) then some (ofShown excluded levels path name node) else none := by
  cases hkind : node.isDir with
  | false =>
    have hfile : ofShown excluded levels path name node = file name.display := by
      cases node with
      | dir entries => cases hkind
      | _ => rfl
    simp only [ofNode?_of_not_dir hkind, isShown_other_iff hkind, hfile]
    cases isHidden name <;> rfl
  | true =>
    cases node with
    | dir entries =>
      simp only [isShown_dir_iff]
      rw [ofNode?]
      cases isHidden name || excluded.contains name.display <;> rfl
    | _ => cases hkind

theorem childrenOf_zero : childrenOf excluded 0 path entries = [] := rfl

theorem childrenOf_of_isTooLong (hpath : path.isTooLong) : childrenOf excluded levels path entries = [] := by
  rw [childrenOf, hpath, Bool.or_true, if_pos rfl]

theorem childrenOf_succ (hpath : path.isTooLong = false) : childrenOf excluded (levels + 1) path entries =
    ((sortByName entries).filter (IsShown excluded ·)).map fun entry =>
      ofShown excluded levels (path.entry entry.1) entry.1 entry.2 := by
  rw [childrenOf, hpath, if_neg (by simp), ofEntries_inside, List.filterMap_map, ← List.filterMap_eq_map,
    List.filterMap_filter]
  apply List.filterMap_congr
  intro entry _
  simp [ofNode?_eq]

/-- In a directory that can be listed with all below it, the entries to be seen are shown. -/
theorem show_childrenOf {fs : FileSystem} (hlist : fs.Listable path (.dir entries))
    (hdistinct : (Node.dir entries).Distinct) :
    Show excluded levels entries (childrenOf excluded levels path entries) := by
  induction levels generalizing path entries with
  | zero => exact childrenOf_zero
  | succ levels ih =>
    obtain ⟨listed, hlisted⟩ : ∃ listed, fs.list path = .ok listed := hlist [] entries rfl
    rw [childrenOf_succ (FileSystem.not_isTooLong_of_list hlisted)]
    refine ⟨(sortByName entries).filter (IsShown excluded ·), fun entry => ?_, ?_, ?_⟩
    · rw [List.mem_filter, mem_sortByName, decide_eq_true_iff]
    · exact (pairwise_sortByName hdistinct.1).filter _
    · rw [List.forall₂_map_right_iff, List.forall₂_same]
      rintro ⟨name, child⟩ hentry
      have hmem := mem_sortByName.1 (List.mem_of_mem_filter hentry)
      cases child with
      | dir inner =>
        refine ⟨_, rfl, ih ?_ ?_⟩
        · exact hlist.entry (Node.lookup_of_mem hdistinct.1 hmem)
        · exact Node.allDistinct_iff.1 hdistinct.2 _ hmem
      | _ => rfl

@[simp] theorem cut_file (levels : Nat) (name : String) : cut levels (file name) = file name := by
  cases levels <;> rfl

/-- What is shown to fewer levels is what is shown to more of them, cut off. -/
theorem cut_childrenOf (h : shallower ≤ levels) (name : String) :
    cut shallower (dir name (childrenOf excluded levels path entries)) =
      dir name (childrenOf excluded shallower path entries) := by
  induction shallower generalizing levels path entries name with
  | zero => rfl
  | succ shallower ih =>
    cases hpath : path.isTooLong with
    | true =>
      rw [childrenOf_of_isTooLong hpath, childrenOf_of_isTooLong hpath]
      rfl
    | false =>
      obtain ⟨levels, rfl⟩ := Nat.exists_eq_add_of_le' (Nat.le_trans (Nat.le_add_left 1 shallower) h)
      rw [childrenOf_succ hpath, childrenOf_succ hpath, cut, List.map_map]
      congr 1
      apply List.map_congr_left
      rintro ⟨name, child⟩ -
      cases child with
      | dir inner => exact ih (Nat.le_of_succ_le_succ h) name.display
      | _ => exact cut_file shallower name.display

theorem levelBelow?_of_lt {level limit : UInt64} (h : level < limit) : levelBelow? level = some (level + 1) := by
  have hlimit := UInt64.toNat_lt limit
  rw [UInt64.lt_iff_toNat_lt] at h
  rw [levelBelow?, if_pos]
  simp only [UInt64.size]
  omega

theorem countedEntries?_eq {limit level : UInt64} (h : ∀ entry ∈ entries,
      countedNode? excluded limit level (path.entry entry.1) entry.1 entry.2 =
        some (ofNode? excluded levels (path.entry entry.1) entry.1 entry.2)) :
    countedEntries? excluded limit level path entries = some (ofEntries excluded levels path entries) := by
  induction entries with
  | nil => rfl
  | cons entry rest ih =>
    obtain ⟨name, node⟩ := entry
    have hrest := ih fun other hother => h other (List.mem_cons_of_mem (name, node) hother)
    rw [countedEntries?, h (name, node) List.mem_cons_self, hrest]
    rfl

/-- Below the limit no count of the levels fails, and the walk comes to the same. -/
theorem countedNode?_eq {limit level : UInt64} (h : level < limit) :
    countedNode? excluded limit level path name node =
      some (ofNode? excluded (limit.toNat - (level.toNat + 1)) path name node) := by
  induction node using Node.nodeInduction generalizing level path name with
  | other node hother =>
    rw [ofNode?_of_not_dir hother]
    cases node with
    | dir entries => cases hother
    | _ => rfl
  | dir entries ih =>
    have hbelow : (level + 1).toNat = level.toNat + 1 := by
      have hlimit := UInt64.toNat_lt limit
      rw [UInt64.lt_iff_toNat_lt] at h
      rw [UInt64.toNat_add, UInt64.toNat_one, Nat.mod_eq_of_lt (by omega)]
    have hlast : limit ≤ level + 1 ↔ limit.toNat - (level.toNat + 1) = 0 := by
      rw [UInt64.le_iff_toNat_le, hbelow, Nat.sub_eq_zero_iff_le]
    rw [countedNode?, ofNode?, levelBelow?_of_lt h, Option.bind_some]
    split
    · rfl
    · by_cases hmore : limit ≤ level + 1
      · simp [hmore, hlast.1 hmore]
      · have hentries : countedEntries? excluded limit (level + 1) path entries =
            some (ofEntries excluded (limit.toNat - ((level + 1).toNat + 1)) path entries) :=
          countedEntries?_eq fun entry hentry => ih entry hentry (UInt64.not_le.1 hmore)
        rw [hbelow, ← Nat.sub_sub] at hentries
        simp only [hmore, hentries, decide_false, Bool.false_or, Option.map_some, mt hlast.2 hmore]
        split <;> rfl

section
variable {fs : FileSystem} {root : Path} {depth : UInt64}

theorem ofListing_nil : ofListing excluded levels root [] = dir root.display [] := by
  rw [ofListing, ofEntries, sortByName, List.mergeSort_nil]
  rfl

theorem ofDirectory_of_list (h : fs.list root = .ok entries) : ofDirectory fs root depth excluded =
    .ok (dir root.display (childrenOf excluded depth.toNat root entries)) := by
  rw [ofDirectory_eq, h]
  by_cases hzero : depth = 0
  · subst hzero
    rw [if_pos rfl, Except.map, ofListing_nil]
    rfl
  · have hmore : depth.toNat ≠ 0 := fun h => hzero (UInt64.toNat_inj.1 h)
    rw [if_neg hzero, childrenOf, FileSystem.not_isTooLong_of_list h, Bool.or_false, decide_eq_false hmore]
    rfl

theorem ofDirectory_eq_error_iff {e : IoError} :
    ofDirectory fs root depth excluded = .error e ↔ 0 < depth ∧ fs.list root = .error e := by
  rw [ofDirectory_eq, UInt64.pos_iff_ne_zero]
  by_cases hzero : depth = 0
  · simp [hzero, Except.map]
  · cases fs.list root <;> simp [hzero, Except.map]

/-- The count of the levels never leaves its word, whatever the depth, and the walk that counts comes to the tree. -/
theorem countedDirectory?_eq : countedDirectory? fs root depth excluded = some (ofDirectory fs root depth excluded) := by
  rw [countedDirectory?, ofDirectory_eq]
  by_cases hzero : depth = 0
  · subst hzero
    rw [if_pos (UInt64.le_refl 0), if_pos rfl, Except.map, ofListing_nil]
  · have hpos : ¬ depth ≤ 0 := by rwa [UInt64.not_le, UInt64.pos_iff_ne_zero]
    rw [if_neg hpos, if_neg hzero]
    cases fs.list root with
    | error e => rfl
    | ok entries =>
      have hentries : countedEntries? excluded depth 0 root entries =
          some (ofEntries excluded (depth.toNat - 1) root entries) :=
        countedEntries?_eq fun entry _ => countedNode?_eq (UInt64.not_le.1 hpos)
      simp only [hentries]
      rfl

end

/-- A root that can be listed, with all below it, is shown level by level: at each level but the last the directories
have just their entries that are to be seen, each once and in order, and at the last they have none. To fewer levels the
tree is the same, cut off; no depth is too large to count to it; and there is no tree exactly if the root cannot be
listed and levels are asked for. -/
theorem ofDirectory_levels (fs : FileSystem) (root : Path) (depth : UInt64) (excluded : NameSet) :
    (∀ entries, fs.list root = .ok entries →
      (fs.Listable root (.dir entries) → ∃ children,
        ofDirectory fs root depth excluded = .ok (dir root.display children) ∧
          Show excluded depth.toNat entries children) ∧
      ∀ shallower ≤ depth, ofDirectory fs root shallower excluded =
        (ofDirectory fs root depth excluded).map (cut shallower.toNat)) ∧
    countedDirectory? fs root depth excluded = some (ofDirectory fs root depth excluded) ∧
    ((∃ e, ofDirectory fs root depth excluded = .error e) ↔ 0 < depth ∧ ∃ e, fs.list root = .error e) := by
  refine ⟨fun entries hentries => ⟨fun hlist => ?_, fun shallower hshallower => ?_⟩, countedDirectory?_eq, ?_⟩
  · exact ⟨_, ofDirectory_of_list hentries, show_childrenOf hlist (FileSystem.distinct_of_list hentries)⟩
  · rw [ofDirectory_of_list hentries, ofDirectory_of_list hentries, Except.map,
      cut_childrenOf (UInt64.le_iff_toNat_le.1 hshallower)]
  · simp only [ofDirectory_eq_error_iff, exists_and_left]

theorem ofDirectory_levels_shaded : ∃ entries children,
    Search.shadedProject.list (.ofString "p") = .ok entries ∧
    ofDirectory Search.shadedProject (.ofString "p") 2 Config.standard.excludedDirs = .ok (dir "p" children) ∧
    Show Config.standard.excludedDirs 2 entries children ∧
    ofDirectory Search.shadedProject (.ofString "p") 1 Config.standard.excludedDirs =
      (ofDirectory Search.shadedProject (.ofString "p") 2 Config.standard.excludedDirs).map (cut 1) := by
  obtain ⟨hshow, hcut⟩ :=
    (ofDirectory_levels Search.shadedProject (.ofString "p") 2 Config.standard.excludedDirs).1 _ rfl
  obtain ⟨children, htree, hchildren⟩ := hshow <| by
    refine FileSystem.listable_dir rfl fun entry hentry => ?_
    simp only [List.mem_cons, List.not_mem_nil, or_false] at hentry
    rcases hentry with rfl | rfl | rfl
    · exact FileSystem.listable_of_not_dir rfl
    all_goals
      refine FileSystem.listable_dir rfl fun entry hentry => ?_
      simp only [List.mem_cons, List.not_mem_nil, or_false] at hentry
    · subst hentry
      exact FileSystem.listable_of_not_dir rfl
    · rcases hentry with rfl | rfl
      · exact FileSystem.listable_of_not_dir rfl
      · exact FileSystem.listable_of_not_dir rfl
  exact ⟨_, children, rfl, htree, hchildren, hcut 1 (by decide)⟩

end SourceSnapshot.Tree
