import SourceSnapshot.Proofs.Search.Walk
import SourceSnapshot.Proofs.Tree.Shape

/-! The files of a tree, beside those of a search. The two go down the same directories in the same order
and stop at the same depth, though each by a recursion of its own; what the tree leaves out of them is what
is hidden. -/
namespace SourceSnapshot

namespace Tree

mutual

/-- The files of a tree from the first drawn to the last, each as the names that lead down to it. -/
def leaves : Tree → List (List String)
  | file _ => [[]]
  | dir _ children => leavesAmong children

def leavesAmong : List Tree → List (List String)
  | [] => []
  | tree :: rest => tree.leaves.map (tree.name :: ·) ++ leavesAmong rest

end

theorem leavesAmong_append (trees more : List Tree) :
    leavesAmong (trees ++ more) = leavesAmong trees ++ leavesAmong more := by
  induction trees with
  | nil => rfl
  | cons tree trees ih => rw [List.cons_append, leavesAmong, leavesAmong, ih, List.append_assoc]

theorem leavesAmong_filterMap {α : Type} (shown : α → Option Tree) (found : List α) :
    leavesAmong (found.filterMap shown) = found.flatMap fun x => leavesAmong (shown x).toList := by
  induction found with
  | nil => rfl
  | cons x found ih =>
    have hcons : (x :: found).filterMap shown = (shown x).toList ++ found.filterMap shown := by
      rw [List.filterMap_cons]
      cases shown x <;> rfl
    rw [hcons, leavesAmong_append, ih, List.flatMap_cons]

end Tree

namespace FoundFile

/-- Whether a name is hidden that leads to the file from the root. -/
def isHidden (file : FoundFile) : Bool := file.relative.names.any fun name => name.head? == some dot

/-- The names that lead to the file from the root, as they are shown. -/
def shown (file : FoundFile) : List String := file.relative.names.map Utf8.decodeLossy

end FoundFile

namespace FileSystem
variable {fs : FileSystem} {dir : Path} {node : Node}

/-- What can be listed is a directory, or one that was taken away and holds nothing. -/
theorem resolve_or_of_list {entries : List (Name × Node)} (h : fs.list dir = .ok entries) :
    (∃ loc, fs.resolve dir = .ok (loc, .dir entries)) ∨ entries = [] ∧ fs.resolve dir = .error .isDirectory := by
  unfold list at h
  unfold resolve
  split at h
  · cases h
  · cases h
  · rename_i hland
    rw [hland]
    exact .inr ⟨(Except.ok.inj h).symm, rfl⟩
  · rename_i hland
    obtain rfl := Except.ok.inj h
    rw [hland]
    exact .inl ⟨_, rfl⟩
  · cases h

theorem distinct_of_list {entries : List (Name × Node)} (h : fs.list dir = .ok entries) :
    (Node.dir entries).Distinct := by
  rcases resolve_or_of_list h with ⟨loc, hresolve⟩ | ⟨rfl, -⟩
  · exact distinct_of_resolve hresolve
  · simp [Node.Distinct, Node.AllDistinct]

/-- No link at or below `dir`, which has this node, leads to a directory. -/
def NoLinkToDir (fs : FileSystem) (dir : Path) (node : Node) : Prop :=
  ∀ names target, node.at? names = some (.link target) → fs.isDir (dir.under names) = false

theorem NoLinkToDir.entry {entries : List (Name × Node)} (h : fs.NoLinkToDir dir (.dir entries))
    (hnames : (entries.map Prod.fst).Nodup) {entry : Name × Node} (hentry : entry ∈ entries) :
    fs.NoLinkToDir (dir.entry entry.1) entry.2 := by
  intro names target htarget
  apply h (entry.1 :: names) target
  rw [Node.at?, Node.entries, Node.lookup_of_mem hnames hentry]
  exact htarget

theorem noLinkToDir_dir {entries : List (Name × Node)}
    (h : ∀ entry ∈ entries, fs.NoLinkToDir (dir.entry entry.1) entry.2) : fs.NoLinkToDir dir (.dir entries) := by
  intro names target htarget
  cases names with
  | nil => cases htarget
  | cons name rest =>
    obtain ⟨child, hchild, hrest⟩ := Option.bind_eq_some_iff.1 htarget
    exact h (name, child) (Node.mem_of_lookup hchild) rest target hrest

theorem noLinkToDir_of_not_dir (hnode : node.isDir = false) (hdir : Search.isLink node → fs.isDir dir = false) :
    fs.NoLinkToDir dir node := by
  intro names target htarget
  obtain rfl := Node.eq_nil_of_at? hnode htarget
  obtain rfl := Option.some.inj htarget
  exact hdir rfl

theorem noLinkToDir_file {content : Bytes} {executable : Bool} : fs.NoLinkToDir dir (.file content executable) := by
  apply noLinkToDir_of_not_dir rfl
  intro hlink
  cases hlink

theorem NoLinkToDir.isDir_eq_false (h : fs.NoLinkToDir dir node) :
    (Search.isLink node && fs.isDir dir) = false := by
  cases node with
  | link target => exact h [] target rfl
  | _ => rfl

end FileSystem

namespace Search
variable {s : Search} {above : List Name} {name : Name} {limit : UInt64}

theorem isHidden_fileAt (names : List Name) : (s.fileAt names).isHidden = names.any Tree.isHidden := by
  rw [FoundFile.isHidden, fileAt, Path.names_ofNames, List.any_map]
  rfl

theorem shown_fileAt (names : List Name) : (s.fileAt names).shown = names.map Name.display := by
  rw [FoundFile.shown, fileAt, Path.names_ofNames, List.map_map]
  rfl

/-- The files among what was met that are not hidden, as they are shown. -/
def shownIn (events : List Event) : List (List String) :=
  ((filesIn events).filter (!·.isHidden)).map FoundFile.shown

theorem shownIn_flatMap {α : Type} (found : List α) (events : α → List Event) :
    shownIn (found.flatMap events) = found.flatMap fun x => shownIn (events x) := by
  rw [shownIn, filesIn, List.filterMap_flatMap, List.filter_flatMap, List.map_flatMap]
  rfl

theorem shownIn_eventsAt_dir {depth : Nat} {path : Path} {entries : List (Name × Node)} :
    shownIn (eventsAt s none depth path name (.dir entries)) =
      if s.config.isExcludedDir name.display || path.isTooLong then []
      else shownIn (eventsInside s none (depth + 1) path entries) := by
  rw [shownIn, filesIn_eventsAt_dir, inside_findDir]
  cases s.config.isExcludedDir name.display with
  | true => rfl
  | false => cases path.isTooLong <;> rfl

/-- The leaves of the tree of an entry, as they are named from the root. -/
private def leavesAt (s : Search) (limit : UInt64) (above : List Name) (entry : Name × Node) :
    List (List String) :=
  (Tree.leavesAmong (Tree.ofNode? s.config.excludedDirs (limit.toNat - (above.length + 1))
    (s.root.under (above ++ [entry.1])) entry.1 entry.2).toList).map (above.map Name.display ++ ·)

section
variable (hroot : s.root.bytes ≠ []) (hskip : s.skip = none) (hlimit : s.config.maxDepth = some limit)

include hroot in
/-- Nothing is shown of what is found under a hidden name. -/
private theorem shownIn_hidden {depth : Nat} {node : Node} (hname : Tree.isHidden name) :
    shownIn (eventsAt s none depth (s.root.under (above ++ [name])) name node) = [] := by
  have hnone : (filesIn (eventsAt s none depth (s.root.under (above ++ [name])) name node)).filter
      (!·.isHidden) = [] := by
    rw [List.filter_eq_nil_iff]
    intro file hfile
    obtain ⟨below, rfl⟩ := eq_fileAt_of_mem hroot (List.concat_ne_nil name above) hfile
    simp [isHidden_fileAt, hname]
  rw [shownIn, hnone, List.map_nil]

include hlimit in
/-- What is shown of the entries of a directory is known from what is shown of each. -/
private theorem shownIn_eventsInside (above : List Name) (entries : List (Name × Node))
    (h : above.length + 1 ≤ limit.toNat → ∀ entry ∈ entries,
      shownIn (eventsAt s none (above.length + 1) (s.root.under (above ++ [entry.1])) entry.1 entry.2) =
        leavesAt s limit above entry) :
    shownIn (eventsInside s none (above.length + 1) (s.root.under above) entries) =
      if above.length + 1 ≤ limit.toNat then
        (Tree.leavesAmong ((sortByName (Tree.ofEntries s.config.excludedDirs (limit.toNat - (above.length + 1))
          (s.root.under above) entries)).filterMap Prod.snd)).map (above.map Name.display ++ ·)
      else [] := by
  have hreaches : s.reaches (above.length + 1) = decide (above.length + 1 ≤ limit.toNat) := by
    rw [reaches, hlimit]
  rw [eventsInside_eq, shownIn_flatMap, hreaches]
  by_cases hnear : above.length + 1 ≤ limit.toNat
  · rw [if_pos hnear, Tree.ofEntries_inside, Tree.leavesAmong_filterMap, List.map_flatMap, List.flatMap_map,
      List.flatMap_def, List.flatMap_def]
    apply congrArg List.flatten
    apply List.map_congr_left
    intro entry hentry
    rw [decide_eq_true hnear, if_pos rfl, ← Path.under_concat, h hnear entry (mem_sortByName.1 hentry)]
    rfl
  · rw [if_neg hnear, List.flatMap_eq_nil_iff]
    intro entry hentry
    rw [decide_eq_false hnear]
    rfl

include hroot hskip hlimit in
/-- Of what is found at an entry and below it, just the leaves of its tree are shown. -/
private theorem shownIn_eventsAt {child : Node} (habove : above.any Tree.isHidden = false)
    (hdistinct : child.Distinct) (hlinks : s.fs.NoLinkToDir (s.root.under (above ++ [name])) child) :
    shownIn (eventsAt s none (above.length + 1) (s.root.under (above ++ [name])) name child) =
      leavesAt s limit above (name, child) := by
  induction child using Node.nodeInduction generalizing above name with
  | other child hother =>
    rw [leavesAt, Tree.ofNode?_of_not_dir hother]
    cases hname : Tree.isHidden name with
    | true => exact shownIn_hidden hroot hname
    | false =>
      have hkept : s.isSkipped (s.root.under (above ++ [name])) = false := by rw [isSkipped, hskip]
      have hfile : s.found (s.root.under (above ++ [name])) = s.fileAt (above ++ [name]) := by
        rw [found, fileAt, Path.relativeTo_under hroot (List.concat_ne_nil name above)]
      have hfound : filesIn (s.findOther none (s.root.under (above ++ [name])) (isLink child)) =
          [s.fileAt (above ++ [name])] := by
        rw [filesIn_findOther, hlinks.isDir_eq_false, hkept, hfile]
        rfl
      rw [eventsAt_of_not_dir hother, shownIn, hfound]
      simp [isHidden_fileAt, shown_fileAt, habove, hname, Tree.leavesAmong, Tree.leaves, Tree.name]
  | dir entries ih =>
    cases hname : Tree.isHidden name with
    | true =>
      rw [leavesAt, Tree.ofNode?, hname]
      exact shownIn_hidden hroot hname
    | false =>
      have hshown : (above ++ [name]).any Tree.isHidden = false := by simp [habove, hname]
      have hinside := shownIn_eventsInside hlimit (above ++ [name]) entries <| by
        intro hnear entry hentry
        apply ih entry hentry hshown (Node.allDistinct_iff.1 hdistinct.2 entry hentry)
        rw [Path.under_concat]
        exact hlinks.entry hdistinct.1 hentry
      rw [List.length_append, List.length_singleton] at hinside
      have hlevels : limit.toNat - (above.length + 1) - 1 = limit.toNat - (above.length + 1 + 1) := by omega
      have hexcludes : s.config.isExcludedDir name.display = s.config.excludedDirs.contains name.display := rfl
      rw [shownIn_eventsAt_dir, hinside, leavesAt, Tree.ofNode?, hname, Bool.false_or, ← hexcludes, hlevels]
      cases s.config.isExcludedDir name.display with
      | true => rfl
      | false =>
        cases (s.root.under (above ++ [name])).isTooLong with
        | true => simp [Tree.leavesAmong, Tree.leaves]
        | false =>
          by_cases hnear : above.length + 1 + 1 ≤ limit.toNat
          · have hmore : ¬ limit.toNat - (above.length + 1) = 0 := by omega
            simp [hnear, hmore, Tree.leavesAmong, Tree.leaves, Tree.name]
          · have hnone : limit.toNat - (above.length + 1) = 0 := by omega
            simp [hnear, hnone, Tree.leavesAmong, Tree.leaves]

end

/-- From a root that can be listed, and that is not called `-` in any spelling, the tree and a search that
obeys no ignore files see the same: where no link leads to a directory, the leaves of the tree are the files
of a search to the same depth, in the same order, but for those that are hidden. -/
theorem leaves_ofDirectory {fs : FileSystem} {config : Config} {root : Path} {entries : List (Name × Node)}
    {depth : UInt64} (hlist : fs.list root = .ok entries) (hname : root.components ≠ [.name [0x2D]])
    (hlinks : fs.NoLinkToDir root (.dir entries)) (hignore : config.respectGitignore = false)
    (hdepth : config.maxDepth = some depth) :
    ∃ tree, Tree.ofDirectory fs root depth config.excludedDirs = .ok tree ∧
      tree.leaves = ((files { fs, config, root }).filter (!·.isHidden)).map FoundFile.shown := by
  let s : Search := { fs, config, root }
  have hstandard : isStandardInput s.root = false := beq_eq_false_iff_ne.2 hname
  have hentries : s.rootEntries = entries := by
    rcases FileSystem.resolve_or_of_list hlist with ⟨loc, hresolve⟩ | ⟨rfl, hresolve⟩
    · rw [rootEntries, hresolve]
      rfl
    · rw [rootEntries, hresolve]
  have hrules : s.rules = none := by
    rw [rules, hignore]
    rfl
  have hshown : (s.files.filter (!·.isHidden)).map FoundFile.shown =
      shownIn (eventsInside s none 1 (root.under []) entries) := by
    rw [files_eq hstandard, hentries, hrules]
    rfl
  have hinside := shownIn_eventsInside (s := s) hdepth [] entries <| by
    intro hnear entry hentry
    rcases FileSystem.resolve_or_of_list hlist with ⟨loc, hresolve⟩ | ⟨rfl, -⟩
    · have hroot := FileSystem.bytes_ne_nil_of_resolve hresolve
      have hdistinct := FileSystem.distinct_of_resolve hresolve
      apply shownIn_eventsAt hroot rfl hdepth rfl (Node.allDistinct_iff.1 hdistinct.2 entry hentry)
      exact hlinks.entry hdistinct.1 hentry
    · cases hentry
  rw [List.length_nil, Nat.zero_add, List.map_nil] at hinside
  rw [Tree.ofDirectory_eq, hlist, hshown]
  by_cases hzero : depth = 0
  · subst hzero
    rw [if_pos rfl]
    refine ⟨_, rfl, ?_⟩
    rw [hinside, if_neg (by decide), Tree.ofListing, Tree.leaves, Tree.ofEntries, sortByName, List.mergeSort_nil]
    rfl
  · have hnear : 1 ≤ depth.toNat := by
      have hpos := mt UInt64.toNat_inj.1 hzero
      exact Nat.one_le_iff_ne_zero.2 hpos
    rw [if_pos hnear] at hinside
    rw [if_neg hzero]
    refine ⟨_, rfl, ?_⟩
    rw [hinside, Tree.ofListing, Tree.leaves]
    exact (List.map_id' _).symm

/-- A project at `p` with a directory `a` that holds a file and a hidden one, a link `b` to the file in it, and
a directory that is left out. -/
def shadedProject : FileSystem where
  top := .dir [(.ofString "p", .dir [
    (.ofString "b", .link (.ofString "a/c")),
    (.ofString "dist", .dir [(.ofString "f", .file [] false)]),
    (.ofString "a", .dir [
      (.ofString "c", .file [] false), (.ofString ".e", .file [] false)])])]
  distinct_top := by
    simp only [Node.Distinct, Node.AllDistinct]
    decide

theorem leaves_ofDirectory_shaded : ∃ tree,
    Tree.ofDirectory shadedProject (.ofString "p") 2 ({ maxDepth := some 2 } : Config).excludedDirs = .ok tree ∧
    tree.leaves = ((files { fs := shadedProject, config := { maxDepth := some 2 }, root := .ofString "p" }).filter
      (!·.isHidden)).map FoundFile.shown := by
  refine leaves_ofDirectory rfl (by decide) ?_ rfl rfl
  apply FileSystem.noLinkToDir_dir
  intro entry hentry
  simp only [List.mem_cons, List.not_mem_nil, or_false] at hentry
  rcases hentry with rfl | rfl | rfl
  · exact FileSystem.noLinkToDir_of_not_dir rfl fun _ => rfl
  all_goals
    apply FileSystem.noLinkToDir_dir
    intro entry hentry
    simp only [List.mem_cons, List.not_mem_nil, or_false] at hentry
  · subst hentry
    exact FileSystem.noLinkToDir_file
  · rcases hentry with rfl | rfl
    · exact FileSystem.noLinkToDir_file
    · exact FileSystem.noLinkToDir_file

/-- The tree of a root called `-` with a slash after it shows files, though a search finds none there. -/
theorem not_leaves_of_dash : ¬ ∀ (fs : FileSystem) (config : Config) (root : Path)
    (entries : List (Name × Node)) (depth : UInt64), fs.list root = .ok entries → root ≠ .ofString "-" →
    fs.Listable root (.dir entries) → fs.NoLinkToDir root (.dir entries) → config.respectGitignore = false →
    config.maxDepth = some depth → ∃ tree, Tree.ofDirectory fs root depth config.excludedDirs = .ok tree ∧
      tree.leaves = ((files { fs, config, root }).filter (!·.isHidden)).map FoundFile.shown := by
  intro h
  obtain ⟨tree, htree, hleaves⟩ := h dashProject { maxDepth := some 1 } (.ofString "-/") _ 1 rfl (by decide)
    (FileSystem.listable_dir rfl fun entry hentry => by
      simp only [List.mem_cons, List.not_mem_nil, or_false] at hentry
      subst hentry
      exact FileSystem.listable_of_not_dir rfl)
    (FileSystem.noLinkToDir_dir fun entry hentry => by
      simp only [List.mem_cons, List.not_mem_nil, or_false] at hentry
      subst hentry
      exact FileSystem.noLinkToDir_file) rfl rfl
  obtain rfl := Except.ok.inj htree
  have hnone : files { fs := dashProject, config := { maxDepth := some 1 }, root := .ofString "-/" } = [] := rfl
  rw [hnone, Tree.leaves, Tree.ofEntries, Tree.ofEntries, sortByName, List.mergeSort_singleton] at hleaves
  cases hleaves

end Search
end SourceSnapshot
