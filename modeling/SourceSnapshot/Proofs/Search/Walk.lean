import SourceSnapshot.Proofs.Search.Order

/-! What a search finds where no ignore files are obeyed: the entries that are no directories and are
reached through directories that are not left out, each once. The names that lead to an entry decide
whether it is found; the recursion of the search follows them one by one. -/
namespace SourceSnapshot

namespace FileSystem

/-- Whether all directories at and below `dir`, which has this node, can be listed. -/
def Listable (fs : FileSystem) (dir : Path) (node : Node) : Prop :=
  ∀ names entries, node.at? names = some (.dir entries) → ∃ listed, fs.list (dir.under names) = .ok listed

theorem Listable.entry {fs : FileSystem} {dir : Path} {node child : Node} {name : Name}
    (h : fs.Listable dir node) (hchild : node.entries.lookup name = some child) :
    fs.Listable (dir.entry name) child := by
  intro names entries hentries
  refine h (name :: names) entries ?_
  rw [Node.at?, hchild]
  exact hentries

theorem listable_dir {fs : FileSystem} {dir : Path} {entries listed : List (Name × Node)}
    (hdir : fs.list dir = .ok listed) (h : ∀ entry ∈ entries, fs.Listable (dir.entry entry.1) entry.2) :
    fs.Listable dir (.dir entries) := by
  intro names inner hinner
  cases names with
  | nil => exact ⟨listed, hdir⟩
  | cons name rest =>
    obtain ⟨child, hchild, hrest⟩ := Option.bind_eq_some_iff.1 hinner
    exact h (name, child) (Node.mem_of_lookup hchild) rest inner hrest

theorem listable_of_not_dir {fs : FileSystem} {dir : Path} {node : Node} (h : node.isDir = false) :
    fs.Listable dir node := by
  intro names entries hentries
  cases node with
  | dir _ => cases h
  | _ => cases names <;> cases hentries

end FileSystem

namespace Search

/-- Whether a search is to find what `names` lead to from the directory at `dir`, which has this node
and lies so many levels below the root. -/
structure Finds (s : Search) (dir : Path) (depth : Nat) (node : Node) (names : List Name) : Prop where
  named : names ≠ []
  /-- Before the last name there are only directories, themselves and no links to them, and none that
  is left out. -/
  entered : ∀ front name, front ++ [name] <+: names → front ++ [name] ≠ names →
    (∃ entries, node.at? (front ++ [name]) = some (.dir entries)) ∧
      s.config.isExcludedDir name.display = false
  /-- The last name is that of an entry that is neither a directory nor a link to one. -/
  present : ∃ entry, node.at? names = some entry ∧ entry.isDir = false ∧
    (isLink entry → s.fs.isDir (dir.under names) = false)
  near : ∀ limit, s.config.maxDepth = some limit → depth + names.length ≤ limit.toNat
  kept : ∀ loc, s.skip = some loc → s.fs.canonical? (dir.under names) ≠ some loc

variable {s : Search} {dir : Path} {depth : Nat} {node : Node} {name : Name}

theorem reaches_iff :
    s.reaches depth ↔ ∀ limit, s.config.maxDepth = some limit → depth ≤ limit.toNat := by
  unfold reaches
  cases s.config.maxDepth <;> simp

theorem isSkipped_eq_false_iff {path : Path} :
    s.isSkipped path = false ↔ ∀ loc, s.skip = some loc → s.fs.canonical? path ≠ some loc := by
  unfold isSkipped
  cases s.skip <;> simp

theorem finds_singleton : s.Finds dir depth node [name] ↔ ∃ child, node.entries.lookup name = some child ∧
    child.isDir = false ∧ (isLink child → s.fs.isDir (dir.entry name) = false) ∧
    s.reaches (depth + 1) ∧ s.isSkipped (dir.entry name) = false := by
  have hat : node.at? [name] = node.entries.lookup name := by
    rw [Node.at?]
    cases node.entries.lookup name <;> rfl
  constructor
  · intro h
    obtain ⟨child, hchild, hdir, hlink⟩ := h.present
    exact ⟨child, hat ▸ hchild, hdir, hlink, reaches_iff.2 h.near, isSkipped_eq_false_iff.2 h.kept⟩
  · rintro ⟨child, hchild, hdir, hlink, hreaches, hkept⟩
    refine ⟨List.cons_ne_nil name [], fun front last hprefix hne => ?_,
      ⟨child, hat ▸ hchild, hdir, hlink⟩, reaches_iff.1 hreaches, isSkipped_eq_false_iff.1 hkept⟩
    have heq : front ++ [last] = [name] := hprefix.eq_of_length_le (by simp)
    exact absurd heq hne

/-- More names are found if the first leads into a directory in which the others are. -/
theorem finds_cons {rest : List Name} (hne : rest ≠ []) : s.Finds dir depth node (name :: rest) ↔
    ∃ entries, node.entries.lookup name = some (.dir entries) ∧
      s.config.isExcludedDir name.display = false ∧
      s.Finds (dir.entry name) (depth + 1) (.dir entries) rest := by
  have hlevels : depth + (name :: rest).length = depth + 1 + rest.length := by
    rw [List.length_cons]
    omega
  constructor
  · intro h
    obtain ⟨⟨entries, hentries⟩, hexcluded⟩ := h.entered [] name (by simp) (by simpa using hne.symm)
    obtain ⟨child, hchild, hdir⟩ := Option.bind_eq_some_iff.1 hentries
    obtain rfl := Option.some.inj hdir
    have hat (more : List Name) : node.at? (name :: more) = (Node.dir entries).at? more := by
      rw [Node.at?, hchild, Option.bind_some]
    refine ⟨entries, hchild, hexcluded, hne, fun front last hprefix hlast => ?_, ?_, ?_, h.kept⟩
    · rw [← hat]
      exact h.entered (name :: front) last (List.cons_prefix_cons.2 ⟨rfl, hprefix⟩) (by simpa using hlast)
    · rw [← hat]
      exact h.present
    · rw [← hlevels]
      exact h.near
  · rintro ⟨entries, hchild, hexcluded, h⟩
    have hat (more : List Name) : node.at? (name :: more) = (Node.dir entries).at? more := by
      rw [Node.at?, hchild, Option.bind_some]
    refine ⟨List.cons_ne_nil name rest, fun front last hprefix hlast => ?_, ?_, ?_, h.kept⟩
    · cases front with
      | nil =>
        obtain ⟨rfl, -⟩ := List.cons_prefix_cons.1 hprefix
        exact ⟨⟨entries, hat []⟩, hexcluded⟩
      | cons first front =>
        obtain ⟨rfl, hrest⟩ := List.cons_prefix_cons.1 hprefix
        rw [List.cons_append, hat]
        exact h.entered front last hrest (by simpa using hlast)
    · rw [hat]
      exact h.present
    · rw [hlevels]
      exact h.near

theorem inside_findDir (path : Path) : (s.findDir none depth path name).inside =
    if s.config.isExcludedDir name.display then none
    else if path.isTooLong then none
    else some ⟨none⟩ := by
  simp only [findDir, Option.bind_none, Option.any_none, Bool.false_eq_true, if_false]
  split
  · rfl
  · split <;> rfl

theorem mem_filesIn_findOther {path : Path} {isLink : Bool} {file : FoundFile} :
    file ∈ filesIn (s.findOther none path isLink) ↔
      (isLink → s.fs.isDir path = false) ∧ s.isSkipped path = false ∧ file = s.found path := by
  rw [filesIn_findOther, Option.bind_none, Option.any_none, Bool.false_or]
  cases isLink <;> cases s.fs.isDir path <;> cases s.isSkipped path <;> simp

private theorem mem_eventsAt_other {path : Path} {child : Node} {file : FoundFile}
    (hchild : child.isDir = false) : .file file ∈ eventsAt s none depth path name child ↔
      (isLink child → s.fs.isDir path = false) ∧ s.isSkipped path = false ∧ file = s.found path := by
  rw [eventsAt_of_not_dir hchild, ← mem_filesIn, mem_filesIn_findOther]

private theorem mem_eventsAt_dir {path : Path} {inner : List (Name × Node)} {file : FoundFile}
    (hshort : path.isTooLong = false) : .file file ∈ eventsAt s none depth path name (.dir inner) ↔
      s.config.isExcludedDir name.display = false ∧
        file ∈ filesIn (eventsInside s none (depth + 1) path inner) := by
  rw [← mem_filesIn, filesIn_eventsAt_dir, inside_findDir, hshort]
  cases s.config.isExcludedDir name.display <;> simp

theorem mem_filesIn_eventsInside (hnode : node.Distinct) (hlist : s.fs.Listable dir node)
    {file : FoundFile} : file ∈ filesIn (eventsInside s none (depth + 1) dir node.entries) ↔
      ∃ names, s.Finds dir depth node names ∧ file = s.found (dir.under names) := by
  induction node using Node.nodeInduction generalizing dir depth with
  | other node hother =>
    have hentries := Node.entries_of_not_dir hother
    rw [mem_filesIn, mem_eventsInside, hentries]
    constructor
    · rintro ⟨-, entry, hentry, -⟩
      cases hentry
    · rintro ⟨names, hfinds, -⟩
      obtain ⟨entry, hat, -⟩ := hfinds.present
      cases names with
      | nil => exact absurd rfl hfinds.named
      | cons name rest =>
        rw [Node.at?, hentries] at hat
        cases hat
  | dir entries ih =>
    -- a directory among the entries is entered, and what is found in it is known by induction
    have hdir (name : Name) (inner : List (Name × Node)) (hentry : (name, Node.dir inner) ∈ entries) :
        .file file ∈ eventsAt s none (depth + 1) (dir.entry name) name (.dir inner) ↔
          s.config.isExcludedDir name.display = false ∧
            ∃ rest, s.Finds (dir.entry name) (depth + 1) (.dir inner) rest ∧
              file = s.found ((dir.entry name).under rest) := by
      have hinner : s.fs.Listable (dir.entry name) (.dir inner) :=
        hlist.entry (Node.lookup_of_mem hnode.1 hentry)
      obtain ⟨listed, hlisted⟩ := hinner [] inner rfl
      have hshort : (dir.entry name).isTooLong = false := FileSystem.not_isTooLong_of_list hlisted
      rw [mem_eventsAt_dir hshort]
      exact and_congr_right fun _ =>
        ih (name, .dir inner) hentry (Node.allDistinct_iff.1 hnode.2 _ hentry) hinner
    rw [mem_filesIn, mem_eventsInside]
    constructor
    · rintro ⟨hreaches, ⟨name, child⟩, hentry, hfile⟩
      have hlookup : entries.lookup name = some child := Node.lookup_of_mem hnode.1 hentry
      cases hkind : child.isDir with
      | false =>
        obtain ⟨hlink, hkept, rfl⟩ := (mem_eventsAt_other hkind).1 hfile
        exact ⟨[name], finds_singleton.2 ⟨child, hlookup, hkind, hlink, hreaches, hkept⟩, rfl⟩
      | true =>
        cases child with
        | dir inner =>
          obtain ⟨hexcluded, rest, hfinds, rfl⟩ := (hdir name inner hentry).1 hfile
          exact ⟨name :: rest, (finds_cons hfinds.named).2 ⟨inner, hlookup, hexcluded, hfinds⟩, rfl⟩
        | _ => cases hkind
    · rintro ⟨names, hfinds, rfl⟩
      cases names with
      | nil => exact absurd rfl hfinds.named
      | cons name rest =>
        have hreaches : s.reaches (depth + 1) := reaches_iff.2 fun limit hlimit => by
          have := hfinds.near limit hlimit
          rw [List.length_cons] at this
          omega
        refine ⟨hreaches, ?_⟩
        by_cases hrest : rest = []
        · subst hrest
          obtain ⟨child, hlookup, hkind, hlink, -, hkept⟩ := finds_singleton.1 hfinds
          exact ⟨(name, child), Node.mem_of_lookup hlookup,
            (mem_eventsAt_other hkind).2 ⟨hlink, hkept, rfl⟩⟩
        · obtain ⟨inner, hlookup, hexcluded, hinner⟩ := (finds_cons hrest).1 hfinds
          have hentry := Node.mem_of_lookup hlookup
          exact ⟨(name, .dir inner), hentry, (hdir name inner hentry).2 ⟨hexcluded, rest, hinner, rfl⟩⟩

/-- The files of a search that obeys no ignore files are those that it is to find below its root. -/
theorem mem_files {loc : Location} (hroot : s.fs.resolve s.root = .ok (loc, node))
    (hname : s.root.components ≠ [.name [0x2D]]) (hignore : s.config.respectGitignore = false)
    (hlist : s.fs.Listable s.root node) {file : FoundFile} :
    file ∈ s.files ↔ ∃ names, s.Finds s.root 0 node names ∧ file = s.fileAt names := by
  have hstandard : isStandardInput s.root = false := beq_eq_false_iff_ne.2 hname
  have hentries : s.rootEntries = node.entries := by rw [rootEntries, hroot]
  have hrules : s.rules = none := by
    rw [rules, hignore]
    rfl
  have hinside : file ∈ filesIn (eventsInside s none (0 + 1) s.root node.entries) ↔
      ∃ names, s.Finds s.root 0 node names ∧ file = s.found (s.root.under names) :=
    mem_filesIn_eventsInside (FileSystem.distinct_of_resolve hroot) hlist
  rw [files_eq hstandard, hentries, hrules, hinside]
  refine exists_congr fun names => and_congr_right fun hfinds => ?_
  rw [found, fileAt, Path.relativeTo_under (FileSystem.bytes_ne_nil_of_resolve hroot) hfinds.named]

/-- A search finds just what it is to find below its root: each entry once, under the path and the
names that lead to it, in the order of those names, byte by byte and name by name. -/
structure Exact (s : Search) (node : Node) : Prop where
  once : ∀ names, s.Finds s.root 0 node names →
    (s.files.map FoundFile.relative).count (.ofNames names) = 1
  absent : ∀ names, ¬ s.Finds s.root 0 node names → .ofNames names ∉ s.files.map FoundFile.relative
  called : ∀ file ∈ s.files, ∃ names, file = ⟨s.root.under names, .ofNames names⟩
  ordered : (s.files.map fun file => file.relative.names).Pairwise (· < ·)

/-- Below a root that leads somewhere and can be read, and that is not called `-` in any spelling, a
search that obeys no ignore files is exact, with any file left out and whatever links there are. -/
theorem exact_of_resolve {fs : FileSystem} {config : Config} {root : Path} {loc : Location} {node : Node}
    (skip : Option Path) (hroot : fs.resolve root = .ok (loc, node))
    (hname : root.components ≠ [.name [0x2D]]) (hignore : config.respectGitignore = false)
    (hlist : fs.Listable root node) :
    Exact { fs, config, root, skip := skip.bind fs.canonical? } node := by
  let s : Search := { fs, config, root, skip := skip.bind fs.canonical? }
  have hmem (file : FoundFile) :
      file ∈ s.files ↔ ∃ names, s.Finds root 0 node names ∧ file = s.fileAt names :=
    mem_files hroot hname hignore hlist
  have hrelative (names : List Name) :
      .ofNames names ∈ s.files.map FoundFile.relative ↔ s.Finds root 0 node names := by
    rw [List.mem_map]
    constructor
    · rintro ⟨file, hfile, hnames⟩
      obtain ⟨others, hfinds, rfl⟩ := (hmem file).1 hfile
      exact Path.ofNames_inj hnames ▸ hfinds
    · exact fun hfinds => ⟨s.fileAt names, (hmem _).2 ⟨names, hfinds, rfl⟩, rfl⟩
  refine ⟨fun names hfinds => ?_, fun names => mt (hrelative names).1, fun file hfile => ?_, ?_⟩
  · rw [(nodup_files _).count, if_pos ((hrelative names).2 hfinds)]
  · obtain ⟨names, -, rfl⟩ := (hmem file).1 hfile
    exact ⟨names, rfl⟩
  · exact List.pairwise_map.2 (pairwise_files _)

/-- A project at `p` with a directory `a`, a file `b`, links to both and one to nothing. -/
def linkedProject : FileSystem where
  top := .dir [(.ofString "p", .dir [
    (.ofString "l", .link (.ofString "a")), (.ofString "b", .file [] false),
    (.ofString "a", .dir [
      (.ofString "c", .file [] false), (.ofString "o", .link (.ofString ".."))]),
    (.ofString "m", .link (.ofString "b")), (.ofString "g", .link (.ofString "z"))])]
  distinct_top := by
    simp only [Node.Distinct, Node.AllDistinct]
    decide

theorem exact_of_resolve_links : ∃ node,
    linkedProject.resolve (.ofString "p") = .ok ([.ofString "p"], node) ∧
    Exact { fs := linkedProject, config := .standard, root := .ofString "p",
            skip := (some (.ofString "p/b") : Option Path).bind linkedProject.canonical? } node := by
  refine ⟨_, rfl, exact_of_resolve (some (.ofString "p/b")) rfl (by decide) rfl ?_⟩
  refine FileSystem.listable_dir rfl fun entry hentry => ?_
  simp only [List.mem_cons, List.not_mem_nil, or_false] at hentry
  rcases hentry with rfl | rfl | rfl | rfl | rfl
  · exact FileSystem.listable_of_not_dir rfl
  · exact FileSystem.listable_of_not_dir rfl
  · refine FileSystem.listable_dir rfl fun entry hentry => ?_
    simp only [List.mem_cons, List.not_mem_nil, or_false] at hentry
    rcases hentry with rfl | rfl
    · exact FileSystem.listable_of_not_dir rfl
    · exact FileSystem.listable_of_not_dir rfl
  · exact FileSystem.listable_of_not_dir rfl
  · exact FileSystem.listable_of_not_dir rfl

/-- A directory called `-` with a file in it. -/
def dashProject : FileSystem where
  top := .dir [(.ofString "-", .dir [(.ofString "a", .file [] false)])]
  distinct_top := by simp [Node.Distinct, Node.AllDistinct]

/-- In a root called `-` nothing is found, though it be spelled with a slash after it, and be a
directory that can be read. -/
theorem not_exact_of_dash : ¬ ∀ (fs : FileSystem) (config : Config) (root : Path) (skip : Option Path)
    (loc : Location) (node : Node), fs.resolve root = .ok (loc, node) → node.isDir → root ≠ .ofString "-" →
    config.respectGitignore = false → fs.Listable root node →
    Exact { fs, config, root, skip := skip.bind fs.canonical? } node := by
  intro h
  have hexact := h dashProject .standard (.ofString "-/") none _ _ rfl rfl (by decide) rfl
    (FileSystem.listable_dir rfl fun entry hentry => by
      simp only [List.mem_cons, List.not_mem_nil, or_false] at hentry
      subst hentry
      exact FileSystem.listable_of_not_dir rfl)
  have honce := hexact.once [.ofString "a"]
    (finds_singleton.2 ⟨.file [] false, rfl, rfl, nofun, rfl, rfl⟩)
  exact absurd honce (by decide)

section
variable {skip : Option Location} {rules : Option Ignore.Stack}

private theorem filesIn_eventsInside_skip {entries : List (Name × Node)} (h : ∀ entry ∈ entries,
      filesIn (eventsAt { s with skip } rules depth (dir.entry entry.1) entry.1 entry.2) =
        (filesIn (eventsAt s rules depth (dir.entry entry.1) entry.1 entry.2)).filter fun file =>
          !isSkipped { s with skip } file.path) :
    filesIn (eventsInside { s with skip } rules depth dir entries) =
      (filesIn (eventsInside s rules depth dir entries)).filter fun file =>
        !isSkipped { s with skip } file.path := by
  have hreaches : reaches { s with skip } depth = s.reaches depth := rfl
  rw [eventsInside_eq, eventsInside_eq, filesIn, filesIn, List.filterMap_flatMap, List.filterMap_flatMap,
    List.filter_flatMap, hreaches, List.flatMap_def, List.flatMap_def]
  congr 1
  refine List.map_congr_left fun entry hentry => ?_
  split
  · exact h entry (mem_sortByName.1 hentry)
  · rfl

private theorem filesIn_eventsAt_skip (hs : s.skip = none) (path : Path) (name : Name) (node : Node) :
    filesIn (eventsAt { s with skip } rules depth path name node) =
      (filesIn (eventsAt s rules depth path name node)).filter fun file =>
        !isSkipped { s with skip } file.path := by
  induction node using Node.nodeInduction generalizing rules depth path name with
  | other node hnode =>
    have hkept : s.isSkipped path = false := by rw [isSkipped, hs]
    rw [eventsAt_of_not_dir hnode, eventsAt_of_not_dir hnode, filesIn_findOther, filesIn_findOther, hkept,
      Bool.or_false]
    cases (rules.bind (·.judge path false)).any (·.ignores) || isLink node && s.fs.isDir path with
    | true => rfl
    | false => cases hskipped : isSkipped { s with skip } path <;> simp [found, hskipped]
  | dir entries ih =>
    have hfind : findDir { s with skip } rules depth path name = s.findDir rules depth path name := rfl
    rw [filesIn_eventsAt_dir, filesIn_eventsAt_dir, hfind]
    cases (s.findDir rules depth path name).inside with
    | none => rfl
    | some inside => exact filesIn_eventsInside_skip fun entry hentry => ih entry hentry _ _

end

/-- To leave out a file takes that file away from what is found, under all its names, and no other. -/
theorem files_skipping (hs : s.skip = none) (path : Path) :
    (s.skipping path).files = s.files.filter fun file => !(s.skipping path).isSkipped file.path := by
  cases hstandard : isStandardInput s.root with
  | true =>
    rw [files_eq_nil hstandard, files_eq_nil (s := s.skipping path) hstandard]
    rfl
  | false =>
    rw [files_eq hstandard, files_eq (s := s.skipping path) hstandard]
    exact filesIn_eventsInside_skip fun entry _ => filesIn_eventsAt_skip hs _ _ _

/-- From a directory with one entry, which leads to no directory, that entry is found. -/
theorem files_singleton {loc : Location} {entry : Node} (hroot : s.fs.resolve s.root = .ok (loc, .dir [(name, entry)]))
    (hentry : entry.isDir = false) (hname : s.root.components ≠ [.name [0x2D]])
    (hignore : s.config.respectGitignore = false) (hreaches : s.reaches 1)
    (hlink : s.fs.isDir (s.root.entry name) = false) (hskip : s.isSkipped (s.root.entry name) = false) :
    s.files = [⟨s.root.entry name, .ofNames [name]⟩] := by
  have hstandard : isStandardInput s.root = false := beq_eq_false_iff_ne.2 hname
  have hrules : s.rules = none := by
    rw [rules, hignore]
    rfl
  have hfound : Path.relativeTo (s.root.entry name) s.root = .ofNames [name] :=
    Path.relativeTo_under (FileSystem.bytes_ne_nil_of_resolve hroot) (List.cons_ne_nil name [])
  have hentries : s.rootEntries = [(name, entry)] := by simp only [rootEntries, hroot, Node.entries]
  rw [files_eq hstandard, eventsInside_eq, hentries, hrules, sortByName, List.mergeSort_singleton,
    List.flatMap_singleton, if_pos hreaches, eventsAt_of_not_dir hentry, filesIn_findOther, found, hfound, hlink, hskip,
    Bool.and_false]
  rfl

end Search
end SourceSnapshot
