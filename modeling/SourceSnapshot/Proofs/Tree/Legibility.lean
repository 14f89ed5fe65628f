import SourceSnapshot.Proofs.Tree.Drawing

/-! Drawings that are read. A line begins with pieces of four characters each, the last of which is a branch, so
its margin and its name are parted whatever the name looks like; and lines in which nothing follows with the same
margin end where the entries of a directory do. So a drawing settles all of its tree but which of the entries
without children are files, of which it only tells the number. -/
namespace SourceSnapshot.Tree

mutual

/-- The tree with an empty directory in place of every file. -/
def outline : Tree → Tree
  | file name => dir name []
  | dir name children => dir name (outlineAll children)

def outlineAll : List Tree → List Tree
  | [] => []
  | tree :: rest => tree.outline :: outlineAll rest

end

def NamesOneLine (tree : Tree) : Prop := ∀ place node, tree.at? place = some node → '\n' ∉ node.name.toList

variable {tree : Tree} {trees : List Tree}

theorem outlineAll_eq_map (trees : List Tree) : outlineAll trees = trees.map outline := by
  induction trees with
  | nil => rfl
  | cons tree rest ih => rw [outlineAll, ih, List.map_cons]

theorem outline_eq (tree : Tree) : tree.outline = dir tree.name (tree.children.map outline) := by
  cases tree with
  | file name => rfl
  | dir name children =>
    rw [outline, outlineAll_eq_map]
    rfl

@[simp] theorem name_outline (tree : Tree) : tree.outline.name = tree.name := by
  rw [outline_eq]
  rfl

@[simp] theorem children_outline (tree : Tree) : tree.outline.children = tree.children.map outline := by
  rw [outline_eq]
  rfl

/-- Neither the places of a tree nor the names there are lost in its outline. -/
theorem at?_outline (tree : Tree) (place : List Nat) : tree.outline.at? place = (tree.at? place).map outline := by
  induction place generalizing tree with
  | nil => rfl
  | cons i place ih =>
    rw [at?, at?, children_outline, List.getElem?_map]
    cases tree.children[i]? with
    | none => rfl
    | some child => exact ih child

theorem NamesOneLine.notMem_name (h : tree.NamesOneLine) : '\n' ∉ tree.name.toList := h [] tree rfl

theorem NamesOneLine.children (h : tree.NamesOneLine) : ∀ child ∈ tree.children, child.NamesOneLine := by
  intro child hchild place node hnode
  obtain ⟨i, hi⟩ := List.mem_iff_getElem?.1 hchild
  exact h (i :: place) node (by rw [at?_cons hi, hnode])

theorem namesOneLine_file {name : String} (h : '\n' ∉ name.toList) : (file name).NamesOneLine := by
  intro place node hnode
  cases place with
  | nil =>
    obtain rfl := Option.some.inj hnode
    exact h
  | cons i place => cases hnode

theorem namesOneLine_dir {name : String} {children : List Tree} (h : '\n' ∉ name.toList)
    (hchildren : ∀ child ∈ children, child.NamesOneLine) : (dir name children).NamesOneLine := by
  intro place node hnode
  cases place with
  | nil =>
    obtain rfl := Option.some.inj hnode
    exact h
  | cons i place =>
    obtain ⟨child, hchild, hbelow⟩ := Option.bind_eq_some_iff.1 hnode
    exact hchildren child (List.mem_of_getElem? hchild) place node hbelow

/-- Induction on trees that stand beside each other, down to their children and on to their siblings. -/
theorem siblingInduction {P : List Tree → Prop} (nil : P [])
    (cons : ∀ tree rest, P tree.children → P rest → P (tree :: rest)) (trees : List Tree) : P trees := by
  have hall (trees : List Tree) (h : ∀ tree ∈ trees, P tree.children) : P trees := by
    induction trees with
    | nil => exact nil
    | cons tree rest ih =>
      exact cons tree rest (h tree List.mem_cons_self) (ih fun other hother => h other (List.mem_cons_of_mem _ hother))
  have hchildren (tree : Tree) : P tree.children := by
    induction tree using treeInduction with
    | h tree ih => exact hall tree.children ih
  exact hall trees fun tree _ => hchildren tree

/-- Drawings do not tell files from empty directories. -/
theorem drawAll_outline (trees : List Tree) (margin : String) :
    drawAll margin (trees.map outline) = drawAll margin trees := by
  induction trees using siblingInduction generalizing margin with
  | nil => rfl
  | cons tree rest ihchildren ih =>
    rw [List.map_cons, drawAll, drawAll, draw_eq, draw_eq, name_outline, children_outline, ihchildren, ih]
    cases rest <;> rfl

/-- Texts of one length in front of equal texts are equal. -/
theorem append_inj_of_length {s s' t t' : String} (hlength : s.toList.length = s'.toList.length)
    (h : s ++ t = s' ++ t') : s = s' ∧ t = t' := by
  have hlists := congrArg String.toList h
  rw [String.toList_append, String.toList_append] at hlists
  obtain ⟨hs, ht⟩ := List.append_inj hlists hlength
  exact ⟨String.toList_inj.1 hs, String.toList_inj.1 ht⟩

/-- Texts are parted at the first of a character. -/
theorem append_inj_of_notMem {s s' t t' : String} {c : Char} (hs : c ∉ s.toList) (hs' : c ∉ s'.toList)
    (h : s ++ (String.singleton c ++ t) = s' ++ (String.singleton c ++ t')) : s = s' ∧ t = t' := by
  have hlists := congrArg (fun text : String => (text.toList.takeWhile (· != c), text.toList.dropWhile (· != c))) h
  have hkeep {s : String} (hs : c ∉ s.toList) : ∀ x ∈ s.toList, (x != c) = true := by
    intro x hx
    exact bne_iff_ne.2 fun hxc => hs (hxc ▸ hx)
  have hpart {s t : String} (hs : c ∉ s.toList) :
      (s ++ (String.singleton c ++ t)).toList.takeWhile (· != c) = s.toList ∧
        (s ++ (String.singleton c ++ t)).toList.dropWhile (· != c) = c :: t.toList := by
    simp only [String.toList_append, String.toList_singleton, List.singleton_append]
    rw [List.takeWhile_append_of_pos (hkeep hs), List.dropWhile_append_of_pos (hkeep hs)]
    simp
  simp only [(hpart hs).1, (hpart hs).2, (hpart hs').1, (hpart hs').2, Prod.mk.injEq, List.cons.injEq, true_and]
    at hlists
  exact ⟨String.toList_inj.1 hlists.1, String.toList_inj.1 hlists.2⟩

/-- What stands in a margin for an entry above. -/
def rail (isLast : Bool) : String := if isLast then "    " else "│   "

theorem branch_inj {b b' : Bool} {t t' : String} (h : branch b ++ t = branch b' ++ t') : b = b' ∧ t = t' := by
  have hlength : (branch b).toList.length = (branch b').toList.length := by
    cases b <;> cases b' <;> simp [branch]
  obtain ⟨hbranch, ht⟩ := append_inj_of_length hlength h
  refine ⟨?_, ht⟩
  revert hbranch
  cases b <;> cases b' <;> decide

theorem branch_append_ne (b b' : Bool) (t t' : String) : branch b ++ t ≠ rail b' ++ t' := by
  intro h
  have hlength : (branch b).toList.length = (rail b').toList.length := by
    cases b <;> cases b' <;> simp [branch, rail]
  obtain ⟨hbranch, -⟩ := append_inj_of_length hlength h
  revert hbranch
  cases b <;> cases b' <;> decide

/-- The text does not go on with an entry that has this margin or a longer one. -/
def Ends (margin text : String) : Prop :=
  ∀ b more, text ≠ margin ++ (branch b ++ more) ∧ text ≠ margin ++ (rail b ++ more)

theorem continuation_eq (margin : String) (isLast : Bool) : continuation margin isLast = margin ++ rail isLast := rfl

theorem draw_append (margin : String) (isLast : Bool) (tree : Tree) (text : String) :
    draw margin isLast tree ++ text = margin ++ (branch isLast ++ (tree.name ++ (String.singleton '\n' ++
      (drawAll (continuation margin isLast) tree.children ++ text)))) := by
  have hnewline : String.singleton '\n' = "\n" := rfl
  rw [draw_eq, line, hnewline]
  simp only [String.append_assoc]

/-- After what is drawn below an entry come its siblings or what came after them. -/
theorem Ends.below {margin text : String} (h : Ends margin text) (isLast : Bool) (siblings : List Tree) :
    Ends (continuation margin isLast) (drawAll margin siblings ++ text) := by
  intro b more
  rw [continuation_eq, String.append_assoc, String.append_assoc]
  cases siblings with
  | nil =>
    rw [drawAll, String.empty_append]
    exact ⟨(h isLast _).2, (h isLast _).2⟩
  | cons tree rest =>
    rw [drawAll, String.append_assoc, draw_append]
    constructor
    · intro heq
      exact branch_append_ne _ _ _ _ ((String.append_right_inj margin).1 heq)
    · intro heq
      exact branch_append_ne _ _ _ _ ((String.append_right_inj margin).1 heq)

theorem Ends.ne_drawAll {margin text : String} (h : Ends margin text) (tree : Tree) (rest : List Tree)
    (more : String) : text ≠ drawAll margin (tree :: rest) ++ more := by
  rw [drawAll, String.append_assoc, draw_append]
  exact (h _ _).1

/-- What is drawn of siblings is told from what follows, and settles their outlines. -/
theorem drawAll_inj (trees trees' : List Tree) {margin text text' : String}
    (hnames : ∀ tree ∈ trees, tree.NamesOneLine) (hnames' : ∀ tree ∈ trees', tree.NamesOneLine)
    (hends : Ends margin text) (hends' : Ends margin text')
    (h : drawAll margin trees ++ text = drawAll margin trees' ++ text') :
    trees.map outline = trees'.map outline ∧ text = text' := by
  induction trees using siblingInduction generalizing trees' margin text text' with
  | nil =>
    rw [drawAll, String.empty_append] at h
    cases trees' with
    | nil => exact ⟨rfl, by rwa [drawAll, String.empty_append] at h⟩
    | cons tree rest => exact absurd h (hends.ne_drawAll tree rest text')
  | cons tree rest ihchildren ih =>
    cases trees' with
    | nil =>
      rw [drawAll.eq_1 margin, String.empty_append] at h
      exact absurd h.symm (hends'.ne_drawAll tree rest text)
    | cons tree' rest' =>
      rw [drawAll, drawAll, String.append_assoc, String.append_assoc, draw_append, draw_append] at h
      obtain ⟨hlast, hline⟩ := branch_inj ((String.append_right_inj margin).1 h)
      have htree := hnames tree List.mem_cons_self
      have htree' := hnames' tree' List.mem_cons_self
      obtain ⟨hname, hbelow⟩ := append_inj_of_notMem htree.notMem_name htree'.notMem_name hline
      rw [← hlast] at hbelow
      obtain ⟨hchildren, hsiblings⟩ := ihchildren tree'.children htree.children htree'.children
        (hends.below rest.isEmpty rest) (hends'.below rest.isEmpty rest') hbelow
      obtain ⟨hrest, htext⟩ := ih rest' (fun other hother => hnames other (List.mem_cons_of_mem _ hother))
        (fun other hother => hnames' other (List.mem_cons_of_mem _ hother)) hends hends' hsiblings
      refine ⟨?_, htext⟩
      rw [List.map_cons, List.map_cons, hrest, outline_eq tree, outline_eq tree', hname, hchildren]

/-- Different numbers are told apart in front of their nouns. -/
theorem plural_inj {n n' : Nat} {one many more more' : String}
    (h : plural n one many ++ more = plural n' one many ++ more') : n = n' ∧ more = more' := by
  have hblank (n : Nat) : ' ' ∉ (toString n).toList := by
    rw [Nat.toString_eq_repr, Nat.toList_repr]
    intro hmem
    cases Nat.isDigit_of_mem_toDigits (by decide) (by decide) hmem
  have hcut (n : Nat) (more : String) : plural n one many ++ more =
      toString n ++ (String.singleton ' ' ++ ((if n = 1 then one else many) ++ more)) := by
    have hsingleton : String.singleton ' ' = " " := rfl
    rw [plural, hsingleton]
    simp only [String.append_assoc]
  rw [hcut, hcut] at h
  obtain ⟨hdigits, hrest⟩ := append_inj_of_notMem (hblank n) (hblank n') h
  obtain rfl : n = n' := by
    have hread (n : Nat) : Nat.ofDigitChars 10 (toString n).toList 0 = n := by
      rw [Nat.toString_eq_repr, Nat.toList_repr, Nat.ofDigitChars_toDigits (by decide) (by decide)]
    rw [← hread n, hdigits, hread n']
  exact ⟨rfl, (String.append_right_inj _).1 hrest⟩

def trailer (counts : Nat × Nat) : String :=
  String.singleton '\n' ++
    (plural counts.1 "directory" "directories" ++ (", " ++ (plural counts.2 "file" "files" ++ "\n")))

theorem trailer_inj {counts counts' : Nat × Nat} (h : trailer counts = trailer counts') : counts = counts' := by
  obtain ⟨hdirs, hrest⟩ := plural_inj ((String.append_right_inj _).1 h)
  obtain ⟨hfiles, -⟩ := plural_inj ((String.append_right_inj _).1 hrest)
  exact Prod.ext hdirs hfiles

theorem ends_trailer (counts : Nat × Nat) : Ends "" (trailer counts) := by
  intro b more
  have hhead {s : String} (hs : s.toList.head? ≠ some '\n') (hne : s.toList ≠ []) :
      trailer counts ≠ "" ++ (s ++ more) := by
    intro h
    have hfirst := congrArg (fun text : String => text.toList.head?) h
    rw [trailer, String.empty_append] at hfirst
    simp only [String.toList_append, String.toList_singleton, List.singleton_append, List.head?_cons,
      List.head?_append_of_ne_nil _ hne] at hfirst
    exact hs hfirst.symm
  constructor
  · apply hhead
    · cases b <;> simp [branch]
    · cases b <;> simp [branch]
  · apply hhead
    · cases b <;> simp [rail]
    · cases b <;> simp [rail]

theorem format_eq (name : String) (children : List Tree) : (dir name children).format =
    name ++ (String.singleton '\n' ++ (drawAll "" children ++ trailer (dir name children).counts)) := by
  have hnewline : String.singleton '\n' = "\n" := rfl
  rw [format, trailer, hnewline]
  simp only [String.append_assoc]

/-- Trees of one line a name are drawn alike just if they have one outline and as many directories and files. -/
theorem format_eq_iff {name name' : String} {children children' : List Tree}
    (hnames : (dir name children).NamesOneLine) (hnames' : (dir name' children').NamesOneLine) :
    ((dir name children).format = (dir name' children').format ↔
      (dir name children).outline = (dir name' children').outline ∧
        (dir name children).counts = (dir name' children').counts) ∧
    ((dir name children).format = (dir name' children').format → ∀ place,
      ((dir name children).at? place).map Tree.name = ((dir name' children').at? place).map Tree.name) := by
  have hiff : (dir name children).format = (dir name' children').format ↔
      (dir name children).outline = (dir name' children').outline ∧
        (dir name children).counts = (dir name' children').counts := by
    constructor
    · intro h
      rw [format_eq, format_eq] at h
      obtain ⟨hname, hrest⟩ := append_inj_of_notMem hnames.notMem_name hnames'.notMem_name h
      obtain ⟨hchildren, hcounts⟩ := drawAll_inj children children' hnames.children hnames'.children
        (ends_trailer _) (ends_trailer _) hrest
      refine ⟨?_, trailer_inj hcounts⟩
      rw [outline_eq, outline_eq]
      exact congrArg₂ dir hname hchildren
    · rintro ⟨houtline, hcounts⟩
      rw [outline_eq, outline_eq] at houtline
      obtain ⟨hname, hchildren⟩ := dir.inj houtline
      have hdrawn : drawAll "" children = drawAll "" children' := by
        rw [← drawAll_outline children, ← drawAll_outline children']
        exact congrArg _ hchildren
      rw [format_eq, format_eq, hcounts, hdrawn]
      exact congrArg (· ++ _) hname
  refine ⟨hiff, ?_⟩
  intro h place
  have hplace := congrArg (fun tree : Tree => (tree.at? place).map Tree.name) (hiff.1 h).1
  simpa [at?_outline, Option.map_map, Function.comp_def] using hplace

/-- A directory with nothing in it and a file may change places, also under names that look like branches. -/
theorem format_eq_iff_swapped :
    (dir "" [dir "├── a" [], file "    b"]).NamesOneLine ∧ (dir "" [file "├── a", dir "    b" []]).NamesOneLine ∧
    (dir "" [dir "├── a" [], file "    b"]).format = (dir "" [file "├── a", dir "    b" []]).format := by
  have hnames : (dir "" [dir "├── a" [], file "    b"]).NamesOneLine := by
    apply namesOneLine_dir (by simp)
    intro child hchild
    rcases List.mem_pair.1 hchild with rfl | rfl
    · exact namesOneLine_dir (by simp) nofun
    · exact namesOneLine_file (by simp)
  have hnames' : (dir "" [file "├── a", dir "    b" []]).NamesOneLine := by
    apply namesOneLine_dir (by simp)
    intro child hchild
    rcases List.mem_pair.1 hchild with rfl | rfl
    · exact namesOneLine_file (by simp)
    · exact namesOneLine_dir (by simp) nofun
  exact ⟨hnames, hnames', (format_eq_iff hnames hnames').1.2 ⟨rfl, rfl⟩⟩

end SourceSnapshot.Tree
