import SourceSnapshot.Proofs.Tree.Places
import SourceSnapshot.Tree.Drawing

/-! What a drawing shows of a tree. Each entry has a line of its own, and what stands in front of its name is
known from its place: whether it is the last of its siblings, and whether those above it are of theirs. The
margin that is handed down the tree is made of just this. -/
namespace SourceSnapshot.Tree

def nextPlace : List Nat → List Nat
  | [] => []
  | [i] => [i + 1]
  | i :: place => i :: nextPlace place

def isLastAt (tree : Tree) (place : List Nat) : Bool := (tree.at? (nextPlace place)).isNone

/-- The places of the entries above a place, below the root and from the top. -/
def placesAbove (place : List Nat) : List (List Nat) := (List.range' 1 (place.length - 1)).map place.take

def lineAt (tree : Tree) (place : List Nat) : String :=
  String.join ((placesAbove place).map fun above => if tree.isLastAt above then "    " else "│   ") ++
    (if tree.isLastAt place then "└── " else "├── ") ++ ((tree.at? place).map name).getD "" ++ "\n"

def isDirAt (tree : Tree) (place : List Nat) : Bool := (tree.at? place).any isDir

def isFileAt (tree : Tree) (place : List Nat) : Bool := (tree.at? place).any (!·.isDir)

variable {tree child : Tree} {i : Nat} {place : List Nat}

theorem nextPlace_cons (h : place ≠ []) (i : Nat) : nextPlace (i :: place) = i :: nextPlace place := by
  cases place with
  | nil => exact absurd rfl h
  | cons j place => rfl

theorem placesAbove_singleton (i : Nat) : placesAbove [i] = [] := rfl

theorem placesAbove_cons (h : place ≠ []) (i : Nat) :
    placesAbove (i :: place) = [i] :: (placesAbove place).map (i :: ·) := by
  obtain ⟨size, hsize⟩ : ∃ size, place.length = size + 1 :=
    Nat.exists_eq_succ_of_ne_zero (mt List.length_eq_zero_iff.1 h)
  rw [placesAbove, placesAbove, List.length_cons, hsize, Nat.add_sub_cancel, Nat.add_sub_cancel, List.range'_succ,
    List.range'_succ_left, List.map_cons, List.map_map, List.map_map]
  rfl

theorem ne_nil_of_mem_placesAbove {above : List Nat} (h : above ∈ placesAbove place) : above ≠ [] := by
  obtain ⟨size, hsize, rfl⟩ := List.mem_map.1 h
  have hbounds := List.mem_range'_1.1 hsize
  intro hnil
  have hlength := congrArg List.length hnil
  rw [List.length_take, List.length_nil] at hlength
  omega

theorem at?_cons (h : tree.children[i]? = some child) (place : List Nat) :
    tree.at? (i :: place) = child.at? place := by
  rw [at?, h, Option.bind_some]

theorem isLastAt_cons (h : tree.children[i]? = some child) (hplace : place ≠ []) :
    tree.isLastAt (i :: place) = child.isLastAt place := by
  rw [isLastAt, nextPlace_cons hplace, at?_cons h, isLastAt]

/-- Below an entry the lines of a tree are those of the entry's own, behind one more piece of margin. -/
theorem lineAt_cons (h : tree.children[i]? = some child) (hplace : place ≠ []) : tree.lineAt (i :: place) =
    (if tree.isLastAt [i] then "    " else "│   ") ++ child.lineAt place := by
  have hmargin : ((placesAbove place).map (i :: ·)).map (fun above => if tree.isLastAt above then "    " else "│   ") =
      (placesAbove place).map fun above => if child.isLastAt above then "    " else "│   " := by
    rw [List.map_map]
    apply List.map_congr_left
    intro above habove
    rw [Function.comp_apply, isLastAt_cons h (ne_nil_of_mem_placesAbove habove)]
  rw [lineAt, lineAt, placesAbove_cons hplace, List.map_cons, hmargin, isLastAt_cons h hplace, at?_cons h,
    String.join_cons]
  simp only [String.append_assoc]

theorem lineAt_singleton (h : tree.children[i]? = some child) :
    tree.lineAt [i] = branch (tree.isLastAt [i]) ++ child.name ++ "\n" := by
  rw [lineAt, placesAbove_singleton, List.map_nil, String.join_nil, String.empty_append, at?_cons h, branch]
  rfl

theorem isLastAt_singleton (tree : Tree) (i : Nat) : tree.isLastAt [i] = tree.children[i + 1]?.isNone := by
  rw [isLastAt, nextPlace, at?]
  cases tree.children[i + 1]? <;> rfl

/-- A file and a directory are drawn alike, one with nothing below. -/
theorem draw_eq (margin : String) (isLast : Bool) (tree : Tree) : draw margin isLast tree =
    line margin isLast tree.name ++ drawAll (continuation margin isLast) tree.children := by
  cases tree with
  | file name => rw [draw, children, drawAll, String.append_empty, Tree.name]
  | dir name children => rw [draw, Tree.children, Tree.name]

/-- Induction on the children of a tree from the last to the first, each with its number and the ones after it. -/
theorem childrenInduction (tree : Tree) {P : Nat → List Tree → Prop} (nil : ∀ i, P i [])
    (cons : ∀ i child rest, tree.children[i]? = some child → tree.isLastAt [i] = rest.isEmpty → P (i + 1) rest →
      P i (child :: rest)) : P 0 tree.children := by
  suffices hrest : ∀ rest before, tree.children = before ++ rest → P before.length rest from hrest tree.children [] rfl
  intro rest
  induction rest with
  | nil =>
    intro before _
    exact nil before.length
  | cons child rest ih =>
    intro before hsplit
    apply cons
    · rw [hsplit, List.getElem?_append_right (Nat.le_refl _), Nat.sub_self]
      rfl
    · rw [isLastAt_singleton, hsplit, List.getElem?_append_right (Nat.le_succ _), Nat.succ_sub (Nat.le_refl _),
        Nat.sub_self]
      cases rest <;> rfl
    · have hlater := ih (before ++ [child]) (by rw [hsplit, List.append_assoc, List.singleton_append])
      rwa [List.length_append] at hlater

/-- What is drawn below an entry are the lines of its places, behind its margin. -/
theorem drawAll_eq_join (tree : Tree) (margin : String) :
    drawAll margin tree.children = String.join (tree.places.map fun place => margin ++ tree.lineAt place) := by
  induction tree using treeInduction generalizing margin with
  | h tree ih =>
    rw [places_eq]
    refine childrenInduction tree (P := fun i trees => drawAll margin trees =
      String.join ((placesFrom i trees).map fun place => margin ++ tree.lineAt place)) ?nil ?cons
    case nil => exact fun _ => rfl
    case cons =>
      intro i child rest hchild hlast hrest
      have hbelow : (child.places.map (i :: ·)).map (fun place => margin ++ tree.lineAt place) =
          child.places.map fun place => continuation margin rest.isEmpty ++ child.lineAt place := by
        rw [List.map_map]
        apply List.map_congr_left
        intro place hplace
        rw [Function.comp_apply, lineAt_cons hchild (mem_places.1 hplace).1, hlast, continuation, String.append_assoc]
      rw [drawAll, draw_eq, ih child (List.mem_of_getElem? hchild), hrest, placesFrom, List.map_cons, List.map_append,
        String.join_cons, String.join_append, hbelow, lineAt_singleton hchild, hlast, line]
      simp only [String.append_assoc]

theorem counts_eq_countsAll (tree : Tree) : tree.counts = countsAll tree.children := by
  cases tree <;> rfl

/-- The entries below a tree's root are counted, each as what stands at its place. -/
theorem counts_eq (tree : Tree) :
    tree.counts = (tree.places.countP tree.isDirAt, tree.places.countP tree.isFileAt) := by
  induction tree using treeInduction with
  | h tree ih =>
    rw [places_eq, counts_eq_countsAll]
    refine childrenInduction tree (P := fun i trees => countsAll trees =
      ((placesFrom i trees).countP tree.isDirAt, (placesFrom i trees).countP tree.isFileAt)) ?nil ?cons
    case nil => exact fun _ => rfl
    case cons =>
      intro i child rest hchild hlast hrest
      have hbelow (shows : Tree → Bool) :
          (fun place => (tree.at? place).any shows) ∘ (i :: ·) = fun place => (child.at? place).any shows := by
        funext place
        rw [Function.comp_apply, at?_cons hchild]
      have hplaces (shows : Tree → Bool) :
          (placesFrom i (child :: rest)).countP (fun place => (tree.at? place).any shows) =
            child.places.countP (fun place => (child.at? place).any shows) +
              (placesFrom (i + 1) rest).countP (fun place => (tree.at? place).any shows) +
              if shows child then 1 else 0 := by
        rw [placesFrom, List.countP_cons, List.countP_append, List.countP_map, hbelow, at?_cons hchild]
        rfl
      have hdirs : (placesFrom i (child :: rest)).countP tree.isDirAt = _ := hplaces isDir
      have hfiles : (placesFrom i (child :: rest)).countP tree.isFileAt = _ := hplaces (!·.isDir)
      rw [hdirs, hfiles, countsAll, ih child (List.mem_of_getElem? hchild), hrest]
      cases child <;> rfl

/-- A number with its noun, which is in the singular for one only. -/
theorem plural_eq (n : Nat) (one many : String) : plural n one many =
    toString n ++ if n = 1 then " " ++ one else " " ++ many := by
  rw [plural, String.append_assoc]
  split <;> rfl

/-- The drawing of a directory: its name, the lines of all places below it from the top to the bottom, an empty line,
and how many of them are directories and how many are files. -/
theorem format_dir (name : String) (children : List Tree) : ∃ (places : List (List Nat)) (dirs files : Nat),
    (∀ place, place ∈ places ↔ place ≠ [] ∧ ((dir name children).at? place).isSome) ∧
    places.Pairwise (· < ·) ∧
    dirs = places.countP (dir name children).isDirAt ∧ files = places.countP (dir name children).isFileAt ∧
    (dir name children).counts = (dirs, files) ∧
    (dir name children).format = name ++ "\n" ++ String.join (places.map (dir name children).lineAt) ++
      "\n" ++ (toString dirs ++ if dirs = 1 then " directory" else " directories") ++ ", " ++
      (toString files ++ if files = 1 then " file" else " files") ++ "\n" := by
  refine ⟨(dir name children).places, _, _, fun _ => mem_places, pairwise_places _, rfl, rfl, counts_eq _, ?_⟩
  have hdrawn := drawAll_eq_join (dir name children) ""
  simp only [String.empty_append] at hdrawn
  rw [format, counts_eq]
  simp only [plural_eq]
  rw [← hdrawn]
  rfl

/-- Below the last child of the root there is no branch in the margin, and below the other there is. -/
example : (dir "p" [dir "a" [file "x"], dir "b" [file "y"]]).format =
    "p\n├── a\n│   └── x\n└── b\n    └── y\n\n2 directories, 2 files\n" := by
  decide +kernel

end SourceSnapshot.Tree
