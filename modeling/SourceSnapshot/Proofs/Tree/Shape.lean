import SourceSnapshot.Proofs.FileSystem.Shape
import SourceSnapshot.Structure

/-! The drawing of a structure shows the shape of a tree and nothing else of it. -/
namespace SourceSnapshot

namespace Tree
variable {c : Config} {fs fs' : FileSystem} {root : Path} {node node' child child' : Node} {above : List Name}

theorem ofEntries_eq_map (excluded : NameSet) (levels : Nat) (dir : Path) (entries : List (Name × Node)) :
    ofEntries excluded levels dir entries = entries.map fun entry => (entry.1,
      ofNode? excluded levels (dir.entry entry.1) entry.1 entry.2) := by
  induction entries with
  | nil => rfl
  | cons entry rest ih => rw [ofEntries, ih, List.map_cons]

/-- The trees of the entries of a directory, in order. -/
theorem ofEntries_inside (excluded : NameSet) (levels : Nat) (dir : Path) (entries : List (Name × Node)) :
    (sortByName (ofEntries excluded levels dir entries)).filterMap Prod.snd =
      ((sortByName entries).map fun entry =>
        ofNode? excluded levels (dir.entry entry.1) entry.1 entry.2).filterMap id := by
  rw [ofEntries_eq_map, sortByName_map, List.filterMap_map, List.filterMap_map]
  rfl

theorem ofNode?_of_not_dir {excluded : NameSet} {levels : Nat} {path : Path} {name : Name}
    (h : node.isDir = false) : ofNode? excluded levels path name node =
      if isHidden name then none else some (.file name.display) := by
  cases node with
  | dir entries => cases h
  | _ => rfl

/-- An entry is shown alike in trees of one shape. -/
theorem ofNode?_of_shape (h : SameShape c node node') (habove : c.Keeps above) {name : Name}
    (hchild : node.at? (above ++ [name]) = some child) (hchild' : node'.at? (above ++ [name]) = some child')
    (levels : Nat) (path : Path) :
    ofNode? c.excludedDirs levels path name child' = ofNode? c.excludedDirs levels path name child := by
  have hkind := h.kind_eq habove hchild hchild'
  induction child using Node.nodeInduction generalizing above name child' levels path with
  | other child hdir =>
    rw [ofNode?_of_not_dir hdir, ofNode?_of_not_dir (by rw [Node.isDir_eq_of_kind hkind, hdir])]
  | dir entries ih =>
    cases child' with
    | dir entries' =>
      rw [ofNode?, ofNode?, ofEntries_inside, ofEntries_inside]
      by_cases hexcluded : c.excludedDirs.contains name.display
      · simp only [hexcluded, Bool.or_true, if_true]
      · have hkept := habove.concat (Bool.eq_false_iff.2 hexcluded)
        rw [h.map_entries hkept hchild hchild' (fun entry => ofNode? c.excludedDirs (levels - 1)
          (path.entry entry.1) entry.1 entry.2) _ fun name child child' hentry hat hat' hkind =>
            ih (name, child) hentry hkept hat hat' _ _ hkind]
    | _ => cases hkind

def ofListing (excluded : NameSet) (levels : Nat) (root : Path) (entries : List (Name × Node)) : Tree :=
  .dir root.display ((sortByName (ofEntries excluded levels root entries)).filterMap Prod.snd)

theorem ofDirectory_eq (fs : FileSystem) (root : Path) (depth : UInt64) (excluded : NameSet) :
    ofDirectory fs root depth excluded =
      (if depth = 0 then .ok [] else fs.list root).map (ofListing excluded (depth.toNat - 1) root) := by
  unfold ofDirectory
  split
  · rfl
  · cases fs.list root <;> rfl

/-- A directory is drawn alike in file systems that look alike from it. -/
theorem ofDirectory_of_alike (h : FileSystem.AlikeBelow c root fs fs') (depth : UInt64) :
    ofDirectory fs' root depth c.excludedDirs = ofDirectory fs root depth c.excludedDirs := by
  rw [ofDirectory_eq, ofDirectory_eq]
  split
  · rfl
  · rw [FileSystem.list, FileSystem.list]
    rcases FileSystem.landing_cases h.land with ⟨e, here, there⟩ | ⟨dir, name, dir', name', here, there⟩ |
      ⟨here, there⟩ | ⟨loc, node, node', here, there, hkind⟩
    · rw [here, there]
    · rw [here, there]
    · rw [here, there]
    · have hshape := h.shape loc node node' (by rw [FileSystem.resolve, here]) (by rw [FileSystem.resolve, there])
      rw [here, there]
      cases node with
      | dir entries =>
        cases node' with
        | dir entries' =>
          have hkept : c.Keeps [] := .nil c
          have hentries := hshape.map_entries hkept rfl rfl
            (fun entry => ofNode? c.excludedDirs (depth.toNat - 1) (root.entry entry.1) entry.1 entry.2)
            (fun entry => ofNode? c.excludedDirs (depth.toNat - 1) (root.entry entry.1) entry.1 entry.2)
            fun name child child' _ hat hat' _ => ofNode?_of_shape hshape hkept hat hat' _ _
          simp only [Except.map, ofListing, ofEntries_inside, hentries]
        | _ => cases hkind
      | _ => cases node' <;> first | rfl | cases hkind

end Tree

/-- Neither the tree that is drawn without a program nor the note in its place depends on more than the
shape of what lies below the root. -/
theorem Renderer.drawing_of_alike {c : Config} {fs fs' : FileSystem} {root : Path} {renderer : Renderer}
    (h : FileSystem.AlikeBelow c root fs fs') (hrenderer : renderer = .builtin ∨ renderer = .none)
    (depth : UInt64) : renderer fs' root depth c.excludedDirs = renderer fs root depth c.excludedDirs := by
  rcases hrenderer with rfl | rfl
  · unfold builtin
    rw [Tree.ofDirectory_of_alike h]
  · rfl

end SourceSnapshot
