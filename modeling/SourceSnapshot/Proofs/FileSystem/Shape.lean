import SourceSnapshot.Proofs.FileSystem.Agreement
import SourceSnapshot.Proofs.Search.Order

/-! Trees of one shape. Two trees have one shape under a configuration if they hold the same names, and the
same kinds of things under them, wherever no directory on the way is left out; what stands beneath a
directory that is left out may be anything. What goes through such trees in the order of names goes through
both alike. -/
namespace SourceSnapshot

def Config.Keeps (c : Config) (names : List Name) : Prop := ∀ name ∈ names, c.isExcludedDir name.display = false

theorem Config.Keeps.nil (c : Config) : c.Keeps [] := fun _ hname => absurd hname List.not_mem_nil

theorem Config.Keeps.concat {c : Config} {names : List Name} {name : Name} (h : c.Keeps names)
    (hname : c.isExcludedDir name.display = false) : c.Keeps (names ++ [name]) := by
  intro other hother
  rcases List.mem_append.1 hother with hother | hother
  · exact h other hother
  · rw [List.mem_singleton.1 hother]
    exact hname

namespace Node

theorem mem_map_fst_iff {entries : List (Name × Node)} (h : (entries.map Prod.fst).Nodup) {name : Name} :
    name ∈ entries.map Prod.fst ↔ (entries.lookup name).isSome := by
  constructor
  · intro hname
    obtain ⟨entry, hentry, rfl⟩ := List.mem_map.1 hname
    rw [lookup_of_mem h hentry]
    rfl
  · intro hsome
    obtain ⟨child, hchild⟩ := Option.isSome_iff_exists.1 hsome
    exact List.mem_map.2 ⟨(name, child), mem_of_lookup hchild, rfl⟩

end Node

/-- Two trees of one shape under a configuration. -/
structure SameShape (c : Config) (node node' : Node) : Prop where
  distinct : node.Distinct
  distinct' : node'.Distinct
  kind : ∀ above name, c.Keeps above →
    (node'.at? (above ++ [name])).map Node.kind = (node.at? (above ++ [name])).map Node.kind

namespace SameShape
variable {c : Config} {node node' child : Node} {above : List Name} {name : Name}
  {entries entries' : List (Name × Node)}

theorem exists_child (h : SameShape c node node') (habove : c.Keeps above)
    (hchild : node.at? (above ++ [name]) = some child) :
    ∃ child', node'.at? (above ++ [name]) = some child' ∧ child'.kind = child.kind := by
  have hkind := h.kind above name habove
  rw [hchild, Option.map_some] at hkind
  exact Option.map_eq_some_iff.1 hkind

theorem kind_eq (h : SameShape c node node') (habove : c.Keeps above) {child' : Node}
    (hchild : node.at? (above ++ [name]) = some child) (hchild' : node'.at? (above ++ [name]) = some child') :
    child'.kind = child.kind := by
  obtain ⟨other, hother, hkind⟩ := h.exists_child habove hchild
  rwa [Option.some.inj (hother.symm.trans hchild')] at hkind

/-- What is made, in the order of names, of the entries of a directory in each of the trees is the same if
it is so name by name. -/
theorem map_entries {γ : Type} (h : SameShape c node node') (habove : c.Keeps above)
    (hentries : node.at? above = some (.dir entries)) (hentries' : node'.at? above = some (.dir entries'))
    (f g : Name × Node → γ)
    (hsame : ∀ name child child', (name, child) ∈ entries → node.at? (above ++ [name]) = some child →
      node'.at? (above ++ [name]) = some child' → child'.kind = child.kind → g (name, child') = f (name, child)) :
    (sortByName entries').map g = (sortByName entries).map f := by
  have hat {node : Node} {entries : List (Name × Node)} (hentries : node.at? above = some (.dir entries))
      (name : Name) : node.at? (above ++ [name]) = entries.lookup name := by
    rw [Node.at?_append, hentries, Option.bind_some, Node.at?_singleton]
    rfl
  have hnames := (h.distinct.at? hentries).1
  have hnames' := (h.distinct'.at? hentries').1
  refine map_sortByName_congr hnames' hnames (fun name => ?_) g f fun name child' child hchild' hchild => ?_
  · rw [Node.mem_map_fst_iff hnames', Node.mem_map_fst_iff hnames, ← hat hentries, ← hat hentries',
      ← Option.isSome_map, h.kind above name habove, Option.isSome_map]
  · have hlookup : node.at? (above ++ [name]) = some child :=
      (hat hentries name).trans (Node.lookup_of_mem hnames hchild)
    have hlookup' : node'.at? (above ++ [name]) = some child' :=
      (hat hentries' name).trans (Node.lookup_of_mem hnames' hchild')
    have hkind := h.kind above name habove
    rw [hlookup, hlookup', Option.map_some, Option.map_some] at hkind
    exact hsame name child child' hchild hlookup hlookup' (Option.some.inj hkind)

end SameShape

/-- Two file systems that look alike from a root: it leads to one location in both, and what lies below it
is of one shape. -/
structure FileSystem.AlikeBelow (c : Config) (root : Path) (fs fs' : FileSystem) : Prop
    extends FileSystem.SameProcess fs fs' where
  land : (fs'.land .follow root).map Landing.outline = (fs.land .follow root).map Landing.outline
  shape : ∀ loc node node', fs.resolve root = .ok (loc, node) → fs'.resolve root = .ok (loc, node') →
    SameShape c node node'

namespace FileSystem.AlikeBelow
variable {c : Config} {root : Path} {fs fs' : FileSystem}

/-- File systems look alike from a root if they agree where the root is looked up and at the names below it. -/
theorem of_agree (hsame : FileSystem.SameProcess fs fs') (hroot : ∀ loc ∈ fs.lookups root, AgreeAt fs.top fs'.top loc)
    (hnames : ∀ base node above name, fs.resolve root = .ok (base, node) → c.Keeps above →
      AgreeAt fs.top fs'.top (base ++ (above ++ [name]))) : AlikeBelow c root fs fs' where
  toSameProcess := hsame
  land := land_agree hsame hroot
  shape := by
    intro base node node' here there
    refine ⟨distinct_of_resolve here, distinct_of_resolve there, ?_⟩
    intro above name habove
    have hkind := hnames base node above name here habove
    rw [AgreeAt, Node.at?_append, Node.at?_append, at?_of_resolve here, at?_of_resolve there] at hkind
    exact hkind

theorem error_or_ok (h : AlikeBelow c root fs fs') :
    (∃ e, fs.resolve root = .error e ∧ fs'.resolve root = .error e) ∨
    ∃ loc node node', fs.resolve root = .ok (loc, node) ∧ fs'.resolve root = .ok (loc, node') ∧
      node'.kind = node.kind ∧ SameShape c node node' := by
  rcases outline_cases (resolve_eq_of_land h.land) with herror | ⟨loc, node, node', here, there, hkind⟩
  · exact .inl herror
  · exact .inr ⟨loc, node, node', here, there, hkind, h.shape _ _ _ here there⟩

theorem isDir_eq (h : AlikeBelow c root fs fs') : fs'.isDir root = fs.isDir root := isDir_eq_of_land h.land

end FileSystem.AlikeBelow
end SourceSnapshot
