import SourceSnapshot.FileSystem.Basic
import SourceSnapshot.NameSet
import SourceSnapshot.Tree.Basic

/-! The tree of what is visible below a directory, down to a number of levels. Hidden entries and
excluded directories are left out; links are shown as files. -/
namespace SourceSnapshot.Tree

def isHidden (name : Name) : Bool := name.bytes.head? == some dot

mutual

/-- The tree of an entry, with so many levels below it; none if it is not shown. A directory whose
path is too long cannot be listed, and shows nothing. -/
def ofNode? (excluded : NameSet) (levels : Nat) (path : Path) (name : Name) : Node → Option Tree
  | .dir entries =>
    if isHidden name || excluded.contains name.display then none
    else some (.dir name.display
      (if levels = 0 || path.isTooLong then []
        else (sortByName (ofEntries excluded (levels - 1) path entries)).filterMap Prod.snd))
  | _ => if isHidden name then none else some (.file name.display)

/-- The trees of the entries of the directory at `dir`, each with so many levels below it. -/
def ofEntries (excluded : NameSet) (levels : Nat) (dir : Path) :
    List (Name × Node) → List (Name × Option Tree)
  | [] => []
  | (name, node) :: rest =>
    (name, ofNode? excluded levels (dir.entry name) name node) ::
      ofEntries excluded levels dir rest

end

/-- The tree of a directory, `depth` levels deep. At depth zero the directory is not even looked at.
-/
def ofDirectory (fs : FileSystem) (root : Path) (depth : UInt64) (excluded : NameSet) :
    Except IoError Tree := do
  let entries ← if depth = 0 then .ok [] else fs.list root
  .ok (.dir root.display
    ((sortByName (ofEntries excluded (depth.toNat - 1) root entries)).filterMap Prod.snd))

end SourceSnapshot.Tree
