import SourceSnapshot.Tree.Basic

/-! Drawing a tree as text: one line for each entry, with branches in front of it that show where it
belongs, and a count at the end. -/
namespace SourceSnapshot.Tree

def continuation (margin : String) (isLast : Bool) : String :=
  margin ++ (if isLast then "    " else "│   ")

def branch (isLast : Bool) : String := if isLast then "└── " else "├── "

def line (margin : String) (isLast : Bool) (name : String) : String :=
  margin ++ branch isLast ++ name ++ "\n"

mutual

def draw (margin : String) (isLast : Bool) : Tree → String
  | file name => line margin isLast name
  | dir name children => line margin isLast name ++ drawAll (continuation margin isLast) children

def drawAll (margin : String) : List Tree → String
  | [] => ""
  | tree :: rest => draw margin rest.isEmpty tree ++ drawAll margin rest

end

def plural (n : Nat) (one many : String) : String :=
  toString n ++ " " ++ (if n = 1 then one else many)

/-- The drawing of a whole tree. A directory at the root has a line of its own without a branch. -/
def format (tree : Tree) : String :=
  let (dirs, files) := tree.counts
  (match tree with
    | file name => line "" true name
    | dir name children => name ++ "\n" ++ drawAll "" children) ++
  "\n" ++ plural dirs "directory" "directories" ++ ", " ++ plural files "file" "files" ++ "\n"

end SourceSnapshot.Tree
