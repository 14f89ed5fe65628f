import SourceSnapshot.FileSystem.Change

/-! What has to be done to a disk that held one file system so that it holds another: directories to
make and files to write, each after the directory that it lies in. Nothing is taken away. -/
namespace SourceSnapshot

inductive Alteration
  | makeDir (loc : Location)
  | writeFile (loc : Location) (content : Bytes)

mutual

def Node.alterations (before : Option Node) (loc : Location) : Node → List Alteration
  | .dir entries =>
    (if before.any Node.isDir then [] else [.makeDir loc]) ++
      alterationsBelow ((before.map Node.entries).getD []) loc entries
  | .file content _ =>
    match before with
    | some (.file old _) => if old = content then [] else [.writeFile loc content]
    | _ => [.writeFile loc content]
  | _ => []

def Node.alterationsBelow (before : List (Name × Node)) (loc : Location) :
    List (Name × Node) → List Alteration
  | [] => []
  | (name, node) :: rest =>
    Node.alterations (before.lookup name) (loc ++ [name]) node ++
      alterationsBelow before loc rest

end

def FileSystem.alterations (before after : FileSystem) : List Alteration :=
  Node.alterations (some before.top) [] after.top

end SourceSnapshot
