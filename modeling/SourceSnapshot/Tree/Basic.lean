/-! Trees of named files and directories, as a drawing shows them. -/
namespace SourceSnapshot

inductive Tree
  | file (name : String)
  | dir (name : String) (children : List Tree)

namespace Tree

def name : Tree → String
  | file name => name
  | dir name _ => name

mutual

def counts : Tree → Nat × Nat
  | file _ => (0, 0)
  | dir _ children => countsAll children

def countsAll : List Tree → Nat × Nat
  | [] => (0, 0)
  | tree :: rest =>
    let (dirs, files) := tree.counts
    let (moreDirs, moreFiles) := countsAll rest
    match tree with
    | file _ => (dirs + moreDirs, files + moreFiles + 1)
    | dir _ _ => (dirs + moreDirs + 1, files + moreFiles)

end

end Tree
end SourceSnapshot
