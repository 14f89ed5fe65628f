import SourceSnapshot.Ignore.Rules

/-! Where the rules of a directory lie that belong to its repository. A repository can be a directory
`.git`, or a file of that name in a second working tree: the file names a directory for that tree,
which has a file naming the directory that all trees share. -/
namespace SourceSnapshot.Ignore

def isFile (fs : FileSystem) (path : Path) : Bool :=
  match fs.resolve path with
  | .ok (_, .file _ _) => true
  | _ => false

/-- The first line of a file; none if it has none or cannot be opened. -/
def firstLine? (fs : FileSystem) (path : Path) : Except IoError (Option String) :=
  match fs.read path with
  | .error e => if e = .isDirectory then .error e else .ok none
  | .ok bytes =>
    match (fileLines bytes).head? with
    | none => .ok none
    | some line =>
      match Utf8.decode? line with
      | none => .error .notText
      | some text => .ok (some text)

def lineAt? (fs : FileSystem) (path : Path) : Except String (Option String) :=
  (firstLine? fs path).mapError fun e => path.display ++ ": " ++ e.message

def repositoryAt (dir : Path) : Path := dir.join (.ofString ".git")

def treeMark : List Char := "gitdir: ".toList

def treeDir? (fs : FileSystem) (file : Path) : Except String (Option Path) := do
  let some line ← lineAt? fs file | return none
  if treeMark.isPrefixOf line.toList then
    return some ⟨Utf8.encodeChars (line.toList.drop treeMark.length)⟩
  else return none

def sharedName (treeDir : Path) : Path := treeDir.join (.ofString "commondir")

/-- The directory that all working trees share, by the directory for one of them. A name with a dot
in front starts there. -/
def sharedDir? (fs : FileSystem) (treeDir : Path) : Except String (Option Path) := do
  let some line ← lineAt? fs (sharedName treeDir) | return none
  let path := Path.ofString line
  return some (if path.bytes.head? = some dot then treeDir.join path else path)

def rulesOf (repository : Path) : Path := repository.join (.ofString "info/exclude")

/-- The file with the rules of the repository for the directory at `dir`, if there is a place for
one. -/
def excludeFile? (fs : FileSystem) (dir : Path) : Except String (Option Path) := do
  if !isFile fs (repositoryAt dir) then return some (rulesOf (repositoryAt dir))
  let some treeDir ← treeDir? fs (repositoryAt dir) | return none
  return (← sharedDir? fs treeDir).map rulesOf

end SourceSnapshot.Ignore
