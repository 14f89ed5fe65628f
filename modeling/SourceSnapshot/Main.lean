import SourceSnapshot.CommandLine.Run
import SourceSnapshot.FileSystem.Difference

/-! The program on a real disk. What a run may look at is loaded first, the run itself is pure, and
what it changed is then written to the disk. No other program is started, so a drawing by one is
never there. Contents are loaded only of files that are collected or that hold rules or settings. -/
namespace SourceSnapshot.Disk

def typeAt (path : String) : IO (Option IO.FS.FileType) := do
  let spot := (← IO.currentDir) / path
  try return some (← spot.symlinkMetadata).type
  catch _ => return none

def namesIn (dir : String) : IO (List String) := do
  let spot := (← IO.currentDir) / dir
  try return (← spot.readDir).toList.map (·.fileName)
  catch _ => return []

def contentOf (path : String) : IO Bytes := do
  try return (← IO.FS.readBinFile path).toList
  catch _ => return []

def linkTarget (path : String) : IO (Option String) := do
  try return some (← IO.FS.realPath path).toString
  catch _ => return none

def place (fs : FileSystem) (path : Path) (node : Node) (h : node.Distinct) : FileSystem :=
  match fs.land .keep path with
  | .ok (.missing dir name) => fs.setAt (dir ++ [name]) node h
  | _ => fs

/-- Loads something that is no link. What was loaded with its content keeps it. -/
def loadPlain (fs : FileSystem) (path : Path) (withContent : Bool) :
    IO.FS.FileType → IO FileSystem
  | .dir => return (fs.makeDirs path).2
  | .file => do
    if !withContent && (fs.resolve path).toBool then return fs
    let content ← if withContent then contentOf path.display else pure []
    return (fs.writeFile path content).toOption.getD fs
  | _ =>
    let device := if path.fileName? = some (Utf8.encode "full") then Device.full else .null
    return place fs path (.device device) (by simp [Node.Distinct])

/-- Loads what stands at a path in a directory that is loaded, and what a link there leads to. A
link that leads nowhere has the empty path for a target. -/
def loadSpot (fs : FileSystem) (path : Path) (withContent : Bool) : IO FileSystem := do
  match ← typeAt path.display with
  | none => return fs
  | some .symlink =>
    let (target, fs) ← match ← linkTarget path.display with
      | none => pure (Path.mk [], fs)
      | some real =>
        let target := Path.ofString real
        let fs := match target.parent? with
          | some dir => (fs.makeDirs dir).2
          | none => fs
        match ← typeAt real with
        | some type => pure (target, ← loadPlain fs target withContent type)
        | none => pure (target, fs)
    return place fs path (.link target) (by simp [Node.Distinct])
  | some type => loadPlain fs path withContent type

def loadWay (fs : FileSystem) (path : Path) (withContent : Bool) : IO FileSystem :=
  path.ancestors.reverse.foldlM (fun fs p => loadSpot fs p (withContent && p == path)) fs

def loadRules (fs : FileSystem) (dir : Path) : IO FileSystem := do
  let repository := Ignore.repositoryAt dir
  let near := [dir.join (.ofString ".ignore"), dir.join (.ofString ".gitignore"), repository]
  let mut fs ← near.foldlM (fun fs path => loadWay fs path true) fs
  let here := FileSystem.pathOf fs.cwd
  if let .ok (some treeDir) := Ignore.treeDir? fs repository then
    fs ← loadWay fs (here.join (Ignore.sharedName treeDir)) true
  if let .ok (some file) := Ignore.excludeFile? fs dir then
    fs ← loadWay fs (here.join file) true
  return fs

def loadUserRules (fs : FileSystem) : IO FileSystem := do
  let here := FileSystem.pathOf fs.cwd
  let mut fs ← (Ignore.settingsOf fs.process).foldlM (fun fs path => loadWay fs (here.join path) true) fs
  if let some file := Ignore.userFile? fs then
    fs ← loadWay fs (here.join file) true
  return fs

/-- Loads what lies below a directory, except below directories that are left out. -/
partial def loadBelow (fs : FileSystem) (c : Config) (dir : Path) : IO FileSystem := do
  let mut fs := fs
  for name in ← namesIn dir.display do
    let path := dir.join (.ofString name)
    fs ← loadSpot fs path (c.decide path == .included)
    if (← typeAt path.display) matches some .dir then
      if !c.isExcludedDir name then fs ← loadBelow fs c path
      else if c.respectGitignore then fs ← loadRules fs path
  if c.respectGitignore then fs ← loadRules fs dir
  return fs

def loadFor (fs : FileSystem) (o : CommandLine.Options) : IO FileSystem := do
  let here := FileSystem.pathOf fs.cwd
  let root := CommandLine.rootOf fs o
  let mut fs ← loadWay fs root false
  if let some file := o.config then fs ← loadWay fs (here.join file) true
  fs ← loadWay fs (here.join (o.output.getD (defaultOutputPath root))) true
  match CommandLine.configOf fs o with
  | .error _ => return fs
  | .ok c =>
    fs ← loadBelow fs c root
    if c.respectGitignore then
      for dir in Ignore.pathsAbove ((fs.canonical? root).getD []) do fs ← loadRules fs dir
      fs ← loadUserRules fs
    return fs

def workingDirectory : IO Location := do
  let here := (← IO.currentDir).toString
  return (cutWhere (· == slash) (Utf8.encode here)).filterMap Name.ofBytes?

def environment : IO Environment := do
  let get (name : String) : IO (Option Bytes) := return (← IO.getEnv name).map Utf8.encode
  return {
    term := ← get "TERM"
    noColor := ← get "NO_COLOR"
    forceColor := ← get "FORCE_COLOR"
    logFilter := ← get "RUST_LOG" }

def process : IO Process := do
  let get (name : String) : IO (Option Path) := return (← IO.getEnv name).map Path.ofString
  return { home := ← get "HOME", configHome := ← get "XDG_CONFIG_HOME" }

def apply : Alteration → IO Unit
  | .makeDir loc => IO.FS.createDir (FileSystem.pathOf loc).display
  | .writeFile loc content =>
    IO.FS.writeBinFile (FileSystem.pathOf loc).display (ByteArray.mk content.toArray)

def printTold : CommandLine.Told → IO Unit
  | .record r => IO.eprintln r.line
  | .message text => IO.eprintln text

def run (arguments : List String) : IO UInt32 := do
  let arguments := arguments.map Utf8.encode
  let cwd ← workingDirectory
  let bare := { (FileSystem.empty.makeDirs (FileSystem.pathOf cwd)).2 with cwd, process := ← process }
  let fs ← match CommandLine.parse arguments with
    | .ok o => loadFor bare o
    | .error _ => pure bare
  let terminal ← (← IO.getStdout).isTty
  let ran := CommandLine.run fs (← environment) terminal arguments
  try (fs.alterations ran.fs).forM apply
  catch problem =>
    IO.eprintln (CommandLine.programName ++ ": " ++ toString problem)
    return 1
  ran.told.forM printTold
  IO.print ran.stdout
  return UInt32.ofNat ran.code

end SourceSnapshot.Disk

def main (arguments : List String) : IO UInt32 := SourceSnapshot.Disk.run arguments
