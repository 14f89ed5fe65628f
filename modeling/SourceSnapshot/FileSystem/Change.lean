import SourceSnapshot.FileSystem.Basic

/-! Changes to a file system: making directories, opening files for writing, and taking things away.
-/
namespace SourceSnapshot.FileSystem

def empty : FileSystem :=
  { top := .dir [], distinct_top := by simp [Node.Distinct, Node.AllDistinct] }

def setAt (fs : FileSystem) (loc : Location) (node : Node) (h : node.Distinct) : FileSystem :=
  if hl : loc = [] then fs
  else
    { fs with
      top := Node.set node loc fs.top
      isDir_top := Node.isDir_set fs.isDir_top (absurd · hl)
      distinct_top := Node.distinct_set fs.distinct_top h }

def isNameOf (fs : FileSystem) (loc other : Location) : Bool :=
  other == loc || fs.links.any fun names => names.contains loc && names.contains other

def setContent (fs : FileSystem) (loc : Location) (content : Bytes) : FileSystem :=
  { fs with
    top := fs.top.refill (fs.isNameOf loc) content
    isDir_top := (Node.isDir_refill (fs.isNameOf loc) content fs.top).trans fs.isDir_top
    distinct_top := Node.distinct_refill (fs.isNameOf loc) content fs.top fs.distinct_top }

def unlink (fs : FileSystem) (loc : Location) : FileSystem :=
  { fs with links := fs.links.map (·.filter (· != loc)) }

def makeFile (fs : FileSystem) (loc : Location) : FileSystem :=
  (fs.unlink loc).setAt loc (.file [] false) (by simp [Node.Distinct])

def permit (fs : FileSystem) (deed : Deed) (loc : Location) : Except IoError Unit :=
  match fs.refusal deed loc with
  | some e => .error e
  | none => .ok ()

/-- Follows a path to where something is to be made that is no file. A slash at the end means
nothing yet. -/
def landNew (fs : FileSystem) (p : Path) : Except IoError Landing := do
  fs.follow .keep p ((← p.stepsWithin).filter (· != .slash))

def makeDir (fs : FileSystem) (p : Path) : Except IoError FileSystem := do
  match ← fs.landNew p with
  | .found _ _ | .removed => .error .entryExists
  | .missing dir name =>
    fs.permit .makeDir (dir ++ [name])
    .ok (fs.setAt (dir ++ [name]) (.dir []) (by simp [Node.Distinct, Node.AllDistinct]))

/-- Climbs from a directory to be made until one can be made or is there. `ancestors` start with
that directory; those that have to wait for it are given outermost first, after `waiting`. -/
def climb (fs : FileSystem) (waiting : List Path) :
    List Path → Except IoError (List Path × FileSystem)
  | [] => .ok (waiting, fs)
  | p :: ancestors =>
    match fs.makeDir p with
    | .ok fs => .ok (waiting, fs)
    | .error e =>
      if e.kind = .notFound then fs.climb (p :: waiting) ancestors
      else if e.kind = .alreadyExists ∧ fs.isDir p then .ok (waiting, fs)
      else .error e

/-- Makes directories in order. What was made before a failure stays. -/
def makeEach (fs : FileSystem) : List Path → Except IoError Unit × FileSystem
  | [] => (.ok (), fs)
  | p :: rest =>
    match fs.makeDir p with
    | .ok fs => fs.makeEach rest
    | .error e =>
      if e.kind = .alreadyExists ∧ fs.isDir p then fs.makeEach rest else (.error e, fs)

def makeDirs (fs : FileSystem) (p : Path) : Except IoError Unit × FileSystem :=
  let makeable := p.ancestors.takeWhile fun a => !a.components.isEmpty && a.parent?.isSome
  match fs.climb [] makeable with
  | .error e => (.error e, fs)
  | .ok (waiting, fs) => fs.makeEach waiting

inductive Opened
  | file (loc : Location)
  | device (device : Device)
  deriving DecidableEq

/-- Opens a file for writing. It is made if it is missing, and emptied if it is not. -/
def openToWrite (fs : FileSystem) (p : Path) : Except IoError (Opened × FileSystem) := do
  match ← fs.land .make p with
  | .missing dir name =>
    fs.permit .makeFile (dir ++ [name])
    .ok (.file (dir ++ [name]), fs.makeFile (dir ++ [name]))
  | .found loc (.file _ _) =>
    fs.permit .write loc
    .ok (.file loc, fs.setContent loc [])
  | .found loc (.device device) =>
    fs.permit .write loc
    .ok (.device device, fs)
  | .found _ (.dir _) | .removed => .error .isDirectory
  | .found _ _ => .error .accessDenied

def writeFile (fs : FileSystem) (p : Path) (content : Bytes) : Except IoError FileSystem := do
  match ← fs.openToWrite p with
  | (.file loc, fs) => .ok (fs.setContent loc content)
  | (.device _, fs) => .ok fs

def makeLink (fs : FileSystem) (p target : Path) : Except IoError FileSystem :=
  if target.bytes.isEmpty then .error .noEntry
  else if target.isTooLong then .error .nameTooLong
  else do
    match ← fs.landNew p with
    | .found _ _ | .removed => .error .entryExists
    | .missing dir name =>
      if p.bytes.getLast? = some SourceSnapshot.slash then .error .noEntry
      else .ok (fs.setAt (dir ++ [name]) (.link target) (by simp [Node.Distinct]))

def markExecutable (fs : FileSystem) (p : Path) : FileSystem :=
  match fs.resolve p with
  | .ok (loc, .file content _) => fs.setAt loc (.file content true) (by simp [Node.Distinct])
  | _ => fs

/-- Takes away what a path names, with all in it. A link is taken away itself. -/
def remove (fs : FileSystem) (p : Path) : Except IoError FileSystem := do
  match ← fs.land .keep p with
  | .missing _ _ => .error .noEntry
  | .removed => .error .isDirectory
  | .found loc _ =>
    .ok { fs with
      top := fs.top.remove loc
      isDir_top := Node.isDir_remove fs.isDir_top
      distinct_top := Node.distinct_remove fs.distinct_top }

end SourceSnapshot.FileSystem
