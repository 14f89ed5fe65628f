import SourceSnapshot.FileSystem.Error
import SourceSnapshot.FileSystem.Node

/-! The file system as one program sees it: a tree of nodes, a working directory, and what the system
lets the program do. Paths are followed part by part, through symbolic links. -/
namespace SourceSnapshot

/-- What the system may refuse. -/
inductive Deed
  | makeDir
  | makeFile
  /-- To open a file that is there for writing. -/
  | write
  deriving DecidableEq

/-- Where a program runs, and for whom. -/
structure Process where
  /-- If not 0, the program runs so many directories below the working directory, in one that was taken
  away with those above it. -/
  removed : Nat := 0
  home : Option Path := none
  /-- Where the settings of programs lie, if not in the usual place below `home`. -/
  configHome : Option Path := none

structure FileSystem where
  top : Node
  /-- The working directory. -/
  cwd : Location := []
  process : Process := {}
  /-- Of each file that has several names, all of them. -/
  links : List (List Location) := []
  /-- Why a deed is refused at a location, if it is. -/
  refusal : Deed → Location → Option IoError := fun _ _ => none
  limit : Location → Option Limit := fun _ => none
  isDir_top : top.isDir := by rfl
  distinct_top : top.Distinct

inductive PathStep
  | here
  | up
  | into (name : Name)
  /-- Into an entry with a longer name than any has. -/
  | tooLong
  /-- Nowhere: a slash at the end, after which only a directory will do. -/
  | slash
  deriving DecidableEq

/-- What following a path led to: a node, or a directory in which only the last name is missing. -/
inductive Landing
  | found (loc : Location) (node : Node)
  | missing (dir : Location) (name : Name)
  /-- A directory that was taken away. -/
  | removed

inductive LastName
  /-- A link there is followed. -/
  | follow
  /-- A link there is itself what is meant. -/
  | keep
  /-- A file is to be made there, so a slash may not follow. -/
  | make
  deriving DecidableEq

def maxPathLength : Nat := 4095

namespace Path

def stepOf (segment : Bytes) : PathStep :=
  if segment == [dot] then .here
  else if segment == [dot, dot] then .up
  else match Name.ofBytes? segment with
    | some name => .into name
    | none => .tooLong

/-- The steps of a path from where it starts. A path is not empty and has no zero byte. -/
def steps (p : Path) : Except IoError (List PathStep) :=
  if p.bytes.contains 0 then
    .error (.custom .invalidInput "file name contained an unexpected NUL byte")
  else if p.bytes.isEmpty then .error .noEntry
  else
    let steps := ((cutWhere (· == SourceSnapshot.slash) p.bytes).filter (!·.isEmpty)).map stepOf
    .ok (if p.bytes.getLast? == some SourceSnapshot.slash then steps ++ [.slash] else steps)

def isTooLong (p : Path) : Bool := p.bytes.length > maxPathLength

def stepsWithin (p : Path) : Except IoError (List PathStep) := do
  let steps ← p.steps
  if p.isTooLong then .error .nameTooLong else .ok steps

end Path

/-- A node on the way along a path: with each directory above it the name that leads on from there,
the nearest first. -/
structure Place where
  node : Node
  above : List (Name × Node) := []

namespace Place

def loc (p : Place) : Location := (p.above.map Prod.fst).reverse

def enter (p : Place) (name : Name) (node : Node) : Place := ⟨node, (name, p.node) :: p.above⟩

/-- The directory above; the topmost is above itself. -/
def up (p : Place) : Place :=
  match p.above with
  | [] => p
  | (_, node) :: rest => ⟨node, rest⟩

def top (p : Place) : Place :=
  match p.above.getLast? with
  | none => p
  | some (_, node) => ⟨node, []⟩

def down? (p : Place) : Location → Option Place
  | [] => some p
  | name :: rest => (p.node.entries.lookup name).bind fun node => (p.enter name node).down? rest

end Place

namespace FileSystem

/-- Takes steps from a directory. A link on the way is handed to `onLink`, with its directory, its
target and the steps after it. -/
def descend (last : LastName) (onLink : Place → Path → List PathStep → Except IoError Landing)
    (place : Place) : List PathStep → Except IoError Landing
  | [] => .ok (.found place.loc place.node)
  | .here :: rest => descend last onLink place rest
  | .slash :: rest => descend last onLink place rest
  | .up :: rest => descend last onLink place.up rest
  | .tooLong :: rest =>
    .error (if last = .make ∧ rest = [.slash] then .isDirectory else .nameTooLong)
  | .into name :: rest =>
    if last = .make ∧ rest = [.slash] then .error .isDirectory
    else match place.node.entries.lookup name with
      | none => if rest.isEmpty then .ok (.missing place.loc name) else .error .noEntry
      | some (.link target) =>
        if last = .keep ∧ rest = [] then .ok (.found (place.loc ++ [name]) (.link target))
        else onLink place target rest
      | some (.dir entries) => descend last onLink (place.enter name (.dir entries)) rest
      | some node =>
        if rest.isEmpty then .ok (.found (place.loc ++ [name]) node) else .error .notDirectory

def linkStart (target : Path) (place : Place) : Place :=
  if target.isAbsolute then place.top else place

def descendThrough (last : LastName) : Nat → Place → List PathStep → Except IoError Landing
  | 0 => descend last fun _ _ _ => .error .tooManyLinks
  | links + 1 => descend last fun place target rest =>
    match target.steps with
    | .error e => .error e
    | .ok steps => descendThrough last links (linkStart target place) (steps ++ rest)

def maxLinks : Nat := 40

/-- The locations looked at along steps, with those that `onLink` gives for a link. -/
def lookAlong (onLink : Place → Path → List PathStep → List Location) (place : Place) :
    List PathStep → List Location
  | [] => []
  | .here :: rest => lookAlong onLink place rest
  | .slash :: rest => lookAlong onLink place rest
  | .up :: rest => lookAlong onLink place.up rest
  | .tooLong :: _ => []
  | .into name :: rest =>
    (place.loc ++ [name]) :: match place.node.entries.lookup name with
      | some (.link target) => onLink place target rest
      | some (.dir entries) => lookAlong onLink (place.enter name (.dir entries)) rest
      | _ => []

def lookThrough : Nat → Place → List PathStep → List Location
  | 0 => lookAlong fun _ _ _ => []
  | links + 1 => lookAlong fun place target rest =>
    match target.steps with
    | .error _ => []
    | .ok steps => lookThrough links (linkStart target place) (steps ++ rest)

/-- Where a path starts: at the top, or in the working directory if that is there. -/
def startOf? (fs : FileSystem) (p : Path) : Option Place :=
  if p.isAbsolute then some { node := fs.top }
  else (({ node := fs.top } : Place).down? fs.cwd).filter (·.node.isDir)

def depthOf (fs : FileSystem) (p : Path) : Nat := if p.isAbsolute then 0 else fs.process.removed

/-- Takes steps from so many directories down that were taken away, and gives the steps that are left
for the one above them. Such a directory holds nothing. -/
def emerge (last : LastName) : Nat → List PathStep → Except IoError (Option (List PathStep))
  | 0, steps => .ok (some steps)
  | _ + 1, [] => .ok none
  | n + 1, .here :: rest => emerge last (n + 1) rest
  | n + 1, .slash :: rest => emerge last (n + 1) rest
  | n + 1, .up :: rest => emerge last n rest
  | _ + 1, _ :: rest => .error (if last = .make ∧ rest = [.slash] then .isDirectory else .noEntry)

def follow (fs : FileSystem) (last : LastName) (p : Path) (steps : List PathStep) :
    Except IoError Landing :=
  match fs.startOf? p with
  | none => .error .noEntry
  | some place =>
    match emerge last (fs.depthOf p) steps with
    | .error e => .error e
    | .ok none => .ok .removed
    | .ok (some rest) => descendThrough last maxLinks place rest

def land (fs : FileSystem) (last : LastName) (p : Path) : Except IoError Landing := do
  fs.follow last p (← p.stepsWithin)

/-- Where a path leads, with the node there. A directory that was taken away is nowhere. -/
def resolve (fs : FileSystem) (p : Path) : Except IoError (Location × Node) :=
  match fs.land .follow p with
  | .error e => .error e
  | .ok (.missing _ _) => .error .noEntry
  | .ok .removed => .error .isDirectory
  | .ok (.found loc node) => .ok (loc, node)

def isDir (fs : FileSystem) (p : Path) : Bool :=
  match fs.land .follow p with
  | .ok (.found _ node) => node.isDir
  | .ok .removed => true
  | _ => false

def pathOf (loc : Location) : Path :=
  ⟨SourceSnapshot.slash :: [SourceSnapshot.slash].intercalate (loc.map Name.bytes)⟩

/-- The path of the working directory, unless the program runs in one that was taken away. -/
def workingDir? (fs : FileSystem) : Option Path :=
  if fs.process.removed = 0 then some (pathOf fs.cwd) else none

def wayOf (fs : FileSystem) (p : Path) (steps : List PathStep) : List Location :=
  match fs.startOf? p, emerge .follow (fs.depthOf p) steps with
  | some place, .ok (some rest) => lookThrough maxLinks place rest
  | _, _ => []

/-- The location that a path leads to, if there is something. The way there is found name by name: the
path itself may have any length, but not the ones from the root to what lies on the way. -/
def canonical? (fs : FileSystem) (p : Path) : Option Location :=
  match p.steps with
  | .error _ => none
  | .ok steps =>
    if fs.depthOf p ≠ 0 ∨ (fs.wayOf p steps).any fun loc => (pathOf loc).isTooLong then none
    else match fs.follow .follow p steps with
      | .ok (.found loc _) => some loc
      | _ => none

/-- The bytes of the file that a path leads to. The device that is full gives bytes without end to whoever
reads it; it counts as empty here. -/
def read (fs : FileSystem) (p : Path) : Except IoError Bytes :=
  match fs.resolve p with
  | .error e => .error e
  | .ok (_, .file content _) => .ok content
  | .ok (_, .dir _) => .error .isDirectory
  | .ok (_, .tool _) => .ok Tool.code
  | .ok (_, .device _) | .ok (_, .link _) => .ok []

def readText (fs : FileSystem) (p : Path) : Except IoError String :=
  match fs.read p with
  | .error e => .error e
  | .ok bytes =>
    match Utf8.decode? bytes with
    | some text => .ok text
    | none => .error .notText

def list (fs : FileSystem) (p : Path) : Except IoError (List (Name × Node)) :=
  match fs.land .follow p with
  | .error e => .error e
  | .ok (.missing _ _) => .error .noEntry
  | .ok .removed => .ok []
  | .ok (.found _ (.dir entries)) => .ok entries
  | .ok (.found _ _) => .error .notDirectory

end FileSystem
end SourceSnapshot
