import SourceSnapshot.Config.Basic
import SourceSnapshot.Ignore.Stack
import SourceSnapshot.Notice

/-! The search for files below a root: depth first, the entries of a directory in the order of their
names. Directories that are excluded are not entered, links to directories are not followed, and one
location, that of the artifact being written, can be left out. `events` lists what is met;
`forEachEvent` meets it while it goes, for a visitor that may stop it. -/
namespace SourceSnapshot

structure FoundFile where
  path : Path
  /-- Its path as seen from the root. -/
  relative : Path
  deriving DecidableEq

inductive Event
  | file (file : FoundFile)
  | notice (notice : Notice)

structure Search where
  fs : FileSystem
  config : Config
  root : Path
  /-- A location whose file is not found, by whatever path. -/
  skip : Option Location := none

namespace Search

/-- A search that leaves out the file that `path` leads to. -/
def skipping (s : Search) (path : Path) : Search := { s with skip := s.fs.canonical? path }

def isSkipped (s : Search) (path : Path) : Bool :=
  match s.skip with
  | none => false
  | some loc => s.fs.canonical? path == some loc

def reaches (s : Search) (depth : Nat) : Bool :=
  match s.config.maxDepth with
  | none => true
  | some limit => depth ≤ limit.toNat

def rules (s : Search) : Option Ignore.Stack :=
  if s.config.respectGitignore then some (.atRoot s.fs s.root) else none

def tooLong (path : Path) : Notice :=
  let name := path.display
  .unreadable s!"{name}: IO error for operation on {name}: {IoError.nameTooLong.message}"

structure Inside where
  rules : Option Ignore.Stack

structure Finding where
  events : List Event
  inside : Option Inside := none

def noticesOf (level : Ignore.Level) : List Event := level.files.map fun file => .notice (.opened file)

/-- What is met at a directory below the root, in which `rules` are in force if they are. The ignore
files in it are read even if it is left out. -/
def findDir (s : Search) (rules : Option Ignore.Stack) (depth : Nat) (path : Path) (name : Name) :
    Finding :=
  let verdict := rules.bind (·.judge path true)
  let judged : List Event := (verdict.map fun verdict => .notice (.judged path verdict)).toList
  let level := rules.map fun _ => Ignore.Level.ofDir s.fs path
  let opened : List Event := (level.map noticesOf).getD []
  if verdict.any (·.ignores) then ⟨judged ++ opened, none⟩
  else if s.config.isExcludedDir name.display then
    ⟨judged ++ .notice (.pruned path) :: opened, none⟩
  else if path.isTooLong then
    ⟨judged ++ opened ++ (if s.reaches (depth + 1) then [.notice (tooLong path)] else []), none⟩
  else ⟨judged ++ opened, some ⟨rules.bind fun rules => level.map rules.enter⟩⟩

def findOther (s : Search) (rules : Option Ignore.Stack) (path : Path) (isLink : Bool) :
    List Event :=
  let verdict := rules.bind (·.judge path false)
  let judged : List Event := (verdict.map fun verdict => .notice (.judged path verdict)).toList
  if verdict.any (·.ignores) then judged
  else if isLink && s.fs.isDir path then judged ++ [.notice (.linkToDir path)]
  else if s.isSkipped path then judged
  else judged ++ [.file ⟨path, path.relativeTo s.root⟩]

def isLink : Node → Bool
  | .link _ => true
  | _ => false

mutual

def eventsAt (s : Search) (rules : Option Ignore.Stack) (depth : Nat) (path : Path) (name : Name) :
    Node → List Event
  | .dir entries =>
    let finding := s.findDir rules depth path name
    finding.events ++
      match finding.inside with
      | none => []
      | some inside =>
        (sortByName (eventsBelow s inside.rules (depth + 1) path entries)).flatMap Prod.snd
  | node => s.findOther rules path (isLink node)

/-- What is met at each of the entries of the directory at `dir`, which lie at the given depth. -/
def eventsBelow (s : Search) (rules : Option Ignore.Stack) (depth : Nat) (dir : Path) :
    List (Name × Node) → List (Name × List Event)
  | [] => []
  | (name, node) :: rest =>
    (name, if s.reaches depth then eventsAt s rules depth (dir.entry name) name node else []) ::
      eventsBelow s rules depth dir rest

end

/-- What is told of the ignore files in force at the root: those above it are read first, the
outermost before the others, and what is wrong with them is told at once. -/
def rulesNotices (rules : Ignore.Stack) : List Event :=
  let above := rules.problemsAbove
  rules.outer.reverse.flatMap noticesOf ++
  (if above.isEmpty then [] else [.notice (.unreadable ("\n".intercalate above))]) ++
  rules.inner.flatMap noticesOf

def userNotices (rules : Ignore.UserRules) : List Event :=
  .notice (.opened rules.file) ::
  if rules.file.problems.isEmpty then [] else [.notice (.remark ("\n".intercalate rules.file.problems))]

/-- What is met before the root. The user's own rules are read even if nothing is searched. -/
def startEvents (s : Search) (rules : Option Ignore.Stack) : List Event :=
  .notice (.beginning s.fs.workingDir?) ::
  if rules.isSome && s.fs.workingDir?.isNone then
    [.notice (.remark "ignoring global gitignore file because CWD is not known")]
  else ((rules.bind (·.userRules)).map userNotices).getD []

def rootEvents (s : Search) (rules : Option Ignore.Stack) : List Event :=
  if s.fs.isDir s.root then (rules.map rulesNotices).getD []
  else match s.fs.resolve s.root with
    | .ok _ => []
    | .error e =>
      let root := s.root.display
      [.notice (.unreadable s!"{root}: IO error for operation on {root}: {e.message}")]

def rootEntries (s : Search) : List (Name × Node) :=
  match s.fs.resolve s.root with
  | .ok (_, node) => node.entries
  | .error _ => []

/-- The name of the standard input, which is no root: nothing is found in it. -/
def isStandardInput (root : Path) : Bool := root.components == [.name [0x2D]]

def events (s : Search) : List Event :=
  let rules := s.rules
  s.startEvents rules ++
    if isStandardInput s.root then []
    else s.rootEvents rules ++ (sortByName (eventsBelow s rules 1 s.root s.rootEntries)).flatMap Prod.snd

def fileOf? : Event → Option FoundFile
  | .file file => some file
  | .notice _ => none

def files (s : Search) : List FoundFile := s.events.filterMap fileOf?

section Visiting
variable {m : Type → Type} [Monad m] (look : m FileSystem) (visit : Event → m Unit)

mutual

/-- Visits what is met at an entry and below it. What files hold is looked up as it is by then. -/
def visitAt (s : Search) (rules : Option Ignore.Stack) (depth : Nat) (path : Path) (name : Name) :
    Node → m Unit
  | .dir entries => do
    let finding := findDir { s with fs := ← look } rules depth path name
    finding.events.forM visit
    match finding.inside with
    | none => pure ()
    | some inside =>
      (sortByName (visitsBelow s inside.rules (depth + 1) path entries)).forM Prod.snd
  | node => do (findOther { s with fs := ← look } rules path (isLink node)).forM visit

/-- The visits to the entries of the directory at `dir`, which lie at the given depth. -/
def visitsBelow (s : Search) (rules : Option Ignore.Stack) (depth : Nat) (dir : Path) :
    List (Name × Node) → List (Name × m Unit)
  | [] => []
  | (name, node) :: rest =>
    (name, if s.reaches depth then visitAt s rules depth (dir.entry name) name node else pure ()) ::
      visitsBelow s rules depth dir rest

end

/-- Visits all that is met as the search goes on, until the visitor fails. Files may be written meanwhile;
`look` tells what they hold. -/
def forEachEventIn (s : Search) : m Unit := do
  let now : Search := { s with fs := ← look }
  let rules := now.rules
  (now.startEvents rules).forM visit
  if isStandardInput s.root then pure ()
  else do
    (now.rootEvents rules).forM visit
    (sortByName (visitsBelow look visit s rules 1 s.root s.rootEntries)).forM Prod.snd

end Visiting

def forEachEvent {m : Type → Type} [Monad m] (s : Search) (visit : Event → m Unit) : m Unit :=
  s.forEachEventIn (pure s.fs) visit

def forEachFile {m : Type → Type} [Monad m] (s : Search) (visit : FoundFile → m Unit) : m Unit :=
  s.forEachEvent fun
    | .file file => visit file
    | .notice _ => pure ()

end Search
end SourceSnapshot
