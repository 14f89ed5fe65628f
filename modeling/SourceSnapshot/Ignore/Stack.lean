import SourceSnapshot.Ignore.Global

/-! The ignore files in force at a directory: its own, those of the directories above it in the
walk, and those of the directories above the root. There are three files to a directory. For each of
the three the nearest directory with a verdict counts, and of the three the first with a verdict; what the
user's own file says counts last. -/
namespace SourceSnapshot.Ignore

inductive Source
  | ignore
  | gitignore
  | exclude
  deriving DecidableEq

def Source.all : List Source := [ignore, gitignore, exclude]

structure Level where
  dir : Path
  ignore : Option RuleFile
  gitignore : Option RuleFile
  exclude : Option RuleFile
  /-- What is wrong with the place for the third. -/
  misplaced : Option String := none
  stem : Option Bytes := stemOf dir

namespace Level

def ofDir (fs : FileSystem) (dir : Path) : Level :=
  let place := excludeFile? fs dir
  { dir
    ignore := RuleFile.read? fs (dir.join (.ofString ".ignore"))
    gitignore := RuleFile.read? fs (dir.join (.ofString ".gitignore"))
    exclude := match place with
      | .ok file => file.bind (RuleFile.read? fs)
      | .error _ => none
    misplaced := match place with
      | .ok _ => none
      | .error problem => some problem }

def file? (l : Level) : Source → Option RuleFile
  | .ignore => l.ignore
  | .gitignore => l.gitignore
  | .exclude => l.exclude

def files (l : Level) : List RuleFile := Source.all.filterMap l.file?

def problems (l : Level) : List String :=
  l.files.flatMap RuleFile.problems ++ l.misplaced.toList

def judge (l : Level) (source : Source) (path : Path) (isDir : Bool) : Option Verdict :=
  (l.file? source).bind fun file => file.judge (seenFrom l.stem path) isDir

end Level

structure Stack where
  inner : List Level
  /-- Levels above the root, whose paths are absolute. -/
  outer : List Level := []
  /-- The absolute path of the root. -/
  base : Path := ⟨[]⟩
  /-- What paths begin with by which things below the root are met. -/
  stem : Option Bytes := none
  userRules : Option UserRules := none

def pathsAbove (loc : Location) : List Path :=
  (List.range loc.length).reverse.map fun n => FileSystem.pathOf (loc.take n)

namespace Stack

def atRoot (fs : FileSystem) (root : Path) : Stack :=
  let loc := (fs.canonical? root).getD []
  { inner := [.ofDir fs root]
    outer := (pathsAbove loc).map (.ofDir fs)
    base := FileSystem.pathOf loc
    stem := stemOf root
    userRules := UserRules.read? fs }

def problemsAbove (s : Stack) : List String := s.outer.reverse.flatMap Level.problems

def enter (s : Stack) (level : Level) : Stack := { s with inner := level :: s.inner }

def absolute (s : Stack) (path : Path) : Path :=
  s.base.join (match s.stem with
    | none => path
    | some stem => ⟨dropFront [slash] (dropFront stem path.bytes)⟩)

def judge (s : Stack) (path : Path) (isDir : Bool) : Option Verdict :=
  let path := undotted path
  let absolute := s.absolute path
  (Source.all.findSome? fun source =>
    (s.inner.findSome? fun level => level.judge source path isDir).orElse fun _ =>
      s.outer.findSome? fun level => level.judge source absolute isDir).orElse fun _ =>
    s.userRules.bind fun rules => rules.judge path isDir

end Stack
end SourceSnapshot.Ignore
