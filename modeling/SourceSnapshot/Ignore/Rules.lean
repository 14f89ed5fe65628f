import SourceSnapshot.FileSystem.Basic
import SourceSnapshot.Ignore.Glob
import SourceSnapshot.Text.Blank
import SourceSnapshot.Text.Numeral

/-! Ignore files: one rule a line, of which the last one that matches decides. -/
namespace SourceSnapshot.Ignore

structure Rule where
  /-- The line that gives it, without the blanks at its end. -/
  line : String
  pattern : String
  /-- What the pattern is made of. -/
  tokens : List Glob.Token
  /-- The rule keeps what it matches. -/
  keeps : Bool
  /-- The rule is for directories alone. -/
  onlyDirs : Bool

/-- The pattern of a line once its marks are taken off: without a slash in it, it may match at any
depth, and what ends in all that lies beneath a directory does not match the directory itself. -/
def completePattern (anchored : Bool) (pattern : List Char) : List Char :=
  let floating := !anchored && !pattern.contains '/' && pattern != ['*', '*']
  let placed := if floating then ['*', '*', '/'] ++ pattern else pattern
  if ['/', '*', '*'].isSuffixOf placed then placed ++ ['/', '*'] else placed

/-- The rule of a line, if it has one; a pattern that cannot be read is described. -/
def ruleOf (line : List Char) : Except String (Option Rule) :=
  if line.head? = some '#' then .ok none
  else
    let line := if ['\\', ' '].isSuffixOf line then line else Blank.trimEnd line
    if line.isEmpty then .ok none
    else
      let escaped := ['\\', '!'].isPrefixOf line || ['\\', '#'].isPrefixOf line
      let keeps := !escaped && line.head? = some '!'
      let pattern := if escaped || keeps then line.drop 1 else line
      let anchored := !escaped && pattern.head? = some '/'
      let pattern := if anchored then pattern.drop 1 else pattern
      let onlyDirs := pattern.getLast? = some '/'
      let pattern :=
        if onlyDirs then
          let bare := pattern.dropLast
          if bare.getLast? = some '\\' then bare.dropLast else bare
        else pattern
      let pattern := completePattern anchored pattern
      let line := String.ofList line
      match Glob.parse pattern with
      | .ok tokens => .ok (some { line, pattern := String.ofList pattern, tokens, keeps, onlyDirs })
      | .error problem => .error ("error parsing glob '" ++ line ++ "': " ++ problem.message)

/-- The lines of a file, without their ends. A last line that nothing ends keeps a carriage return.
-/
def fileLines (bytes : Bytes) : List Bytes :=
  let parts := cutWhere (· == 10) bytes
  let ended := parts.dropLast.map fun line =>
    if line.getLast? = some 13 then line.dropLast else line
  match parts.getLast? with
  | some [] | none => ended
  | some last => ended ++ [last]

/-- The lines that are text, up to the first that is not; marks of byte order before the first line
are left out. -/
def textLines (lines : List Bytes) : List (List Char) :=
  let texts := (lines.map Utf8.decode?).takeWhile Option.isSome
  match texts.filterMap (·.map String.toList) with
  | [] => []
  | first :: rest => first.dropWhile (· == '\uFEFF') :: rest

/-- The rules of a file in order, and what is wrong with the lines that have none. A line that is
not text ends the file; that alone is not worth telling. -/
def readRules (bytes : Bytes) : List Rule × List String :=
  let lines := fileLines bytes
  let texts := textLines lines
  let read := (texts.zipIdx 1).map fun (line, n) => (ruleOf line, n)
  let problems := read.filterMap fun
    | (.ok _, _) => none
    | (.error problem, n) => some s!"line {n}: {problem}"
  let cut := if problems.isEmpty || texts.length = lines.length then []
    else [s!"line {texts.length + 1}: {IoError.notText.message}"]
  (read.filterMap fun
    | (.ok rule, _) => rule
    | (.error _, _) => none,
   problems ++ cut)

structure RuleFile where
  path : Path
  rules : List Rule
  /-- What is wrong with it. -/
  problems : List String

def RuleFile.ofBytes (path : Path) (bytes : Bytes) : RuleFile :=
  let (rules, problems) := readRules bytes
  { path, rules, problems := problems.map fun problem => path.display ++ ": " ++ problem }

/-- Reads the file at a path, if it can be opened. A directory can, and has no rules. -/
def RuleFile.read? (fs : FileSystem) (path : Path) : Option RuleFile :=
  match fs.read path with
  | .ok bytes => some (.ofBytes path bytes)
  | .error e => if e = .isDirectory then some { path, rules := [], problems := [] } else none

def dropFront (front text : Bytes) : Bytes :=
  if front.isPrefixOf text then text.drop front.length else text

def undotted (p : Path) : Path := ⟨dropFront [dot, slash] p.bytes⟩

/-- What paths in a directory begin with; nothing if the directory is that of the walk itself. -/
def stemOf (dir : Path) : Option Bytes :=
  let root := undotted dir
  if root.components = [.here] then none else some root.bytes

def seenFrom (stem : Option Bytes) (path : Path) : Bytes :=
  let path := (undotted path).bytes
  match stem with
  | none => path
  | some stem =>
    if path.contains slash && stem.isPrefixOf path then
      dropFront [slash] (path.drop stem.length)
    else path

structure Verdict where
  file : Path
  rule : Rule

def Verdict.ignores (v : Verdict) : Bool := !v.rule.keeps

/-- What the rules of a file say about a path: the last that matches decides. -/
def RuleFile.judge (f : RuleFile) (path : Bytes) (isDir : Bool) : Option Verdict :=
  (f.rules.reverse.find? fun rule =>
    (!rule.onlyDirs || isDir) && Glob.isMatch rule.tokens path).map fun rule => ⟨f.path, rule⟩

end SourceSnapshot.Ignore
