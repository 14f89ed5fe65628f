import SourceSnapshot.Environment
import SourceSnapshot.FileSystem.Basic
import SourceSnapshot.Program.Script.Run

/-! Running a program by name: where it is looked for, why it may not start, and what it writes. -/
namespace SourceSnapshot.Program
open Script (Ending)

def describe : Ending → String
  | .status code => s!"exit status: {code}"
  | .signal number => Signal.describe number

structure Run where
  output : Bytes
  ending : Ending

/-! What is handed to a program. -/

def longText : Nat := 131072

def mostHanded : Nat := 2097152

/-- The number of bytes that a text takes besides its own: one behind it, and eight for its place. -/
def textCost : Nat := 9

def checkZeros (texts : List Bytes) : Except IoError Unit :=
  if texts.any (·.contains 0) then .error (.custom .invalidInput "nul byte found in provided data")
  else .ok ()

def checkLengths (texts : List Bytes) : Except IoError Unit :=
  if texts.any (·.length ≥ longText) ||
      texts.foldl (fun n text => n + text.length + textCost) 0 > mostHanded then
    .error .argumentsTooLong
  else .ok ()

def variableTexts (e : Environment) : List Bytes :=
  e.bindings.map fun (name, value) => name ++ Script.byteOf '=' :: value

/-! Scripts. -/

def headLength : Nat := 256

/-- The program that a script names in its first line, and the argument it gives to it. If the line
is longer than what is looked at, the name at least has to be whole. -/
def interpreter? (content : Bytes) : Option (Path × List Bytes) :=
  let head := (content.take headLength).rightpad headLength 0
  match head with
  | 0x23 :: 0x21 :: rest =>
    let isGap (b : UInt8) : Bool := b == 0x20 || b == 0x09
    let isEnd (b : UInt8) : Bool := isGap b || b == 0
    let line := rest.takeWhile (· != 0x0A)
    let isWhole := line.length < rest.length || (rest.dropWhile isGap).any isEnd
    let line := dropWhileEnd isGap (if line.length < rest.length then line else rest.dropLast)
    let line := line.dropWhile isGap
    if !isWhole || line.isEmpty then none
    else
      let name := line.takeWhile (!isEnd ·)
      let behind := line.drop name.length
      let given := if behind.head?.any isGap
        then [(behind.dropWhile isGap).takeWhile (· != 0)] else []
      some (⟨name⟩, given)
  | _ => none

def shellOptions (s : Script.State) (arguments : List Bytes) : Option (Script.State × List Bytes) :=
  match Script.takeOptions arguments s with
  | .ok rest s => some (s, rest.getD [])
  | .error _ _ => none

/-- Runs the shell: it takes a script and what is handed to it. Without a script it finds nothing to
do. -/
def runShell (fs : FileSystem) (e : Environment) (caller : Script.Caller) (arguments : List Bytes) :
    Run :=
  let start : Script.State := {
    fs, caller, name := [], arguments := []
    bindings := Script.firstVariables fs ++ e.bindings }
  match shellOptions start arguments with
  | none => ⟨[], .status Script.misuse⟩
  | some (_, []) => ⟨[], .status 0⟩
  | some (s, name :: arguments) =>
    match fs.read ⟨name⟩ with
    | .error _ => ⟨[], .status Script.misuse⟩
    | .ok text =>
      let (output, ending) := { s with name, arguments }.runScript text
      ⟨output, ending⟩

def runTool (tool : Tool) (fs : FileSystem) (e : Environment) (caller : Script.Caller)
    (arguments : List Bytes) : Run :=
  match tool with
  | .echo => ⟨Script.printArguments true false arguments, .status 0⟩
  | .succeed => ⟨[], .status 0⟩
  | .fail => ⟨[], .status 1⟩
  | .shell => runShell fs e caller arguments

/-- Starts the program at a path. A script is handed to the program that it names, which can be a
script again, but not without end. -/
def start (fs : FileSystem) (e : Environment) (caller : Script.Caller) :
    Nat → Path → List Bytes → Except IoError Run
  | levels, path, arguments => do
    match ← fs.resolve path with
    | (_, .tool tool) =>
      if levels = 0 then .error .tooManyLinks
      checkLengths (variableTexts e ++ path.bytes :: arguments)
      .ok (runTool tool fs e caller arguments)
    | (_, .file content true) =>
      match levels with
      | 0 => .error .tooManyLinks
      | levels + 1 =>
        checkLengths (variableTexts e ++ path.bytes :: arguments)
        match interpreter? content with
        | none => .error .execFormat
        | some (interpreter, given) =>
          start fs e caller levels interpreter (given ++ path.bytes :: arguments)
    | _ => .error .accessDenied

def mostLevels : Nat := 6

/-! Looking for a program. -/

def defaultPlaces : Bytes := Utf8.encode "/bin:/usr/bin"

/-- Tries the places in order. A place that is too long for a path is passed over. So is a program
that may not be started, but it is remembered as the failure to tell. -/
def startFirst (attempt : Path → Except IoError Run) (name : Bytes) (denied : Bool)
    (failure : IoError) : List Bytes → Except IoError Run
  | [] => .error (if denied then .accessDenied else failure)
  | place :: places =>
    if place.length > maxPathLength then startFirst attempt name denied failure places
    else
      match attempt ⟨if place.isEmpty then name else place ++ slash :: name⟩ with
      | .ok run => .ok run
      | .error e =>
        if e = .accessDenied then startFirst attempt name true e places
        else if e = .noEntry ∨ e = .notDirectory then startFirst attempt name denied e places
        else .error e

/-- Runs a program with arguments. A name with a slash is a path; any other is looked for. A program
can start others, but only so many inside one another. -/
def launchWithin : Nat → FileSystem → Environment → Bytes → List Bytes → Except IoError Run
  | 0, _, _, _, _ => .error .noEntry
  | depth + 1, fs, e, name, arguments => do
    let caller : Script.Caller := fun fs searchPath name arguments => do
      let run ← launchWithin depth fs { e with searchPath } name arguments
      return (run.output, run.ending)
    let startAt (path : Path) := start fs e caller mostLevels path arguments
    checkZeros (name :: arguments)
    if name.isEmpty then .error .noEntry
    else if name.contains slash then startAt ⟨name⟩
    else
      let places := cutWhere (· == Script.byteOf ':') (e.searchPath.getD defaultPlaces)
      startFirst startAt name false .noEntry places

def mostPrograms : Nat := 100

def launch (fs : FileSystem) (e : Environment) (name : Bytes) (arguments : List Bytes) :
    Except IoError Run :=
  launchWithin mostPrograms fs e name arguments

end SourceSnapshot.Program
