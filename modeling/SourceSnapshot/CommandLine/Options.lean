import SourceSnapshot.CommandLine.Argument
import SourceSnapshot.Config.Basic
import SourceSnapshot.Environment
import SourceSnapshot.Text.Numeral

/-! Reading a command line. It is read from left to right, and the first thing wrong in it is
reported; an option's value is judged when the next argument that means something is met. -/
namespace SourceSnapshot.CommandLine

inductive DrawingMode
  | external
  | builtin
  | none
  deriving DecidableEq

structure Options where
  path : Path := ⟨[dot]⟩
  output : Option Path := none
  config : Option Path := none
  extensions : List String := []
  excludeDirs : List String := []
  excludeFiles : List String := []
  level : Option UInt64 := none
  maxDepth : Option UInt64 := none
  gitignore : Bool := false
  drawing : DrawingMode := .external
  json : Bool := false
  color : ColorMode := .auto
  verbosity : Nat := 0

inductive UsageError
  | unexpectedArgument (text : String)
  | missingValue (a : Argument)
  | invalidValue (a : Argument) (value : String) (problem : Option String)
  /-- A value was attached to an argument that takes none. -/
  | unneededValue (a : Argument) (value : String)
  | repeated (a : Argument)
  | notText
  deriving DecidableEq

def UsageError.message : UsageError → String
  | .unexpectedArgument text => s!"unexpected argument '{text}' found"
  | .missingValue a => s!"a value is required for '{a.display}' but none was supplied"
  | .invalidValue a value problem =>
    s!"invalid value '{value}' for '{a.display}'" ++
      (match problem with
        | some problem => ": " ++ problem
        | none => "")
  | .unneededValue a value =>
    s!"unexpected value '{value}' for '{a.display}' found; no more were expected"
  | .repeated a => s!"the argument '{a.display}' cannot be used multiple times"
  | .notText => "invalid UTF-8 was detected in one or more arguments"

inductive Stop
  | usage (e : UsageError)
  /-- The help text is asked for, the long one if `full`. -/
  | help (full : Bool)
  | version
  deriving DecidableEq

structure State where
  options : Options := {}
  /-- The arguments met that may be met only once. -/
  met : List Argument := []
  /-- The argument met last, if it has or may have a value that was not judged yet. -/
  pending : Option (Argument × Option Bytes) := none
  /-- Whether the pending argument waits for its value. -/
  waiting : Bool := false
  /-- Whether the path was given. -/
  pathGiven : Bool := false

abbrev Reading := Except Stop

private def refuse {α : Type} (e : UsageError) : Reading α := .error (.usage e)

def textValue (value : Bytes) : Reading String :=
  match Utf8.decode? value with
  | some text => .ok text
  | none => refuse .notText

def pathValue (a : Argument) (value : Bytes) : Reading Path :=
  if value.isEmpty then refuse (.missingValue a) else .ok ⟨value⟩

def maxNumber : Nat := 18446744073709551615

def numberValue (a : Argument) (least : Nat) (value : Bytes) : Reading UInt64 := do
  let text ← textValue value
  match Numeral.readUpTo maxNumber text.toList with
  | .error e => refuse (.invalidValue a text e.message)
  | .ok n =>
    if least ≤ n then .ok (UInt64.ofNat n)
    else refuse (.invalidValue a text s!"{n} is not in {least}..{maxNumber}")

def choiceValue {α : Type} (a : Argument) (meanings : List (String × α)) (value : Bytes) :
    Reading α :=
  if value.isEmpty then refuse (.missingValue a)
  else
    let text := Utf8.decodeLossy value
    match (Utf8.decode? value).bind (List.lookup · meanings) with
    | some meaning => .ok meaning
    | none => refuse (.invalidValue a text none)

def drawingModes : List (String × DrawingMode) :=
  [("external", .external), ("builtin", .builtin), ("none", .none)]

def colorModes : List (String × ColorMode) :=
  [("auto", .auto), ("always", .always), ("never", .never)]

def setValue (o : Options) (a : Argument) (value : Bytes) : Reading Options := do
  match a with
  | .path => return { o with path := ← pathValue a value }
  | .output => return { o with output := some (← pathValue a value) }
  | .config => return { o with config := some (← pathValue a value) }
  | .ext => return { o with extensions := o.extensions ++ [← textValue value] }
  | .excludeDir => return { o with excludeDirs := o.excludeDirs ++ [← textValue value] }
  | .excludeFile => return { o with excludeFiles := o.excludeFiles ++ [← textValue value] }
  | .level => return { o with level := some (← numberValue a 1 value) }
  | .maxDepth => return { o with maxDepth := some (← numberValue a 0 value) }
  | .drawing => return { o with drawing := ← choiceValue a drawingModes value }
  | .color => return { o with color := ← choiceValue a colorModes value }
  | .gitignore | .json | .verbose | .help | .version => return o

def State.meet (s : State) (a : Argument) : Reading State :=
  if a.isRepeatable then .ok s
  else if a ∈ s.met then refuse (.repeated a)
  else .ok { s with met := a :: s.met }

/-- Judges the value of an argument; one that takes a value has to have it. -/
def State.judge (s : State) (a : Argument) (value : Option Bytes) : Reading State :=
  match value with
  | none => refuse (.missingValue a)
  | some value => do
    let s ← s.meet a
    return { s with options := ← setValue s.options a value }

def State.settle (s : State) : Reading State :=
  match s.pending with
  | none => .ok s
  | some (a, value) => State.judge { s with pending := none, waiting := false } a value

/-- Takes an argument without a value; `full` says that it was given by its long name. -/
def State.takeFlag (s : State) (a : Argument) (full : Bool) : Reading State := do
  let s ← s.settle
  match a with
  | .help => .error (.help full)
  | .version => .error .version
  | _ =>
    let s ← s.meet a
    let o := s.options
    return { s with options := match a with
      | .gitignore => { o with gitignore := true }
      | .json => { o with json := true }
      | .verbose => { o with verbosity := o.verbosity + 1 }
      | _ => o }

def State.takeOption (s : State) (a : Argument) (attached : Option Bytes) : Reading State := do
  let s ← s.settle
  match attached with
  | some value => s.judge a (some value)
  | none => return { s with pending := some (a, none), waiting := true }

private def equalsSign : UInt8 := 0x3D

def State.takeLong (s : State) (text : Bytes) : Reading State :=
  let name := text.takeWhile (· != equalsSign)
  let attached := match text.dropWhile (· != equalsSign) with
    | [] => none
    | _ :: value => some value
  match (Utf8.decode? name).bind Argument.ofLong? with
  | none => refuse (.unexpectedArgument ("--" ++ Utf8.decodeLossy name))
  | some a =>
    if a.valueName?.isSome then s.takeOption a attached
    else match attached with
      | some value => refuse (.unneededValue a (Utf8.decodeLossy value))
      | none => s.takeFlag a true

/-- Each character of a text with the bytes after it; an invalid run has the bytes from it on. -/
def withRest (text : Bytes) : List (Option Char) → List (Option Char × Bytes)
  | [] => []
  | none :: more => (none, text) :: withRest text more
  | some c :: more => (some c, text.drop c.utf8Size) :: withRest (text.drop c.utf8Size) more

/-- Takes the letters after one dash. The first that stands for an option with a value takes the
rest for it, without an equals sign in front. -/
def State.takeLetters (s : State) : List (Option Char × Bytes) → Reading State
  | [] => .ok s
  | (none, text) :: _ => refuse (.unexpectedArgument ("-" ++ Utf8.decodeLossy text))
  | (some letter, text) :: rest =>
    match Argument.ofShort? letter with
    | none => refuse (.unexpectedArgument ("-" ++ letter.toString))
    | some a =>
      if a.valueName?.isSome then
        s.takeOption a (match text with
          | [] => none
          | b :: value => some (if b = equalsSign then value else b :: value))
      else do (← s.takeFlag a false).takeLetters rest

def State.takeShort (s : State) (text : Bytes) : Reading State :=
  s.takeLetters (withRest text (Utf8.read text))

def State.takePath (s : State) (text : Bytes) : Reading State :=
  if s.pathGiven then refuse (.unexpectedArgument (Utf8.decodeLossy text))
  else do
    let s ← s.settle
    return { s with pending := some (.path, some text), pathGiven := true }

def State.takePaths (s : State) : List Bytes → Reading State
  | [] => .ok s
  | text :: rest => do (← s.takePath text).takePaths rest

/-- Takes arguments in order. Two dashes alone end the options. -/
def State.takeAll (s : State) : List Bytes → Reading State
  | [] => .ok s
  | text :: rest =>
    match text with
    | [0x2D, 0x2D] => State.takePaths { s with waiting := false } rest
    | 0x2D :: 0x2D :: name => do (← s.takeLong name).takeAll rest
    | 0x2D :: b :: letters => do (← s.takeShort (b :: letters)).takeAll rest
    | _ =>
      match s.waiting, s.pending with
      | true, some (a, _) =>
        State.takeAll { s with pending := some (a, some text), waiting := false } rest
      | _, _ => do (← s.takePath text).takeAll rest

def parse (arguments : List Bytes) : Reading Options := do
  let s ← State.takeAll {} arguments
  let s ← s.settle
  return s.options

end SourceSnapshot.CommandLine
