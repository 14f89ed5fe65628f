import SourceSnapshot.Program.Script.Expression
import SourceSnapshot.Program.Script.Format
import SourceSnapshot.Program.Script.Wildcard
import SourceSnapshot.Program.Signal

/-! What a script knows and has done while it runs, and how values are put together to words. Only
what it writes to its standard output and how it ends are kept of it. -/
namespace SourceSnapshot.Script

inductive Ending
  | status (code : Nat)
  | signal (number : Nat)
  deriving DecidableEq

inductive Leave
  /-- The script ends. -/
  | script (ending : Ending)
  /-- So many loops are left; the last one goes on if `again`. -/
  | loops (levels : Nat) (again : Bool)
  /-- What was called by its name is left. -/
  | call

/-- Starts a program in some places with arguments: what it writes and how it ends. -/
abbrev Caller := FileSystem → Option Bytes → Bytes → List Bytes → Except IoError (Bytes × Ending)

structure State where
  fs : FileSystem
  caller : Caller
  /-- The script as it was called. -/
  name : Bytes
  arguments : List Bytes
  bindings : Variables := []
  definitions : List (Bytes × Command) := []
  status : Nat := 0
  /-- The status of the script whose output was last taken into a word. -/
  taken : Nat := 0
  /-- What was written, the latest first. -/
  output : List Bytes := []
  /-- What is left to read. -/
  input : Bytes := []
  /-- Whether what is written is kept. -/
  keepsOutput : Bool := true
  /-- Whether messages go where the output goes. -/
  keepsMessages : Bool := false
  /-- The letters of the settings that are on. -/
  settings : Bytes := []
  /-- The number of loops around the command at hand. -/
  loops : Nat := 0
  /-- The values that variables get back when what was called by its name is left; none outside. -/
  saved : Option (List (Bytes × Option Bytes)) := none
  /-- The variables that may not be changed. -/
  fixed : List Bytes := []
  /-- What is done at a signal, by its number; number 0 is the end of the script. -/
  traps : List (Nat × Bytes) := []
  /-- The signals that have come and were not yet answered. -/
  arrived : List Nat := []

abbrev Act := EStateM Leave State

def refused : Nat := 126

def unknown : Nat := 127

def giveUp {α : Type} : Act α := throw (.script (.status misuse))

def setStatus (status : Nat) : Act Unit := modify ({ · with status })

def write (text : Bytes) : Act Unit :=
  modify fun s => if s.keepsOutput then { s with output := text :: s.output } else s

def State.written (s : State) : Bytes := s.output.reverse.flatten

/-! Variables. -/

def State.lookup (s : State) (name : Bytes) : Option Bytes := s.bindings.lookup name

def without (name : Bytes) (bindings : Variables) : Variables := bindings.filter (·.1 != name)

def putVariable (name : Bytes) (value : Option Bytes) : Act Unit :=
  modify fun s => { s with
    bindings := (value.map fun value => (name, value)).toList ++ without name s.bindings }

def setVariable (name value : Bytes) : Act Unit := do
  if (← get).fixed.contains name then giveUp else putVariable name (some value)

/-! Settings. -/

/-- The letters of all settings, in the order in which they are shown: the script ends when a command
fails, words are not taken for patterns of paths, nothing is run, and so on. -/
def settingLetters : Bytes := ['e', 'f', 'n', 'x', 'v', 'u', 'a', 'b', 'C', 'm', 'I', 'E', 'V'].map byteOf

def State.has (s : State) (letter : Char) : Bool := s.settings.contains (byteOf letter)

def State.separators (s : State) : Bytes := (s.lookup (Utf8.encode "IFS")).getD [0x20, 0x09, 0x0A]

def isSoft (b : UInt8) : Bool := isBlank b || b = lineFeed

def State.joiner (s : State) : Bytes := s.separators.take 1

/-! Words. -/

def processWord : Bytes := Utf8.encode "self"

structure Expansion where
  words : List Marked := []
  word : Option Marked := none
  ended : Bool := false

namespace Expansion

def add (e : Expansion) (text : Marked) : Expansion :=
  { e with word := some (e.word.getD [] ++ text), ended := false }

def endWord (e : Expansion) : Expansion := ⟨e.words ++ e.word.toList, none, false⟩

/-- Adds quoted words with ends between them. No words are not even an empty one. -/
def addWords (e : Expansion) : List Bytes → Expansion
  | [] => if e.word = some [] then { e with word := none } else e
  | [word] => e.add (.ofBytes true word)
  | word :: rest => (e.add (.ofBytes true word)).endWord.addWords rest

/-- Adds a text that is cut into words at separators. Blanks around another separator belong to it.
-/
def addCut (e : Expansion) (separators : Bytes) (text : Bytes) : Expansion :=
  let (e, run) := text.foldl (fun (e, run) b =>
    if !separators.contains b then (e, b :: run)
    else
      let e : Expansion := if run.isEmpty then e else e.add (.ofBytes false run.reverse)
      if isSoft b then
        (if e.word.isSome then { e.endWord with ended := true } else e, [])
      else if e.word.isSome then (e.endWord, [])
      else if e.ended then ({ e with ended := false }, [])
      else ({ e with words := e.words ++ [[]] }, [])) (e, ([] : Bytes))
  if run.isEmpty then e else e.add (.ofBytes false run.reverse)

def addArguments (e : Expansion) (separators : Bytes) : List Bytes → Expansion
  | [] => e
  | [argument] => e.addCut separators argument
  | argument :: rest => (e.addCut separators argument).endWord.addArguments separators rest

end Expansion

def State.value? (s : State) : Parameter → Option Bytes
  | .count => some (Utf8.encodeChars (Numeral.digits s.arguments.length))
  | .arguments => some ([blankByte].intercalate s.arguments)
  | .line => some (s.joiner.intercalate s.arguments)
  | .argument 0 => some s.name
  | .argument (number + 1) => s.arguments[number]?
  | .status => some (Utf8.encodeChars (Numeral.digits s.status))
  | .process => some processWord
  | .settings => some (settingLetters.filter s.settings.contains)
  | .variable name => s.lookup name

def isAll : Parameter → Bool
  | .arguments | .line => true
  | _ => false

inductive Cutting
  | nothing
  | values
  /-- Also the unquoted text itself, since it stands inside a value. -/
  | everything
  deriving DecidableEq

def State.addText (s : State) (cutting : Cutting) (e : Expansion) (text : Bytes) (quoted : Bool) :
    Expansion :=
  if quoted || cutting = .nothing then e.add (.ofBytes quoted text)
  else e.addCut s.separators text

def State.addValue (s : State) (cutting : Cutting) (e : Expansion) (parameter : Parameter)
    (quoted : Bool) : Expansion :=
  if isAll parameter && !quoted && cutting != .nothing then e.addArguments s.separators s.arguments
  else if parameter = .arguments && quoted && cutting != .nothing then e.addWords s.arguments
  else s.addText cutting e ((s.value? parameter).getD []) quoted

/-! Assignments. -/

def assignment? : Word → Option (Bytes × Word)
  | .text bytes false :: parts =>
    let name := bytes.takeWhile (· != byteOf '=')
    if isName name && name.length < bytes.length then
      let value := bytes.drop (name.length + 1)
      some (name, if value.isEmpty then parts else .text value false :: parts)
    else none
  | _ => none

def splitAssignments : List Word → List (Bytes × Word) × List Word
  | [] => ([], [])
  | word :: rest =>
    match assignment? word with
    | none => ([], word :: rest)
    | some assignment =>
      let (assignments, rest) := splitAssignments rest
      (assignment :: assignments, rest)

end SourceSnapshot.Script
