import SourceSnapshot.Program.Script.Condition
import SourceSnapshot.Program.Script.State

/-! The commands that a script itself knows. -/
namespace SourceSnapshot.Script

private def number? (word : Bytes) : Option Nat :=
  if word.isEmpty || !word.all isDigit then none else some (numeralOf word)

/-! Signals. -/

def signalOf? (word : Bytes) : Option Nat :=
  match number? word with
  | some number => if number ≤ Signal.greatest then some number else none
  | none => Signal.ofName? (Utf8.decodeLossy word)

def kill (signal : Option Nat) (target : Bytes) : Act Unit :=
  match signal with
  | none => setStatus misuse
  | some number => do
    if target != processWord then setStatus 1
    else
      setStatus 0
      let s ← get
      if number != 0 && !Signal.isUnstoppable number && (s.traps.lookup number).isSome then
        set { s with arrived := s.arrived ++ [number] }
      else if !Signal.isHarmless number then throw (.script (.signal number))

def setTraps (words : List Bytes) : Act Unit := do
  let act (action : Option Bytes) (names : List Bytes) : Act Unit := do
    setStatus 0
    names.forM fun name => do
      let number := if Utf8.decodeLossy name = "EXIT" then some 0 else signalOf? name
      match number with
      | none => setStatus 1
      | some number =>
        let added := (action.map fun action => (number, action)).toList
        modify fun s => { s with traps := added ++ s.traps.filter (·.1 != number) }
  match words with
  | [] => setStatus 0
  | [name] => act none [name]
  | action :: names =>
    let isNothing := action = [byteOf '-'] || (number? action).isSome
    act (if isNothing then none else some action)
      (if (number? action).isSome then words else names)

/-! Reading. -/

/-- A line, with what is left of a text, and whether the line is whole. A backslash hides the byte
after it, and a line feed after it is left out, unless the line is taken as it is. -/
def takeLine (asIs : Bool) (s : Bytes) : Marked × Bytes × Bool :=
  match s with
  | [] => ([], [], false)
  | b :: rest =>
    if b = lineFeed then ([], rest, true)
    else if b = byteOf '\\' && !asIs then
      match rest with
      | [] => ([], [], false)
      | hidden :: rest =>
        let (line, rest, isWhole) := takeLine asIs rest
        (if hidden = lineFeed then line else (hidden, true) :: line, rest, isWhole)
    else
      let (line, rest, isWhole) := takeLine asIs rest
      ((b, false) :: line, rest, isWhole)

/-- Gives the words of a line to variables; the last one takes all that is left. -/
def shareOut (separators : Bytes) : List Bytes → Marked → List (Bytes × Bytes)
  | [], _ => []
  | names, line =>
    let isGap (mark : UInt8 × Bool) : Bool := !mark.2 && isSoft mark.1 && separators.contains mark.1
    let isEnd (mark : UInt8 × Bool) : Bool := !mark.2 && separators.contains mark.1
    let line := line.dropWhile isGap
    match names with
    | [] => []
    | [name] =>
      let value := dropWhileEnd isGap line
      -- one separator behind a single word goes with it
      let word := value.takeWhile (!isEnd ·)
      let behind := (value.drop word.length).dropWhile isGap
      let isSingle := behind.length = 1 && behind.all isEnd
      [(name, Marked.bytes (if isSingle then word else value))]
    | name :: names =>
      let word := line.takeWhile (!isEnd ·)
      let rest := (line.drop word.length).dropWhile isGap
      let rest := if rest.head?.any isEnd then rest.drop 1 else rest
      (name, Marked.bytes word) :: shareOut separators names rest

def readLine (words : List Bytes) : Act Unit := do
  let asIs := words.head? = some (Utf8.encode "-r")
  let names := if asIs then words.drop 1 else words
  if names.isEmpty || !names.all isName then setStatus misuse
  else
    let s ← get
    let (line, rest, isWhole) := takeLine asIs s.input
    set { s with input := rest }
    (shareOut s.separators names line).forM fun (name, value) => setVariable name value
    setStatus (if isWhole then 0 else 1)

/-! Settings. -/

def setOptions (on : Bool) (letters : Bytes) : Act Unit :=
  letters.forM fun letter => do
    if !settingLetters.contains letter then giveUp
    modify fun s =>
      let others := s.settings.filter (· != letter)
      { s with settings := if on then letter :: others else others }

/-- Takes options from the front of words; gives the words behind them if there are any or two
dashes end the options. -/
def takeOptions : List Bytes → Act (Option (List Bytes))
  | [] => return none
  | word :: rest => do
    match word with
    | [sign] => return if sign = byteOf '-' && rest.isEmpty then none else some (word :: rest)
    | sign :: letters =>
      if word = Utf8.encode "--" then return some rest
      else if sign = byteOf '-' || sign = byteOf '+' then
        setOptions (sign = byteOf '-') letters
        takeOptions rest
      else return some (word :: rest)
    | [] => return some (word :: rest)

def change (words : List Bytes) : Act Unit := do
  match ← takeOptions words with
  | none => pure ()
  | some arguments => modify ({ · with arguments })
  setStatus 0

def shift (words : List Bytes) : Act Unit := do
  match words with
  | [] =>
    if (← get).arguments.isEmpty then giveUp
    modify fun s => { s with arguments := s.arguments.drop 1 }
  | word :: _ =>
    match number? word with
    | none => giveUp
    | some number =>
      if (← get).arguments.length < number then giveUp
      modify fun s => { s with arguments := s.arguments.drop number }
  setStatus 0

/-- Sets variables in words like `name=value`, after doing something with each name. -/
def declare (first last : Bytes → Act Unit) (words : List Bytes) : Act Unit := do
  words.forM fun word => do
    let name := word.takeWhile (· != byteOf '=')
    if isName name then
      first name
      if name.length < word.length then setVariable name (word.drop (name.length + 1))
      last name
    else if word.head? != some (byteOf '-') then giveUp
  setStatus 0

def save (name : Bytes) : Act Unit := do
  let s ← get
  match s.saved with
  | none => giveUp
  | some saved => set { s with saved := some ((name, s.lookup name) :: saved) }

def fix (name : Bytes) : Act Unit := modify fun s => { s with fixed := name :: s.fixed }

def forget (words : List Bytes) : Act Unit := do
  let ofDefinitions := words.head? = some (Utf8.encode "-f")
  words.forM fun word => do
    if ofDefinitions then
      modify fun s => { s with definitions := s.definitions.filter (·.1 != word) }
    else if isName word then
      if (← get).fixed.contains word then giveUp else putVariable word none
    else if word.head? != some (byteOf '-') then giveUp
  setStatus 0

def placeName : Bytes := Utf8.encode "PWD"

def firstVariables (fs : FileSystem) : Variables := [
  (placeName, (FileSystem.pathOf fs.cwd).bytes),
  (Utf8.encode "IFS", [0x20, 0x09, 0x0A]),
  (Utf8.encode "OPTIND", Utf8.encode "1"),
  (Utf8.encode "PS1", Utf8.encode "# "),
  (Utf8.encode "PS2", Utf8.encode "> "),
  (Utf8.encode "PS4", Utf8.encode "+ ")]

def goTo (words : List Bytes) : Act Unit := do
  let s ← get
  match words with
  | [] => setStatus 0
  | target :: _ =>
    match s.fs.resolve ⟨target⟩ with
    | .ok (loc, .dir _) =>
      set { s with fs := { s.fs with cwd := loc, process := { s.fs.process with removed := 0 } } }
      setVariable placeName (FileSystem.pathOf loc).bytes
      setStatus 0
    | _ => setStatus misuse

/-! All of them. -/

def statusOf (words : List Bytes) : Act Nat := do
  match words with
  | [] => return (← get).status
  | word :: _ =>
    match number? word with
    | some number => return number
    | none => giveUp

def levelsOf (words : List Bytes) : Act Nat := do
  match words with
  | [] => return 1
  | word :: _ =>
    match number? word with
    | some number => if number = 0 then giveUp else return number
    | none => giveUp

def leave (again : Bool) (words : List Bytes) : Act Unit := do
  let levels ← levelsOf words
  setStatus 0
  let loops := (← get).loops
  if loops != 0 then throw (.loops (min levels loops) again)

/-- The commands that keep the variables that are set in front of them, and that end the script when
they are used wrongly. -/
def specialNames : List String := [
  ":", "break", "continue", "return", "exit", "set", "shift", "export", "readonly", "unset", "eval",
  ".", "exec", "times", "trap"]

def builtin? (name : Bytes) (words : List Bytes) : Option (Act Unit) :=
  match Utf8.decodeLossy name with
  | ":" | "true" | "times" | "wait" | "hash" => some (setStatus 0)
  | "false" => some (setStatus 1)
  | "echo" => some do
    write (if words.head? = some (Utf8.encode "-n") then echo [] (words.drop 1) else echo [10] words)
    setStatus 0
  | "printf" => some do
    match (if words.head? = some (Utf8.encode "--") then words.drop 1 else words) with
    | [] => setStatus misuse
    | pattern :: words =>
      let (output, status) := format pattern words (words.length + 1)
      write output
      setStatus status
  | "test" => some do
    match Condition.holds? (← get).fs words with
    | none => setStatus misuse
    | some holds => setStatus (if holds then 0 else 1)
  | "[" => some do
    if words.getLast? != some [byteOf ']'] then setStatus misuse
    else match Condition.holds? (← get).fs words.dropLast with
      | none => setStatus misuse
      | some holds => setStatus (if holds then 0 else 1)
  | "read" => some (readLine words)
  | "kill" => some do
    match words with
    | [target] => kill (some Signal.default) target
    | [signal, target] => kill (signalOf? (signal.drop 1)) target
    | [_, signal, target] => kill (signalOf? signal) target
    | _ => setStatus misuse
  | "set" => some (change words)
  | "shift" => some (shift words)
  | "export" => some (declare (fun _ => pure ()) (fun _ => pure ()) words)
  | "readonly" => some (declare (fun _ => pure ()) fix words)
  | "local" => some (declare save (fun _ => pure ()) words)
  | "trap" => some (setTraps words)
  | "unset" => some (forget words)
  | "cd" | "chdir" => some (goTo words)
  | "pwd" => some do
    write (((← get).lookup placeName).getD [] ++ [lineFeed])
    setStatus 0
  | "exit" => some do throw (.script (.status ((← statusOf words) % 256)))
  | "return" => some do
    setStatus (← statusOf words)
    throw .call
  | "break" => some (leave false words)
  | "continue" => some (leave true words)
  | _ => none

end SourceSnapshot.Script
