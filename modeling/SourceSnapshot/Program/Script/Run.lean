import SourceSnapshot.FileSystem.Change
import SourceSnapshot.Program.Script.Builtin
import SourceSnapshot.Program.Script.Reader

/-! Running a script. A script that takes very many steps is ended by force. -/
namespace SourceSnapshot.Script

/-- Acts without its changes to the state, except for what was written, what was read and the
status. A script that would end or leave something goes on behind it; but a signal ends it. -/
def apart (act : Act Unit) : Act Unit := do
  let before ← get
  let back (s : State) : State :=
    { before with status := s.status, output := s.output, input := s.input }
  set { before with traps := before.traps.filter (·.2.isEmpty) }
  try
    act
    modify back
  catch
    | .script (.status code) => modify fun s => { back s with status := code }
    | .script (.signal number) => throw (.script (.signal number))
    | _ => modify back

def taking (act : Act Unit) : Act Bytes := do
  let before ← get
  set { before with output := [], keepsOutput := true }
  let back (s : State) : State :=
    { s with output := before.output, keepsOutput := before.keepsOutput }
  try
    act
    let s ← get
    set (back s)
    return s.written
  catch leave =>
    modify back
    throw leave

def captured (act : Act Unit) : Act Bytes := taking do
  let before ← get
  set { before with keepsMessages := false }
  apart act
  modify ({ · with keepsMessages := before.keepsMessages })

def turn (body : Act Unit) : Act Bool := do
  modify fun s => { s with loops := s.loops + 1 }
  let out : Act Unit := modify fun s => { s with loops := s.loops - 1 }
  try
    body
    out
    return true
  catch leave =>
    out
    match leave with
    | .loops levels again =>
      if levels ≤ 1 then return again else throw (.loops (levels - 1) again)
    | leave => throw leave

def calling (arguments : List Bytes) (body : Act Unit) : Act Unit := do
  let before ← get
  set { before with arguments, loops := 0, saved := some [] }
  let back : Act Unit := do
    ((← get).saved.getD []).forM fun (name, value) => putVariable name value
    modify ({ · with arguments := before.arguments, loops := before.loops, saved := before.saved })
  try
    body
    back
  catch leave =>
    back
    match leave with
    | .call => pure ()
    | leave => throw leave

def check (tested : Bool) : Act Unit := do
  let s ← get
  if s.has 'e' && !tested && s.status != 0 then throw (.script (.status s.status))

def callProgram (name : Bytes) (words : List Bytes) : Act Unit := do
  let s ← get
  match s.caller s.fs (s.lookup (Utf8.encode "PATH")) name words with
  | .ok (output, ending) =>
    write output
    setStatus (match ending with
      | .status code => code
      | .signal number => 128 + number)
  | .error e => setStatus (if e.kind = .notFound || e.kind = .notADirectory then unknown else refused)

def State.contentOf? (s : State) (path : Bytes) : Option Bytes := (s.fs.read ⟨path⟩).toOption

def intoFile (path : Bytes) (atEnd : Bool) (act : Act Unit) : Act Unit := do
  let s ← get
  match s.fs.openToWrite ⟨path⟩ with
  | .error _ => setStatus misuse
  | .ok (.device .null, _) => discard (taking act)
  | .ok (.device .full, _) =>
    discard (taking act)
    setStatus 1
  | .ok (.file loc, fs) =>
    let old := if atEnd then (s.contentOf? path).getD [] else []
    set { s with fs := fs.setContent loc old }
    let text ← taking act
    modify fun s => { s with fs := s.fs.setContent loc (old ++ text) }

/-- Acts with a stream led elsewhere; if that is not possible, it does not act. -/
def leading (stream : Nat) (lead : Lead) (target : Bytes) (act : Act Unit) : Act Unit := do
  let before ← get
  let reading (input : Bytes) : Act Unit := do
    if stream != 0 then act
    else
      set { before with input }
      try
        act
        modify ({ · with input := before.input })
      catch leave =>
        modify ({ · with input := before.input })
        throw leave
  let sending (s : State) : Act Unit := do
    set s
    let back (s : State) : State :=
      { s with keepsOutput := before.keepsOutput, keepsMessages := before.keepsMessages }
    try
      act
      modify back
    catch leave =>
      modify back
      throw leave
  match lead with
  | .fromText => reading target
  | .fromFile =>
    match before.contentOf? target with
    | none => setStatus misuse
    | some input => reading input
  | .toFile | .toEnd =>
    if stream = 1 then intoFile target (lead = .toEnd) act
    else intoFile target (lead = .toEnd) (pure ()) *>
      sending { ← get with keepsMessages := before.keepsMessages && stream != 2 }
  | .toStream =>
    if stream = 1 && target = Utf8.encode "2" then
      sending { before with keepsOutput := before.keepsMessages }
    else if stream = 2 && target = Utf8.encode "1" then
      sending { before with keepsMessages := before.keepsOutput }
    else act

def force {α : Type} : Act α := throw (.script (.signal 9))

def Expansion.text (e : Expansion) : Marked := e.word.getD []

mutual

def expandPart : Nat → Cutting → Expansion → Part → Act Expansion
  | 0, _, _, _ => force
  | fuel + 1, cutting, e, part => do
    match part with
    | .text bytes quoted =>
      if cutting = .everything then return (← get).addText cutting e bytes quoted
      return e.add (.ofBytes quoted bytes)
    | .printed script quoted =>
      let status := (← get).status
      let output ← captured (runText fuel script)
      modify fun s => { s with status, taken := s.status }
      return (← get).addText cutting e (dropWhileEnd (· = lineFeed) output) quoted
    | .number expression quoted =>
      let text ← inner fuel .here .nothing expression {}
      match Expression.read? text.text.bytes with
      | none => giveUp
      | some expression =>
        match expression.value? (← get).bindings with
        | none => giveUp
        | some (n, bindings) =>
          modify ({ · with bindings })
          return (← get).addText cutting e (numeral n) quoted
    | .value parameter use quoted =>
      let s ← get
      let value := s.value? parameter
      let demand : Act Unit :=
        if s.has 'u' && value.isNone && !isAll parameter then giveUp else pure ()
      match use with
      | .whole =>
        demand
        return s.addValue cutting e parameter quoted
      | .length =>
        demand
        return s.addText cutting e (numeral (value.getD []).length) quoted
      | .cut atEnd longest pattern =>
        demand
        let pattern ← inner fuel .within .nothing pattern {}
        let text := (if atEnd then cutEnd else cutFront) longest pattern.text (value.getD [])
        return (← get).addText cutting e text quoted
      | .wrong => giveUp
      | .substituted kind evenEmpty word =>
        let isMissing := match value with
          | none => true
          | some text => (evenEmpty && text.isEmpty) || (isAll parameter && s.arguments.isEmpty)
        let quoting : Quoting := if quoted then .double else .within
        let within : Cutting := if cutting = .nothing then .nothing else .everything
        match kind with
        | .default =>
          if isMissing then inner fuel quoting within word e
          else return s.addValue cutting e parameter quoted
        | .other => if isMissing then return e else inner fuel quoting within word e
        | .demanded => if isMissing then giveUp else return s.addValue cutting e parameter quoted
        | .assigned =>
          if !isMissing then return s.addValue cutting e parameter quoted
          match parameter with
          | .variable name =>
            let text ← inner fuel quoting .nothing word {}
            setVariable name text.text.bytes
            return (← get).addText cutting e text.text.bytes quoted
          | _ => giveUp

def inner : Nat → Quoting → Cutting → Bytes → Expansion → Act Expansion
  | 0, _, _, _, _ => force
  | fuel + 1, quoting, cutting, text, e => do
    match wordOf? quoting text with
    | none => giveUp
    | some word => word.foldlM (expandPart fuel cutting) e

def textOf : Nat → Word → Act Marked
  | 0, _ => force
  | fuel + 1, word => do return (← word.foldlM (expandPart fuel .nothing) {}).text

def fieldsOf : Nat → List Word → Act (List Bytes)
  | 0, _ => force
  | fuel + 1, words => do
    let e ← words.foldlM (fun e word => do
      return (← word.foldlM (expandPart fuel .values) e).endWord) ({} : Expansion)
    let s ← get
    return e.words.flatMap fun field => if s.has 'f' then [field.bytes] else pathsOf s.fs field

def runText : Nat → Bytes → Act Unit
  | 0, _ => force
  | fuel + 1, text => do
    let (commands, isBroken) := read text
    if commands.isEmpty then setStatus 0
    commands.forM (run fuel false)
    if isBroken then giveUp

/-- Runs a command. Where it is `tested`, a failure does not end the script. -/
def run : Nat → Bool → Command → Act Unit
  | 0, _, _ => force
  | fuel + 1, tested, command => do
    match command with
    | .nothing => setStatus 0
    | .simple words =>
      if (← get).has 'n' then return
      let (assignments, words) := splitAssignments words
      modify ({ · with taken := 0 })
      runWords fuel assignments (← fieldsOf fuel words)
      answer fuel
      check tested
    | .led command redirections =>
      let act ← redirections.foldrM (fun r act => do
        let target ← match r.lead, r.target with
          | .fromText, [.text text false] => do pure (← inner fuel .here .nothing text {}).text
          | _, target => textOf fuel target
        return leading r.stream r.lead target.bytes act) (run fuel tested command)
      act
      check tested
    | .both first second =>
      run fuel tested first
      run fuel tested second
    | .ifDone first second =>
      run fuel true first
      if (← get).status = 0 then run fuel tested second
    | .ifFailed first second =>
      run fuel true first
      if (← get).status != 0 then run fuel tested second
    | .negated command =>
      run fuel true command
      modify fun s => { s with status := if s.status = 0 then 1 else 0 }
    | .piped first second =>
      let input ← captured (run fuel tested first)
      let before ← get
      set { before with input }
      apart (run fuel tested second)
      modify ({ · with input := before.input })
      check tested
    | .apart command =>
      apart (run fuel tested command)
      check tested
    | .branch condition yes no =>
      run fuel true condition
      if (← get).status = 0 then run fuel tested yes else run fuel tested no
    | .loop untilDone condition body => loop fuel tested untilDone 0 condition body
    | .each name words body =>
      let values ← match words with
        | none => pure (← get).arguments
        | some words => fieldsOf fuel words
      setStatus 0
      each fuel tested name values body
    | .choice word arms =>
      choose fuel tested (← textOf fuel word).bytes arms
    | .arm _ body _ => run fuel tested body
    | .define name body =>
      modify fun s => { s with definitions := (name, body) :: s.definitions }
      setStatus 0

def loop : Nat → Bool → Bool → Nat → Command → Command → Act Unit
  | 0, _, _, _, _, _ => force
  | fuel + 1, tested, untilDone, status, condition, body => do
    let isOn ← turn (run fuel true condition)
    if !isOn then return
    if ((← get).status = 0) = untilDone then setStatus status
    else
      let goesOn ← turn (run fuel tested body)
      if goesOn then loop fuel tested untilDone (← get).status condition body

def each : Nat → Bool → Bytes → List Bytes → Command → Act Unit
  | 0, _, _, _, _ => force
  | _, _, _, [], _ => pure ()
  | fuel + 1, tested, name, value :: values, body => do
    setVariable name value
    let goesOn ← turn (run fuel tested body)
    if goesOn then each fuel tested name values body

def choose : Nat → Bool → Bytes → Command → Act Unit
  | 0, _, _, _ => force
  | fuel + 1, tested, text, arms => do
    match arms with
    | .arm patterns body rest =>
      let isMatch ← patterns.anyM fun pattern => do
        return matchesWhole (← textOf fuel pattern) text
      if isMatch then run fuel tested body else choose fuel tested text rest
    | _ => setStatus 0

def runWords : Nat → List (Bytes × Word) → List Bytes → Act Unit
  | 0, _, _ => force
  | fuel + 1, assignments, words => do
    let before ← get
    assignments.forM fun (name, word) => do setVariable name (← textOf fuel word).bytes
    match words with
    | [] => modify fun s => { s with status := s.taken }
    | name :: words =>
      runCommand fuel false name words
      if !specialNames.any (Utf8.encode · = name) then
        assignments.forM fun (name, _) => putVariable name (before.lookup name)

def runCommand : Nat → Bool → Bytes → List Bytes → Act Unit
  | 0, _, _, _ => force
  | fuel + 1, plainly, name, words => do
    let s ← get
    match if plainly then none else s.definitions.lookup name with
    | some body => calling words (run fuel false body)
    | none =>
      match Utf8.decodeLossy name, words with
      | "eval", _ => runText fuel ([blankByte].intercalate words)
      | ".", path :: _ =>
        match s.contentOf? path with
        | none => giveUp
        | some text => runText fuel text
      | "exec", name :: words =>
        callProgram name words
        throw (.script (.status (← get).status))
      | "command", name :: words => runCommand fuel true name words
      | _, _ =>
        match builtin? name words with
        | some act => act
        | none => callProgram name words

def answer : Nat → Act Unit
  | 0 => force
  | fuel + 1 => do
    let s ← get
    set { s with arrived := [] }
    s.arrived.forM fun number => do
      match s.traps.lookup number with
      | none => pure ()
      | some action => runText fuel action
    if !s.arrived.isEmpty then setStatus s.status

def runWhole : Nat → Bytes → Act Unit
  | 0, _ => force
  | fuel + 1, text => do
    let ending : Ending ←
      try
        runText fuel text
        pure (Ending.status (← get).status)
      catch
        | .script ending => pure ending
        | _ => pure (Ending.status (← get).status)
    match ending, (← get).traps.lookup 0 with
    | .status code, some action =>
      modify fun s => { s with status := code, traps := s.traps.filter (·.1 != 0) }
      runText fuel action
      throw (.script ending)
    | _, _ => throw (.script ending)

end

def maxSteps : Nat := 1000000

def State.runScript (s : State) (text : Bytes) : Bytes × Ending :=
  match runWhole maxSteps text s with
  | .ok () s => (s.written, .status s.status)
  | .error (.script ending) s => (s.written, ending)
  | .error _ s => (s.written, .status s.status)

end SourceSnapshot.Script
