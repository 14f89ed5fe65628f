import SourceSnapshot.Program.Script
import SourceSnapshot.Text.Utf8

/-! The text of a script is cut into words, signs between them, and marks that lead streams
elsewhere. -/
namespace SourceSnapshot.Script

inductive Token
  | word (word : Word)
  /-- A line feed, or signs that stand between commands or around them. -/
  | sign (text : String)
  /-- The next word says where the stream of this number is led. -/
  | lead (stream : Nat) (lead : Lead)
  /-- Something is not closed before the text ends. -/
  | broken
  deriving DecidableEq

/-- The number of bytes until all is closed that is open, the innermost first. A backslash hides the
byte after it, except between single quotes. -/
def closing? (opened : List UInt8) (passed : Nat) (s : Bytes) : Option Nat :=
  match opened, s with
  | [], _ => some passed
  | _, [] => none
  | inner :: outer, b :: rest =>
    let isSingle := inner = byteOf '\''
    if b = inner then closing? outer (passed + 1) rest
    else if isSingle then closing? opened (passed + 1) rest
    else if b = byteOf '\\' then closing? opened (passed + 2) (rest.drop 1)
    else if b = byteOf '"' || b = byteOf '`' then closing? (b :: opened) (passed + 1) rest
    else if b = byteOf '\'' && inner != byteOf '"' then
      closing? (b :: opened) (passed + 1) rest
    else if b = byteOf '$' && rest.head? = some (byteOf '\x7b') then
      closing? (byteOf '\x7d' :: opened) (passed + 2) (rest.drop 1)
    else if b = byteOf '(' && inner = byteOf ')' then
      closing? (byteOf ')' :: opened) (passed + 1) rest
    else if b = byteOf '$' && rest.head? = some (byteOf '(') then
      closing? (byteOf ')' :: opened) (passed + 2) (rest.drop 1)
    else closing? opened (passed + 1) rest
  termination_by s.length
  decreasing_by all_goals simp only [List.length_cons, List.length_drop]; omega

/-! Values. -/

def signed? (b : UInt8) : Option Parameter :=
  if b = byteOf '#' then some .count
  else if b = byteOf '@' then some .arguments
  else if b = byteOf '*' then some .line
  else if b = byteOf '?' then some .status
  else if b = byteOf '$' then some .process
  else if b = byteOf '-' then some .settings
  else if isDigit b then some (.argument (b.toNat - 48))
  else none

def named? (s : Bytes) : Option (Parameter × Bytes) :=
  match s with
  | [] => none
  | b :: rest =>
    if isDigit b then some (.argument (numeralOf (s.takeWhile isDigit)), s.dropWhile isDigit)
    else match signed? b with
      | some parameter => some (parameter, rest)
      | none =>
        let name := s.takeWhile isNameByte
        if name.isEmpty then none else some (.variable name, s.dropWhile isNameByte)

def substitute? (b : UInt8) : Option Substitute :=
  if b = byteOf '-' then some .default
  else if b = byteOf '=' then some .assigned
  else if b = byteOf '?' then some .demanded
  else if b = byteOf '+' then some .other
  else none

def use? (s : Bytes) : Option Use :=
  match s with
  | [] => some .whole
  | b :: rest =>
    let doubled := rest.head? = some b
    let pattern := if doubled then rest.drop 1 else rest
    if b = byteOf '%' then some (.cut true doubled pattern)
    else if b = byteOf '#' then some (.cut false doubled pattern)
    else if b = byteOf ':' then
      (rest.head?.bind substitute?).map fun kind => .substituted kind true (rest.drop 1)
    else (substitute? b).map fun kind => .substituted kind false rest

def bracedOf (inner : Bytes) : Parameter × Use :=
  let plain : Parameter × Use :=
    match named? inner with
    | none => (.status, .wrong)
    | some (parameter, rest) => (parameter, (use? rest).getD .wrong)
  match inner with
  | b :: rest =>
    if b = byteOf '#' && !rest.isEmpty then
      match named? rest with
      | some (parameter, []) => (parameter, .length)
      | _ => plain
    else plain
  | [] => plain

inductive Dollar
  /-- For itself. -/
  | plain
  /-- For a part of a word, with so many bytes. -/
  | part (part : Part) (taken : Nat)
  | broken

def dollarOf (quoted : Bool) (s : Bytes) : Dollar :=
  match s with
  | [] => .plain
  | b :: rest =>
    let next := rest.head?
    if b = byteOf '(' && next = some (byteOf '(') then
      match closing? [byteOf ')', byteOf ')'] 0 (rest.drop 1) with
      | none => .broken
      | some length => .part (.number ((rest.drop 1).take (length - 2)) quoted) (length + 2)
    else if b = byteOf '(' then
      match closing? [byteOf ')'] 0 rest with
      | none => .broken
      | some length => .part (.printed (rest.take (length - 1)) quoted) (length + 1)
    else if b = byteOf '\x7b' then
      match closing? [byteOf '\x7d'] 0 rest with
      | none => .broken
      | some length =>
        let (parameter, use) := bracedOf (rest.take (length - 1))
        .part (.value parameter use quoted) (length + 1)
    else match signed? b with
      | some parameter => .part (.value parameter .whole quoted) 1
      | none =>
        let name := s.takeWhile isNameByte
        if name.isEmpty then .plain
        else .part (.value (.variable name) .whole quoted) name.length

/-- A script between backquotes: a backslash in front of some bytes is left out. -/
def unquoteScript (quoted : Bool) (s : Bytes) : Bytes :=
  match s with
  | [] => []
  | b :: rest =>
    let hidden : List Char := if quoted then ['`', '$', '\\', '"'] else ['`', '$', '\\']
    if b = byteOf '\\' && (hidden.any fun c => rest.head? = some (byteOf c)) then
      rest.headD 0 :: unquoteScript quoted (rest.drop 1)
    else b :: unquoteScript quoted rest
  termination_by s.length
  decreasing_by all_goals simp only [List.length_cons, List.length_drop]; omega

/-! Tokens. -/

/-- Where reading stands: the tokens read, and the parts of the word at hand with their bytes, each
latest first. -/
structure Draft where
  tokens : List Token := []
  word : Option Word := none

namespace Draft

def add (d : Draft) (part : Part) : Draft := { d with word := some (part :: d.word.getD []) }

def addByte (d : Draft) (b : UInt8) (quoted : Bool) : Draft :=
  match d.word with
  | some (.text bytes marked :: parts) =>
    if marked = quoted then { d with word := some (.text (b :: bytes) quoted :: parts) }
    else d.add (.text [b] quoted)
  | _ => d.add (.text [b] quoted)

def inOrder : Part → Part
  | .text bytes quoted => .text bytes.reverse quoted
  | part => part

def wordInOrder (d : Draft) : Option Word := d.word.map fun parts => parts.reverse.map inOrder

def endWord (d : Draft) : Draft :=
  match d.wordInOrder with
  | none => d
  | some word => { tokens := .word word :: d.tokens }

def addSign (d : Draft) (text : String) : Draft :=
  { tokens := .sign text :: d.endWord.tokens }

/-- Adds a mark that leads a stream elsewhere. A digit right before it says which one. -/
def addLead (d : Draft) (usual : Nat) (lead : Lead) : Draft :=
  match d.word with
  | some [.text [b] false] =>
    if isDigit b then { tokens := .lead (b.toNat - 48) lead :: d.tokens }
    else { tokens := .lead usual lead :: d.endWord.tokens }
  | _ => { tokens := .lead usual lead :: d.endWord.tokens }

def breakOff (d : Draft) : Draft := { tokens := .broken :: d.endWord.tokens }

end Draft

inductive Quoting
  | bare
  /-- A text that is all one word. -/
  | within
  | single
  | double
  /-- As between double quotes, but these are nothing special. -/
  | here
  | comment
  deriving DecidableEq

/-! Texts in the lines below a command. -/

/-- The text of lines up to one that consists of a mark, and the number of bytes up to its end. Tabs
in front of lines are left out if `bare`. -/
def splitHere (mark : Bytes) (bare : Bool) : List Bytes → Bytes × Nat
  | [] => ([], 0)
  | first :: rest =>
    let line := if bare then first.dropWhile (· = byteOf '\t') else first
    if line = mark then ([], first.length + 1)
    else if rest.isEmpty then (line, first.length)
    else
      let (text, length) := splitHere mark bare rest
      (line ++ lineFeed :: text, first.length + 1 + length)

/-- A text below a command, whether values in it are kept as they are written, and the script without
it. -/
structure Here where
  text : Bytes
  asIs : Bool
  rest : Bytes

def skipToMark (s : Bytes) : Bytes :=
  (if s.head? = some (byteOf '-') then s.drop 1 else s).dropWhile isBlank

def takeHere (s : Bytes) : Here :=
  let isEnd (b : UInt8) : Bool :=
    isBlank b || [';', '&', '|', '<', '>', '(', ')', '\n'].any (byteOf · = b)
  let isQuote (b : UInt8) : Bool := ['\'', '"', '\\'].any (byteOf · = b)
  let bare := s.head? = some (byteOf '-')
  let marked := skipToMark s
  let written := marked.takeWhile (!isEnd ·)
  let rest := marked.drop written.length
  let line := (rest.takeWhile (· != lineFeed)).length + 1
  let lines := cutWhere (· = lineFeed) (rest.drop line)
  let (text, length) := splitHere (written.filter (!isQuote ·)) bare lines
  ⟨text, written.any isQuote, rest.take line ++ rest.drop (line + length)⟩

theorem length_takeHere_le (s : Bytes) : (takeHere s).rest.length ≤ s.length := by
  have hskip : (skipToMark s).length ≤ s.length := by
    unfold skipToMark
    refine Nat.le_trans (List.dropWhile_sublist isBlank).length_le ?_
    split <;> simp
  unfold takeHere
  simp only [List.length_append, List.length_take, List.length_drop]
  omega

def signs : List String := ["&&", "||", ";;", "&", "|", ";", "(", ")", "\n"]

def leads : List (String × Nat × Lead) := [
  (">>", 1, .toEnd), (">|", 1, .toFile), (">&", 1, .toStream), (">", 1, .toFile),
  ("<&", 0, .toStream), ("<>", 0, .fromFile), ("<", 0, .fromFile)]

def readOn (d : Draft) (outer quoting : Quoting) (s : Bytes) : Draft :=
  match s with
  | [] =>
    match quoting with
    | .single | .double => if quoting = outer then d else d.breakOff
    | _ => d
  | b :: rest =>
    let next := rest.headD 0
    match quoting with
    | .comment =>
      if b = lineFeed then readOn (d.addSign "\n") outer .bare rest
      else readOn d outer .comment rest
    | .single =>
      if b = byteOf '\'' then readOn d outer outer rest
      else readOn (d.addByte b true) outer .single rest
    | .double | .here =>
      if b = byteOf '"' && quoting = .double then
        readOn d outer (if outer = .double then .within else outer) rest
      else if b = byteOf '\\' && next = lineFeed then readOn d outer quoting (rest.drop 1)
      else if b = byteOf '\\' && (['\\', '$', '`'].any (byteOf · = next) ||
          (next = byteOf '"' && quoting = .double)) then
        readOn (d.addByte next true) outer quoting (rest.drop 1)
      else if b = byteOf '`' then
        match closing? [b] 0 rest with
        | none => d.breakOff
        | some length =>
          let script := unquoteScript true (rest.take (length - 1))
          readOn (d.add (.printed script true)) outer quoting (rest.drop length)
      else if b = byteOf '$' then
        match dollarOf true rest with
        | .plain => readOn (d.addByte b true) outer quoting rest
        | .part part taken => readOn (d.add part) outer quoting (rest.drop taken)
        | .broken => d.breakOff
      else readOn (d.addByte b true) outer quoting rest
    | .bare | .within =>
      if b = byteOf '\'' then readOn (d.add (.text [] true)) outer .single rest
      else if b = byteOf '"' then readOn (d.add (.text [] true)) outer .double rest
      else if b = byteOf '\\' then
        if rest.isEmpty then readOn (d.addByte b true) outer quoting rest
        else if next = lineFeed then readOn d outer quoting (rest.drop 1)
        else readOn (d.addByte next true) outer quoting (rest.drop 1)
      else if b = byteOf '`' then
        match closing? [b] 0 rest with
        | none => d.breakOff
        | some length =>
          let script := unquoteScript false (rest.take (length - 1))
          readOn (d.add (.printed script false)) outer quoting (rest.drop length)
      else if b = byteOf '$' then
        match dollarOf false rest with
        | .plain => readOn (d.addByte b false) outer quoting rest
        | .part part taken => readOn (d.add part) outer quoting (rest.drop taken)
        | .broken => d.breakOff
      else if quoting = .within then readOn (d.addByte b false) outer .within rest
      else if isBlank b then readOn d.endWord outer .bare rest
      else if b = byteOf '#' && d.word.isNone then readOn d outer .comment rest
      else if b = byteOf '<' && next = b then
        have := length_takeHere_le (rest.drop 1)
        let here := takeHere (rest.drop 1)
        let led := d.addLead 0 .fromText
        let tokens := .word [.text here.text here.asIs] :: led.tokens
        readOn { tokens } outer .bare here.rest
      else match signs.find? fun sign => (Utf8.encode sign).isPrefixOf s with
        | some sign => readOn (d.addSign sign) outer .bare (rest.drop (sign.length - 1))
        | none =>
          match leads.find? fun mark => (Utf8.encode mark.1).isPrefixOf s with
          | some (mark, usual, lead) =>
            readOn (d.addLead usual lead) outer .bare (rest.drop (mark.length - 1))
          | none => readOn (d.addByte b false) outer .bare rest
  termination_by s.length
  decreasing_by all_goals simp only [List.length_cons, List.length_drop] at *; omega

def tokensOf (s : Bytes) : List Token := (readOn {} .bare .bare s).endWord.tokens.reverse

def wordOf? (quoting : Quoting) (s : Bytes) : Option Word :=
  let draft := readOn {} quoting quoting s
  if draft.tokens.isEmpty then some (draft.wordInOrder.getD []) else none

end SourceSnapshot.Script
