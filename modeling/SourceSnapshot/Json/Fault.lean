import SourceSnapshot.Text.Utf8

/-! Why a JSON text is refused, and where. A place is a number of bytes left to read; it is shown as
a line and a column, both counted over the bytes before it. -/
namespace SourceSnapshot.Json

inductive Reason
  | unfinishedList
  | unfinishedObject
  | unfinishedString
  | unfinishedValue
  | expectedColon
  | expectedListEnd
  | expectedObjectEnd
  | expectedWord
  | expectedValue
  | invalidEscape
  | invalidNumber
  | numberOutOfRange
  | controlCharacter
  | keyNotString
  | unpairedSurrogate
  | brokenPair
  | trailingComma
  | trailingCharacters
  /-- The text is well formed so far, but not what the reader wants; `problem` says how. -/
  | unwanted (problem : String)
  deriving DecidableEq

def Reason.text : Reason → String
  | .unfinishedList => "EOF while parsing a list"
  | .unfinishedObject => "EOF while parsing an object"
  | .unfinishedString => "EOF while parsing a string"
  | .unfinishedValue => "EOF while parsing a value"
  | .expectedColon => "expected `:`"
  | .expectedListEnd => "expected `,` or `]`"
  | .expectedObjectEnd => "expected `,` or `\x7d`"
  | .expectedWord => "expected ident"
  | .expectedValue => "expected value"
  | .invalidEscape => "invalid escape"
  | .invalidNumber => "invalid number"
  | .numberOutOfRange => "number out of range"
  | .controlCharacter => "control character (\\u0000-\\u001F) found while parsing a string"
  | .keyNotString => "key must be a string"
  | .unpairedSurrogate => "lone leading surrogate in hex escape"
  | .brokenPair => "unexpected end of hex escape"
  | .trailingComma => "trailing comma"
  | .trailingCharacters => "trailing characters"
  | .unwanted problem => problem

/-- A refusal: its reason, and the number of bytes that were left to read. -/
structure Fault where
  reason : Reason
  left : Nat

def byteLength (s : List Char) : Nat := (Utf8.encodeChars s).length

def Fault.before (reason : Reason) (rest : List Char) : Fault := ⟨reason, byteLength rest⟩

/-- A fault found by looking at the first byte of `rest`, which counts as read. -/
def Fault.at (reason : Reason) (rest : List Char) : Fault := ⟨reason, byteLength rest - 1⟩

/-- Where a text stands with `left` bytes to read: the line, from 1, and the bytes read of it. -/
def position (text : List Char) (left : Nat) : Nat × Nat :=
  let bytes := Utf8.encodeChars text
  let done := bytes.take (bytes.length - left)
  (1 + done.count 10, (done.reverse.takeWhile (· != 10)).length)

def Fault.message (text : List Char) (fault : Fault) : String :=
  let (line, column) := position text fault.left
  s!"{fault.reason.text} at line {line} column {column}"

end SourceSnapshot.Json
