import SourceSnapshot.Bytes

/-! What a shell script consists of: words with quotes and values in them, and commands made of words
and of other commands. Texts that stand inside a value, such as the word that stands in for it, are
kept as they are written and read when they are needed. -/
namespace SourceSnapshot.Script

/-! Bytes. -/

def byteOf (c : Char) : UInt8 := UInt8.ofNat c.toNat

def lineFeed : UInt8 := byteOf '\n'

def isDigit (b : UInt8) : Bool := byteOf '0' ≤ b && b ≤ byteOf '9'

def isNameByte (b : UInt8) : Bool :=
  isDigit b || b = byteOf '_' || (byteOf 'a' ≤ b && b ≤ byteOf 'z') ||
    (byteOf 'A' ≤ b && b ≤ byteOf 'Z')

def isName (name : Bytes) : Bool :=
  match name with
  | [] => false
  | b :: _ => !isDigit b && name.all isNameByte

def blankByte : UInt8 := 0x20

def isBlank (b : UInt8) : Bool := b = blankByte || b = byteOf '\t'

def numeralOf (digits : Bytes) : Nat := digits.foldl (fun n b => n * 10 + (b.toNat - 48)) 0

def digitOf? (base : Nat) (b : UInt8) : Option Nat :=
  let value :=
    if isDigit b then b.toNat - 48
    else if byteOf 'a' ≤ b && b ≤ byteOf 'z' then b.toNat - 87
    else if byteOf 'A' ≤ b && b ≤ byteOf 'Z' then b.toNat - 55
    else base
  if value < base then some value else none

def greatestNumber : Nat := 9223372036854775807

/-! Words. -/

inductive Parameter
  /-- The number of arguments. -/
  | count
  /-- All arguments, each a word of its own. -/
  | arguments
  /-- All arguments, in one word. -/
  | line
  /-- The argument of this number; number 0 is the script itself. -/
  | argument (number : Nat)
  /-- The status of the command before. -/
  | status
  /-- The number of the running process. -/
  | process
  /-- The letters of the settings that are on. -/
  | settings
  | variable (name : Bytes)
  deriving DecidableEq

inductive Substitute
  /-- It is taken if the value is missing. -/
  | default
  /-- So it is, and the variable is set to it. -/
  | assigned
  /-- The script ends if the value is missing. -/
  | demanded
  /-- It is taken if the value is there. -/
  | other
  deriving DecidableEq

inductive Use
  | whole
  | length
  /-- A word takes its place; a value that is empty can count as missing. -/
  | substituted (kind : Substitute) (evenEmpty : Bool) (word : Bytes)
  /-- What matches a pattern is cut off, at the end or in front. -/
  | cut (atEnd longest : Bool) (pattern : Bytes)
  /-- Nothing can be made of it. -/
  | wrong
  deriving DecidableEq

/-- A part of a word. What an unquoted value stands for is cut into words at its blanks. -/
inductive Part
  | text (bytes : Bytes) (quoted : Bool)
  | value (parameter : Parameter) (use : Use) (quoted : Bool)
  /-- What a script prints. -/
  | printed (script : Bytes) (quoted : Bool)
  /-- The value of an expression. -/
  | number (expression : Bytes) (quoted : Bool)
  deriving DecidableEq

abbrev Word := List Part

/-! Commands. -/

inductive Lead
  /-- Its input comes from a file. -/
  | fromFile
  /-- Its input is a text. -/
  | fromText
  /-- It goes to a file, which is emptied first. -/
  | toFile
  /-- It goes to the end of a file. -/
  | toEnd
  /-- It goes where another stream goes. -/
  | toStream
  deriving DecidableEq

/-- A stream led elsewhere, by its number: 0 is the input, 1 the output, 2 takes messages. -/
structure Redirection where
  stream : Nat
  lead : Lead
  target : Word
  deriving DecidableEq

inductive Command
  | nothing
  | simple (words : List Word)
  /-- With streams that are led elsewhere. -/
  | led (command : Command) (redirections : List Redirection)
  | both (first second : Command)
  /-- The second runs if the first succeeds. -/
  | ifDone (first second : Command)
  /-- The second runs if the first fails. -/
  | ifFailed (first second : Command)
  | negated (command : Command)
  /-- What the first prints is the input of the second. -/
  | piped (first second : Command)
  /-- With a state of its own. -/
  | apart (command : Command)
  | branch (condition yes no : Command)
  /-- The body runs as long as the condition succeeds; or, if `untilDone`, until it does. -/
  | loop (untilDone : Bool) (condition body : Command)
  /-- The body runs for each of the words, or for each argument. -/
  | each (name : Bytes) (words : Option (List Word)) (body : Command)
  /-- The first of the arms runs that the word matches. -/
  | choice (word : Word) (arms : Command)
  | arm (patterns : List Word) (body rest : Command)
  | define (name : Bytes) (body : Command)

end SourceSnapshot.Script
