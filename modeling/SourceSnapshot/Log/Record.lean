/-! What a run tells of itself while it works. Each record belongs to a part of the program, has a
level, and carries values under names. -/
namespace SourceSnapshot.Log

inductive Level
  | error
  | warn
  | info
  | debug
  | trace
  deriving DecidableEq

namespace Level

def rank : Level → Nat
  | error => 1
  | warn => 2
  | info => 3
  | debug => 4
  | trace => 5

def label : Level → String
  | error => "ERROR"
  | warn => "WARN"
  | info => "INFO"
  | debug => "DEBUG"
  | trace => "TRACE"

end Level

structure Record where
  level : Level
  /-- The part of the program that it comes from. -/
  target : String
  message : String
  fields : List (String × String) := []
  /-- The names of values that it carries without showing them. -/
  unshown : List String := []
  deriving DecidableEq

/-- A character of a message as it is shown: one that could drive a terminal is shown by its code. -/
def showChar (c : Char) : String :=
  let code := String.ofList (Nat.toDigits 16 c.toNat)
  if c = '\x07' || c = '\x08' || c = '\x0c' then "\\x0" ++ code
  else if c = '\x1b' || c = '\x7f' then "\\x" ++ code
  else if 0x80 ≤ c.toNat && c.toNat ≤ 0x9F then "\\u\x7b" ++ code ++ "\x7d"
  else c.toString

def Record.line (r : Record) : String :=
  r.level.label ++ " " ++ String.join (r.message.toList.map showChar) ++
    String.join (r.fields.map fun (name, value) => " " ++ name ++ "=" ++ value)

end SourceSnapshot.Log
