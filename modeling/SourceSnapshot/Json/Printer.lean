import SourceSnapshot.Text.Numeral

/-! Writing JSON with an indentation of two blanks: one member or element a line. -/
namespace SourceSnapshot.Json

/-- How a character stands in a string: the quote, the backslash and the controls are escaped. -/
def escapeChar (c : Char) : List Char :=
  match c with
  | '"' => ['\\', '"']
  | '\\' => ['\\', '\\']
  | '\x08' => ['\\', 'b']
  | '\x0C' => ['\\', 'f']
  | '\n' => ['\\', 'n']
  | '\r' => ['\\', 'r']
  | '\t' => ['\\', 't']
  | c => if c < ' ' then '\\' :: 'u' :: (Nat.toDigits 16 c.toNat).leftpad 4 '0' else [c]

def quote (s : String) : List Char := '"' :: s.toList.flatMap escapeChar ++ ['"']

inductive Printable
  | null
  | flag (b : Bool)
  | number (n : Nat)
  | text (s : String)
  | texts (items : List String)

def indent (level : Nat) : List Char := List.replicate (2 * level) ' '

/-- Items between brackets, each on a line of its own; without items the brackets stand together. -/
def bracketed (opening closing : Char) (level : Nat) (items : List (List Char)) : List Char :=
  if items.isEmpty then [opening, closing]
  else
    let lines := items.map fun item => '\n' :: indent (level + 1) ++ item
    opening :: [','].intercalate lines ++ '\n' :: indent level ++ [closing]

def Printable.print (level : Nat) : Printable → List Char
  | null => "null".toList
  | flag b => (if b then "true" else "false").toList
  | number n => Numeral.digits n
  | text s => quote s
  | texts items => bracketed '[' ']' level (items.map quote)

def printObject (members : List (String × Printable)) : String :=
  String.ofList (bracketed '{' '}' 0 (members.map fun (key, value) =>
    quote key ++ ':' :: ' ' :: value.print 1))

end SourceSnapshot.Json
