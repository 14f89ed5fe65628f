import SourceSnapshot.Text.EscapeTable
import SourceSnapshot.Text.Utf8

/-! A text shown between double quotes in a message, so that no character of it is invisible or runs
into its neighbour; and bytes that are mostly text, with codes for those that are not. -/
namespace SourceSnapshot.Quoted

def needsCode (c : Char) : Bool :=
  if c.toNat < 0x7F then c.toNat < 0x20
  else EscapeTable.escaped.any fun r => r.1 ≤ c.toNat && c.toNat ≤ r.2

def showChar (c : Char) : List Char :=
  match c with
  | '\x00' => ['\\', '0']
  | '\t' => ['\\', 't']
  | '\n' => ['\\', 'n']
  | '\r' => ['\\', 'r']
  | '"' => ['\\', '"']
  | '\\' => ['\\', '\\']
  | c =>
    if needsCode c then '\\' :: 'u' :: '\x7b' :: Nat.toDigits 16 c.toNat ++ ['\x7d'] else [c]

def quote (s : String) : String := String.ofList ('"' :: s.toList.flatMap showChar ++ ['"'])

def charAt? (bytes : Bytes) : Option Char :=
  [1, 2, 3, 4].findSome? fun n =>
    match Utf8.read (bytes.take n) with
    | [some c] => some c
    | _ => none

def showByte (b : UInt8) : List Char :=
  '\\' :: 'x' :: ((Nat.toDigits 16 b.toNat).leftpad 2 '0').map Char.toUpper

/-- How bytes are shown; so many of them belong to a character that was shown before. A single quote
is marked, too. -/
def showBytes (shown : Nat) : Bytes → List Char
  | [] => []
  | b :: rest =>
    match shown with
    | shown + 1 => showBytes shown rest
    | 0 =>
      match charAt? (b :: rest) with
      | none => showByte b ++ showBytes 0 rest
      | some '\'' => '\\' :: '\'' :: showBytes 0 rest
      | some c => showChar c ++ showBytes (c.utf8Size - 1) rest

def quoteBytes (bytes : Bytes) : String := String.ofList ('"' :: showBytes 0 bytes ++ ['"'])

end SourceSnapshot.Quoted
