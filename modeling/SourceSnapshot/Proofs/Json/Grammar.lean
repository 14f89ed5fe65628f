import SourceSnapshot.Json.Scan
import Mathlib.Data.List.Basic

/-! The grammar of JSON texts: which texts stand for which value. It is given by what may be written, not by how it
is read. A string stands for characters only if its escapes make up whole ones, so a surrogate without its other
half stands for nothing. -/
namespace SourceSnapshot.Json

/-- A JSON value. A number is kept as it is written, and the members of an object in order. -/
inductive Value
  | null
  | flag (b : Bool)
  | number (literal : List Char)
  | text (s : String)
  | list (items : List Value)
  | object (members : List (String × Value))

def Blanks (s : List Char) : Prop := ∀ c ∈ s, isBlank c

def Digits (s : List Char) : Prop := s ≠ [] ∧ ∀ c ∈ s, c.isDigit

/-- The whole part of a number: only zero begins with a zero. -/
def WholePart (s : List Char) : Prop := s = ['0'] ∨ Digits s ∧ s.head? ≠ some '0'

def FractionPart (s : List Char) : Prop := s = [] ∨ ∃ digits, Digits digits ∧ s = '.' :: digits

def ExponentPart (s : List Char) : Prop :=
  s = [] ∨ ∃ letter sign digits, (letter = 'e' ∨ letter = 'E') ∧ (sign = [] ∨ sign = ['+'] ∨ sign = ['-']) ∧
    Digits digits ∧ s = letter :: (sign ++ digits)

def IsNumber (s : List Char) : Prop :=
  ∃ sign whole fraction exponent, (sign = [] ∨ sign = ['-']) ∧ WholePart whole ∧ FractionPart fraction ∧
    ExponentPart exponent ∧ s = sign ++ whole ++ fraction ++ exponent

/-- A number without a sign, a fraction or an exponent, with its value. -/
def Counts (s : List Char) (n : Nat) : Prop := WholePart s ∧ Nat.ofDigitChars 10 s 0 = n

/-- The characters that have an escape of one letter, behind that letter. -/
def shortEscapes : List (Char × Char) :=
  [('"', '"'), ('\\', '\\'), ('/', '/'), ('b', '\x08'), ('f', '\x0C'), ('n', '\n'), ('r', '\r'), ('t', '\t')]

def HexDigit (c : Char) (n : Nat) : Prop := n < 16 ∧ (c = Nat.digitChar n ∨ c = (Nat.digitChar n).toUpper)

def HexFour (s : List Char) (n : Nat) : Prop :=
  ∃ a b c d p q r t, HexDigit a p ∧ HexDigit b q ∧ HexDigit c r ∧ HexDigit d t ∧ s = [a, b, c, d] ∧
    n = ((p * 16 + q) * 16 + r) * 16 + t

/-- How a character may stand in a string: as it is, or as an escape; beyond U+FFFF as the escapes of two
surrogates. -/
inductive Spells : List Char → Char → Prop
  | plain {c : Char} : ' ' ≤ c → c ≠ '"' → c ≠ '\\' → Spells [c] c
  | short {letter c : Char} : (letter, c) ∈ shortEscapes → Spells ['\\', letter] c
  | code {four : List Char} {n : Nat} : HexFour four n → (n < 0xD800 ∨ 0xDFFF < n) →
      Spells ('\\' :: 'u' :: four) (Char.ofNat n)
  | pair {four four' : List Char} {n n' : Nat} : HexFour four n → 0xD800 ≤ n → n ≤ 0xDBFF →
      HexFour four' n' → 0xDC00 ≤ n' → n' ≤ 0xDFFF →
      Spells ('\\' :: 'u' :: (four ++ '\\' :: 'u' :: four'))
        (Char.ofNat ((n - 0xD800) * 0x400 + (n' - 0xDC00) + 0x10000))

inductive Spelled : List Char → List Char → Prop
  | nil : Spelled [] []
  | cons {c : Char} {cs spelling rest : List Char} : Spells spelling c → Spelled cs rest →
      Spelled (c :: cs) (spelling ++ rest)

def Quoted (s : String) (text : List Char) : Prop := ∃ body, Spelled s.toList body ∧ text = '"' :: (body ++ ['"'])

/-- What stands in front of an item: blanks, and a comma if another item came before it. -/
def Lead (first : Bool) (s : List Char) : Prop :=
  if first then Blanks s else ∃ before after, Blanks before ∧ Blanks after ∧ s = before ++ ',' :: after

/-- Items between brackets, up to the closing one: all of them after the opening bracket, where the first one comes
next, or those that are left after one of them. -/
inductive Items {α : Type} (Writes : α → List Char → Prop) (closing : Char) : Bool → List α → List Char → Prop
  | close {first : Bool} {blanks : List Char} : Blanks blanks → Items Writes closing first [] (blanks ++ [closing])
  | item {first : Bool} {x : α} {rest : List α} {lead text after : List Char} : Lead first lead → Writes x text →
      Items Writes closing false rest after → Items Writes closing first (x :: rest) (lead ++ (text ++ after))

mutual

inductive Written : Value → List Char → Prop
  | null : Written .null ['n', 'u', 'l', 'l']
  | yes : Written (.flag true) ['t', 'r', 'u', 'e']
  | no : Written (.flag false) ['f', 'a', 'l', 's', 'e']
  | number {literal : List Char} : IsNumber literal → Written (.number literal) literal
  | text {s : String} {text : List Char} : Quoted s text → Written (.text s) text
  | list {items : List Value} {inner : List Char} : Items Written ']' true items inner →
      Written (.list items) ('[' :: inner)
  | object {members : List (String × Value)} {inner : List Char} : Items WrittenMember '}' true members inner →
      Written (.object members) ('{' :: inner)

/-- How a member of an object may be written: its key, a colon and its value. -/
inductive WrittenMember : String × Value → List Char → Prop
  | member {key : String} {value : Value} {name before after text : List Char} : Quoted key name → Blanks before →
      Blanks after → Written value text → WrittenMember (key, value) (name ++ (before ++ ':' :: (after ++ text)))

end

/-- A whole text that holds one value, with blanks around it or without. -/
def Document (value : Value) (text : List Char) : Prop :=
  ∃ before inner after, Blanks before ∧ Written value inner ∧ Blanks after ∧ text = before ++ (inner ++ after)

end SourceSnapshot.Json
