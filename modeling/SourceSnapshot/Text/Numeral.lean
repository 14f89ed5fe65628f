/-! Decimal numerals: padded for a column, grouped by thousands, and read back within a bound. -/
namespace SourceSnapshot.Numeral

def digits (n : Nat) : List Char := Nat.toDigits 10 n

theorem isDigit_of_mem_digits {n : Nat} {c : Char} (h : c ∈ digits n) : c.isDigit :=
  Nat.isDigit_of_mem_toDigits (by decide) (by decide) h

def rightAligned (width n : Nat) : List Char := (digits n).leftpad width ' '

def separate : List Char → List Char
  | a :: b :: c :: d :: rest => a :: b :: c :: ',' :: separate (d :: rest)
  | few => few

/-- The numeral of `n`, with a comma between groups of three digits counted from the end. -/
def grouped (n : Nat) : String := String.ofList (separate (digits n).reverse).reverse

/-- Puts digits in front of a text one after another. A comma goes before a digit when some have been put there, a
multiple of three; `count` of them have been already. -/
def putInFront (shown : List Char) (count : Nat) : List Char → List Char
  | [] => shown
  | c :: rest => putInFront (c :: if 0 < count ∧ count % 3 = 0 then ',' :: shown else shown) (count + 1) rest

/-- The numeral of `n` with its commas, built up from the last digit. -/
def groupedFromEnd (n : Nat) : String := String.ofList (putInFront [] 0 (digits n).reverse)

inductive ReadError
  | empty
  | invalidDigit
  | tooLarge

def ReadError.message : ReadError → String
  | .empty => "cannot parse integer from empty string"
  | .invalidDigit => "invalid digit found in string"
  | .tooLarge => "number too large to fit in target type"

/-- Reads digits after the number `value`; a character that is no digit is reported only if the
bound was not passed before it. -/
def readFrom (bound value : Nat) : List Char → Except ReadError Nat
  | [] => .ok value
  | c :: rest =>
    if c.isDigit then
      let next := value * 10 + (c.toNat - '0'.toNat)
      if next ≤ bound then readFrom bound next rest else .error .tooLarge
    else .error .invalidDigit

/-- Reads a number of at most `bound`, in digits after an optional plus sign. -/
def readUpTo (bound : Nat) : List Char → Except ReadError Nat
  | [] => .error .empty
  | ['+'] => .error .invalidDigit
  | '+' :: rest => readFrom bound 0 rest
  | s => readFrom bound 0 s

end SourceSnapshot.Numeral
