import SourceSnapshot.Program.Script
import SourceSnapshot.Text.Utf8

/-! Whole-number expressions in scripts. Numbers have 64 bits and wrap around; those that are not
zero are true. -/
namespace SourceSnapshot.Script

inductive Operator
  | times | quotient | rest | plus | minus | left | right | less | lessEqual | greater | greaterEqual
  | equal | notEqual | and | xor | or
  deriving DecidableEq

inductive Expression
  | number (value : Int)
  | named (name : Bytes)
  | not (e : Expression)
  | complement (e : Expression)
  | negative (e : Expression)
  | binary (operator : Operator) (first second : Expression)
  | both (first second : Expression)
  | either (first second : Expression)
  | choice (condition yes no : Expression)
  /-- Sets a variable, to a value that can be joined with the old one. -/
  | assigned (name : Bytes) (operator : Option Operator) (value : Expression)

/-! Reading. -/

inductive Lexeme
  | name (name : Bytes)
  | number (value : Nat)
  | sign (text : String)
  deriving DecidableEq

def numberIn? (base : Nat) (digits : Bytes) : Option Nat :=
  if digits.isEmpty then none
  else digits.foldlM (fun n b => (digitOf? base b).map (n * base + ·)) 0

def constant? (s : Bytes) : Option Nat :=
  (match s with
    | 0x30 :: 0x78 :: digits | 0x30 :: 0x58 :: digits => numberIn? 16 digits
    | 0x30 :: _ => numberIn? 8 s
    | _ => numberIn? 10 s).map (min greatestNumber)

def integer? (s : Bytes) : Option Int :=
  let isGap (b : UInt8) : Bool := isBlank b || b = lineFeed
  match dropWhileEnd isGap (s.dropWhile isGap) with
  | [] => some 0
  | b :: rest =>
    if b = byteOf '-' then (constant? rest).map fun n => -(n : Int)
    else (constant? (if b = byteOf '+' then rest else b :: rest)).map fun n => (n : Int)

def expressionSigns : List String := [
  "<<=", ">>=", "&&", "||", "==", "!=", "<=", ">=", "<<", ">>", "+=", "-=", "*=", "/=", "%=", "&=",
  "^=", "|=", "+", "-", "*", "/", "%", "<", ">", "=", "!", "~", "&", "^", "|", "?", ":", "(", ")"]

def lexemes? (s : Bytes) : Option (List Lexeme) :=
  match s with
  | [] => some []
  | b :: rest =>
    if isBlank b || b = lineFeed then lexemes? rest
    else if isNameByte b then
      let text := b :: rest.takeWhile isNameByte
      let lexeme := if isDigit b then (constant? text).map .number else some (.name text)
      match lexeme, lexemes? (rest.drop (text.length - 1)) with
      | some lexeme, some later => some (lexeme :: later)
      | _, _ => none
    else match expressionSigns.find? fun sign => (Utf8.encode sign).isPrefixOf s with
      | none => none
      | some sign => (lexemes? (rest.drop (sign.length - 1))).map (.sign sign :: ·)
  termination_by s.length
  decreasing_by all_goals simp only [List.length_cons, List.length_drop]; omega

inductive Join
  | operator (operator : Operator)
  | both
  | either

def Join.apply : Join → Expression → Expression → Expression
  | operator o, first, second => .binary o first second
  | both, first, second => .both first second
  | either, first, second => .either first second

def joins : List (String × Nat × Join) := [
  ("*", 10, .operator .times), ("/", 10, .operator .quotient), ("%", 10, .operator .rest),
  ("+", 9, .operator .plus), ("-", 9, .operator .minus),
  ("<<", 8, .operator .left), (">>", 8, .operator .right),
  ("<", 7, .operator .less), ("<=", 7, .operator .lessEqual),
  (">", 7, .operator .greater), (">=", 7, .operator .greaterEqual),
  ("==", 6, .operator .equal), ("!=", 6, .operator .notEqual),
  ("&", 5, .operator .and), ("^", 4, .operator .xor), ("|", 3, .operator .or),
  ("&&", 2, .both), ("||", 1, .either)]

def setters : List (String × Option Operator) := [
  ("=", none), ("*=", some .times), ("/=", some .quotient), ("%=", some .rest), ("+=", some .plus),
  ("-=", some .minus), ("<<=", some .left), (">>=", some .right), ("&=", some .and),
  ("^=", some .xor), ("|=", some .or)]

namespace Expression

abbrev Reader := StateT (List Lexeme) Option

def takes (text : String) : Reader Bool := do
  match ← get with
  | .sign sign :: rest =>
    if sign = text then
      set rest
      return true
    else return false
  | _ => return false

mutual

def whole : Nat → Reader Expression
  | 0 => failure
  | fuel + 1 => do
    match ← get with
    | .name name :: .sign sign :: rest =>
      match setters.lookup sign with
      | some operator =>
        set rest
        return .assigned name operator (← whole fuel)
      | none => chosen fuel
    | _ => chosen fuel

def chosen : Nat → Reader Expression
  | 0 => failure
  | fuel + 1 => do
    let condition ← joined fuel 1
    if ← takes "?" then
      let yes ← whole fuel
      if !(← takes ":") then failure
      return .choice condition yes (← chosen fuel)
    else return condition

def joined : Nat → Nat → Reader Expression
  | 0, _ => failure
  | fuel + 1, tightness => do joinedTo fuel tightness (← single fuel)

def joinedTo : Nat → Nat → Expression → Reader Expression
  | 0, _, _ => failure
  | fuel + 1, tightness, first => do
    match ← get with
    | .sign sign :: rest =>
      match joins.lookup sign with
      | some (tight, join) =>
        if tight < tightness then return first
        set rest
        let second ← joined fuel (tight + 1)
        joinedTo fuel tightness (join.apply first second)
      | none => return first
    | _ => return first

def single : Nat → Reader Expression
  | 0 => failure
  | fuel + 1 => do
    if ← takes "!" then return .not (← single fuel)
    else if ← takes "~" then return .complement (← single fuel)
    else if ← takes "-" then return .negative (← single fuel)
    else if ← takes "+" then single fuel
    else if ← takes "(" then
      let inner ← whole fuel
      if !(← takes ")") then failure
      return inner
    else
      match ← get with
      | .name name :: rest =>
        set rest
        return .named name
      | .number value :: rest =>
        set rest
        return .number value
      | _ => failure

end

/-- Reads an expression. No more than fifteen readers are entered before a lexeme is taken. -/
def read? (s : Bytes) : Option Expression := do
  let found ← lexemes? s
  if found.isEmpty then return .number 0
  match whole (15 * found.length + 15) found with
  | some (e, []) => return e
  | _ => none

end Expression

/-! Values. -/

def wrap (n : Int) : Int := n.bmod UInt64.size

def bitsOf (n : Int) : BitVec 64 := BitVec.ofInt 64 n

def truth (b : Bool) : Int := if b then 1 else 0

def Operator.apply (operator : Operator) (m n : Int) : Option Int :=
  match operator with
  | times => some (wrap (m * n))
  | quotient => if n = 0 then none else some (wrap (m.tdiv n))
  | rest => if n = 0 then none else some (wrap (m.tmod n))
  | plus => some (wrap (m + n))
  | minus => some (wrap (m - n))
  | left => some (bitsOf m <<< (bitsOf n).toNat % 64).toInt
  | right => some ((bitsOf m).sshiftRight ((bitsOf n).toNat % 64)).toInt
  | less => some (truth (m < n))
  | lessEqual => some (truth (m ≤ n))
  | greater => some (truth (m > n))
  | greaterEqual => some (truth (m ≥ n))
  | equal => some (truth (m = n))
  | notEqual => some (truth (m ≠ n))
  | and => some (bitsOf m &&& bitsOf n).toInt
  | xor => some (bitsOf m ^^^ bitsOf n).toInt
  | or => some (bitsOf m ||| bitsOf n).toInt

abbrev Variables := List (Bytes × Bytes)

def numeral (n : Int) : Bytes := Utf8.encode (toString n)

namespace Expression

/-- The value of an expression, and the variables after it; none if something in it is no number. -/
def value? (bindings : Variables) : Expression → Option (Int × Variables)
  | number n => some (n, bindings)
  | named name => do
    let n ← integer? ((bindings.lookup name).getD [])
    return (n, bindings)
  | not e => do
    let (n, bindings) ← e.value? bindings
    return (truth (n = 0), bindings)
  | complement e => do
    let (n, bindings) ← e.value? bindings
    return (-n - 1, bindings)
  | negative e => do
    let (n, bindings) ← e.value? bindings
    return (wrap (-n), bindings)
  | binary operator first second => do
    let (m, bindings) ← first.value? bindings
    let (n, bindings) ← second.value? bindings
    return (← operator.apply m n, bindings)
  | both first second => do
    let (m, bindings) ← first.value? bindings
    if m = 0 then return (0, bindings)
    let (n, bindings) ← second.value? bindings
    return (truth (n ≠ 0), bindings)
  | either first second => do
    let (m, bindings) ← first.value? bindings
    if m ≠ 0 then return (1, bindings)
    let (n, bindings) ← second.value? bindings
    return (truth (n ≠ 0), bindings)
  | choice condition yes no => do
    let (m, bindings) ← condition.value? bindings
    if m ≠ 0 then yes.value? bindings else no.value? bindings
  | assigned name operator e => do
    let (n, bindings) ← e.value? bindings
    let n ← match operator with
      | none => pure n
      | some operator => operator.apply (← integer? ((bindings.lookup name).getD [])) n
    return (n, (name, numeral n) :: bindings)

end Expression

end SourceSnapshot.Script
