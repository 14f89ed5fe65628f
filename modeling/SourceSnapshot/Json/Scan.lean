import SourceSnapshot.Json.Fault
import SourceSnapshot.Text.Numeral

/-! The parts of a JSON text: blanks, words, strings and numbers. Each reader gives what it read and
the text left after it. -/
namespace SourceSnapshot.Json

abbrev Step (α : Type) := Except Fault (α × List Char)

def isBlank (c : Char) : Bool := c == ' ' || c == '\n' || c == '\t' || c == '\r'

def skipBlank (s : List Char) : List Char := s.dropWhile isBlank

def expectWord : List Char → List Char → Except Fault (List Char)
  | [], s => .ok s
  | _ :: _, [] => .error (.before .unfinishedValue [])
  | w :: word, c :: rest =>
    if c = w then expectWord word rest else .error (.at .expectedWord (c :: rest))

def hexDigit? (c : Char) : Option Nat :=
  let n := c.toNat
  if '0' ≤ c ∧ c ≤ '9' then some (n - 48)
  else if 'a' ≤ c ∧ c ≤ 'f' then some (n - 87)
  else if 'A' ≤ c ∧ c ≤ 'F' then some (n - 55)
  else none

/-- Reads four hexadecimal digits. Four bytes are taken before they are judged. -/
def hexFour (s : List Char) : Step Nat :=
  match s with
  | a :: b :: c :: d :: rest =>
    match hexDigit? a, hexDigit? b, hexDigit? c, hexDigit? d with
    | some p, some q, some r, some t => .ok (p * 4096 + q * 256 + r * 16 + t, rest)
    | _, _, _, _ => .error ⟨.invalidEscape, byteLength s - 4⟩
  | _ =>
    if byteLength s < 4 then .error ⟨.unfinishedString, 0⟩
    else .error ⟨.invalidEscape, byteLength s - 4⟩

/-- Reads the second half of a pair of surrogates, whose first half is `first`. -/
def secondHalf (first : Nat) (s : List Char) : Step Char :=
  match s with
  | [] => .error (.before .unfinishedString [])
  | '\\' :: [] => .error (.before .unfinishedString [])
  | '\\' :: 'u' :: rest =>
    match hexFour rest with
    | .error fault => .error fault
    | .ok (second, rest) =>
      if 0xDC00 ≤ second ∧ second ≤ 0xDFFF then
        .ok (Char.ofNat ((first - 0xD800) * 1024 + (second - 0xDC00) + 0x10000), rest)
      else .error (.before .unpairedSurrogate rest)
  | '\\' :: c :: rest => .error (.at .brokenPair (c :: rest))
  | c :: rest => .error (.at .brokenPair (c :: rest))

/-- Reads the code after `\u`. A second half on its own, or a first half on its own, is refused. -/
def unicodeEscape (s : List Char) : Step Char :=
  match hexFour s with
  | .error fault => .error fault
  | .ok (code, rest) =>
    if 0xDC00 ≤ code ∧ code ≤ 0xDFFF then .error (.before .unpairedSurrogate rest)
    else if 0xD800 ≤ code ∧ code ≤ 0xDBFF then secondHalf code rest
    else .ok (Char.ofNat code, rest)

def escape (s : List Char) : Step Char :=
  match s with
  | [] => .error (.before .unfinishedString [])
  | 'u' :: rest => unicodeEscape rest
  | c :: rest =>
    match c with
    | '"' | '\\' | '/' => .ok (c, rest)
    | 'b' => .ok ('\x08', rest)
    | 'f' => .ok ('\x0C', rest)
    | 'n' => .ok ('\n', rest)
    | 'r' => .ok ('\r', rest)
    | 't' => .ok ('\t', rest)
    | _ => .error (.at .invalidEscape (c :: rest))

theorem length_hexFour {s rest : List Char} {n : Nat} (h : hexFour s = .ok (n, rest)) :
    rest.length < s.length := by
  unfold hexFour at h
  split at h
  · split at h
    · simp only [Except.ok.injEq, Prod.mk.injEq] at h
      obtain ⟨-, rfl⟩ := h
      simp only [List.length_cons]; omega
    · simp at h
  · split at h <;> simp at h

theorem length_secondHalf {first : Nat} {s rest : List Char} {c : Char}
    (h : secondHalf first s = .ok (c, rest)) : rest.length < s.length := by
  unfold secondHalf at h
  split at h
  · simp at h
  · simp at h
  · split at h
    · simp at h
    · rename_i hx
      split at h
      · simp only [Except.ok.injEq, Prod.mk.injEq] at h
        obtain ⟨-, rfl⟩ := h
        have := length_hexFour hx
        simp only [List.length_cons]; omega
      · simp at h
  · simp at h
  · simp at h

theorem length_escape {s rest : List Char} {c : Char} (h : escape s = .ok (c, rest)) :
    rest.length < s.length := by
  unfold escape at h
  split at h
  · simp at h
  · unfold unicodeEscape at h
    split at h
    · simp at h
    · rename_i hx
      have hlt := length_hexFour hx
      split at h
      · simp at h
      · split at h
        · have := length_secondHalf h
          simp only [List.length_cons]; omega
        · simp only [Except.ok.injEq, Prod.mk.injEq] at h
          obtain ⟨-, rfl⟩ := h
          simp only [List.length_cons]; omega
  · split at h <;>
      first
        | (simp only [Except.ok.injEq, Prod.mk.injEq] at h
           obtain ⟨-, rfl⟩ := h
           simp)
        | simp at h

/-- Reads the rest of a string, up to its closing quote; `before` holds what was read, reversed. -/
def stringBody (before s : List Char) : Step String :=
  match s with
  | [] => .error (.before .unfinishedString [])
  | c :: rest =>
    if c = '"' then .ok (String.ofList before.reverse, rest)
    else if c = '\\' then
      match _h : escape rest with
      | .error fault => .error fault
      | .ok (e, rest) => stringBody (e :: before) rest
    else if c < ' ' then .error (.before .controlCharacter rest)
    else stringBody (c :: before) rest
  termination_by s.length
  decreasing_by
    · have := length_escape _h
      simp only [List.length_cons]; omega
    · simp

theorem length_stringBody {before s rest : List Char} {x : String}
    (h : stringBody before s = .ok (x, rest)) : rest.length < s.length := by
  fun_induction stringBody before s with
  | case1 => simp at h
  | case2 =>
    simp only [Except.ok.injEq, Prod.mk.injEq] at h
    obtain ⟨-, rfl⟩ := h
    simp
  | case3 => simp at h
  | case4 before rest' e more he hq ih =>
    have := ih h
    have := length_escape he
    simp only [List.length_cons]; omega
  | case5 => simp at h
  | case6 before c rest' hq hb hc ih =>
    have := ih h
    simp only [List.length_cons]; omega

/-- A number as it is written: a count, a negative whole number, or anything else. -/
inductive Number
  | natural (n : Nat)
  | negative (n : Nat)
  | real (x : Float)

def maxWord : Nat := 18446744073709551615

def digitsUpTo (bound value : Nat) : List Char → Nat × List Char
  | [] => (value, [])
  | c :: rest =>
    if c.isDigit && value * 10 + (c.toNat - 48) ≤ bound then
      digitsUpTo bound (value * 10 + (c.toNat - 48)) rest
    else (value, c :: rest)

def startsWithDigit (s : List Char) : Bool :=
  match s with
  | [] => false
  | c :: _ => c.isDigit

/-- Divides by `10 ^ n`, in steps that a double can hold. -/
def shrink (x : Float) (n : Nat) : Float :=
  if n ≤ 308 then x / Float.ofScientific 1 false n
  else if x == 0.0 then x
  else shrink (x / Float.ofScientific 1 false 308) (n - 308)
  termination_by n

/-- The double for `significand * 10 ^ exponent`; too great a value is refused. -/
def realOf (positive : Bool) (significand : Nat) (exponent : Int) (rest : List Char) :
    Step Number :=
  let whole := (UInt64.ofNat significand).toFloat
  let sign (x : Float) : Number := .real (if positive then x else -x)
  if exponent < 0 then .ok (sign (shrink whole exponent.natAbs), rest)
  else if exponent ≤ 308 then
    let value := whole * Float.ofScientific 1 false exponent.natAbs
    if value.isInf then .error (.before .numberOutOfRange rest) else .ok (sign value, rest)
  else if whole == 0.0 then .ok (sign whole, rest)
  else .error (.before .numberOutOfRange rest)

def maxExponent : Nat := 2147483647

def clampExponent (e : Int) : Int := max (-2147483648) (min e 2147483647)

def exponentPart (positive : Bool) (significand : Nat) (scale : Int) (s : List Char) :
    Step Number :=
  let (up, s) := match s with
    | '+' :: rest => (true, rest)
    | '-' :: rest => (false, rest)
    | _ => (true, s)
  match s with
  | [] => .error (.before .unfinishedValue [])
  | c :: _ =>
    if c.isDigit then
      let (exponent, rest) := digitsUpTo maxExponent 0 s
      if startsWithDigit rest then
        if significand != 0 && up then .error (.at .numberOutOfRange rest)
        else .ok (.real (if positive then 0.0 else -0.0), rest.dropWhile Char.isDigit)
      else realOf positive significand
        (clampExponent (if up then scale + exponent else scale - exponent)) rest
    else .error (.at .invalidNumber s)

def afterFraction (positive : Bool) (significand : Nat) (scale : Int) (s : List Char) :
    Step Number :=
  match s with
  | 'e' :: rest | 'E' :: rest => exponentPart positive significand scale rest
  | _ => realOf positive significand scale s

/-- Reads the digits after a point. Those that the significand cannot hold are passed over. -/
def fractionPart (positive : Bool) (significand : Nat) (scale : Int) (s : List Char) :
    Step Number :=
  let (value, rest) := digitsUpTo maxWord significand s
  let places := s.length - rest.length
  if startsWithDigit rest then
    afterFraction positive value (scale - places) (rest.dropWhile Char.isDigit)
  else if places = 0 then
    .error (.at (if rest.isEmpty then .unfinishedValue else .invalidNumber) rest)
  else afterFraction positive value (scale - places) rest

/-- Ends a number whose digits before the point gave `significand`; the ones it cannot hold only
raise the scale. -/
def afterWhole (positive : Bool) (significand : Nat) (s : List Char) : Step Number :=
  if startsWithDigit s then
    let rest := s.dropWhile Char.isDigit
    let scale : Int := (s.length - rest.length : Nat)
    match rest with
    | '.' :: rest => fractionPart positive significand scale rest
    | _ => afterFraction positive significand scale rest
  else match s with
    | '.' :: rest => fractionPart positive significand 0 rest
    | 'e' :: _ | 'E' :: _ => afterFraction positive significand 0 s
    | _ =>
      .ok (if positive then .natural significand
        else if 0 < significand ∧ significand ≤ 9223372036854775808 then .negative significand
        else .real (-(UInt64.ofNat significand).toFloat), s)

/-- Reads a number, after its minus sign if it is not `positive`. -/
def number (positive : Bool) (s : List Char) : Step Number :=
  match s with
  | [] => .error (.before .unfinishedValue [])
  | '0' :: rest =>
    if startsWithDigit rest then .error (.at .invalidNumber rest) else afterWhole positive 0 rest
  | c :: _ =>
    if c.isDigit then
      let (value, rest) := digitsUpTo maxWord 0 s
      afterWhole positive value rest
    else .error (.at .invalidNumber s)

end SourceSnapshot.Json
