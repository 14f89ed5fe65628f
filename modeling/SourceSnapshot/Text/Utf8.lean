import SourceSnapshot.Bytes

/-! UTF-8, read one byte at a time. A reading lists the characters found, and `none` for each
maximal run of bytes that begins a character and is not continued, or begins none. `decode?` refuses
such a run; `decodeLossy` puts U+FFFD in its place. -/
namespace SourceSnapshot.Utf8

/-- Where a reading stands: the bytes still owed by the character begun, the bounds on the next of
them, the bits gathered, and what was found before it, the latest first. -/
structure Reading where
  owed : Nat := 0
  low : UInt8 := 0x80
  high : UInt8 := 0xBF
  bits : Nat := 0
  found : List (Option Char) := []

/-- Takes a byte where a character may begin. The bounds refuse longer forms than needed, surrogates
and anything past U+10FFFF at the second byte. -/
def Reading.start (found : List (Option Char)) (b : UInt8) : Reading :=
  let bits := b.toNat
  if b < 0x80 then ⟨0, 0x80, 0xBF, 0, some (Char.ofNat bits) :: found⟩
  else if b < 0xC2 then ⟨0, 0x80, 0xBF, 0, none :: found⟩
  else if b < 0xE0 then ⟨1, 0x80, 0xBF, bits % 32, found⟩
  else if b < 0xF0 then
    ⟨2, if b = 0xE0 then 0xA0 else 0x80, if b = 0xED then 0x9F else 0xBF, bits % 16, found⟩
  else if b < 0xF5 then
    ⟨3, if b = 0xF0 then 0x90 else 0x80, if b = 0xF4 then 0x8F else 0xBF, bits % 8, found⟩
  else ⟨0, 0x80, 0xBF, 0, none :: found⟩

/-- Takes the next byte. One that cannot continue the character begun ends it and is read again as a
first byte. -/
def Reading.next (r : Reading) (b : UInt8) : Reading :=
  match r.owed with
  | 0 => .start r.found b
  | owed + 1 =>
    if r.low ≤ b ∧ b ≤ r.high then
      let bits := r.bits * 64 + b.toNat % 64
      if owed = 0 then ⟨0, 0x80, 0xBF, 0, some (Char.ofNat bits) :: r.found⟩
      else ⟨owed, 0x80, 0xBF, bits, r.found⟩
    else .start (none :: r.found) b

/-- What was found in reading order; a character still owed bytes counts as one invalid run. -/
def Reading.close (r : Reading) : List (Option Char) :=
  (if r.owed = 0 then r.found else none :: r.found).reverse

/-- The characters and invalid runs of `bytes`, in order. -/
def read (bytes : Bytes) : List (Option Char) := (bytes.foldl Reading.next {}).close

def decode? (bytes : Bytes) : Option String := ((read bytes).mapM id).map String.ofList

def decodeLossy (bytes : Bytes) : String :=
  String.ofList ((read bytes).map (·.getD '\uFFFD'))

/-- What was read, cut before and after each U+FFFD that stands for an invalid run. -/
def partsOf : List (Option Char) → List (List Char)
  | [] => [[]]
  | none :: rest => [] :: ['\uFFFD'] :: partsOf rest
  | some c :: rest =>
    match partsOf rest with
    | [] => [[c]]
    | part :: parts => (c :: part) :: parts

def lossyParts (bytes : Bytes) : List String := (partsOf (read bytes)).map String.ofList

def encodeChars (cs : List Char) : Bytes := cs.flatMap String.utf8EncodeChar

def encode (s : String) : Bytes := encodeChars s.toList

end SourceSnapshot.Utf8
