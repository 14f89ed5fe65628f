import SourceSnapshot.Program.Script
import SourceSnapshot.Text.Numeral
import SourceSnapshot.Text.Utf8

/-! What a script's commands write: words with escapes in them, and formats that are filled with
words. -/
namespace SourceSnapshot.Script

/-! Escapes. -/

def octal : Nat → Bytes → Nat → Nat × Nat
  | 0, _, value => (value, 0)
  | _ + 1, [], value => (value, 0)
  | more + 1, b :: rest, value =>
    if byteOf '0' ≤ b && b ≤ byteOf '7' then
      let (value, taken) := octal more rest (value * 8 + (b.toNat - 48))
      (value, taken + 1)
    else (value, 0)

/-- The byte that a backslash stands for with the bytes behind it, and how many of these belong to
it. A backslash that begins nothing stands for itself. -/
def escapeOf (s : Bytes) : UInt8 × Nat :=
  let (value, taken) := octal 3 s 0
  if taken > 0 then (UInt8.ofNat value, taken)
  else match (s.headD 0).toNat with
    | 0x5C => (0x5C, 1)
    | 0x61 => (0x07, 1)
    | 0x62 => (0x08, 1)
    | 0x66 => (0x0C, 1)
    | 0x6E => (0x0A, 1)
    | 0x72 => (0x0D, 1)
    | 0x74 => (0x09, 1)
    | 0x76 => (0x0B, 1)
    | _ => (0x5C, 0)

/-- A word with its escapes resolved, and whether one in it ends all output. A zero in front of
octal digits is passed over. -/
def unescape (s : Bytes) : Bytes × Bool :=
  match s with
  | [] => ([], false)
  | b :: rest =>
    if b = byteOf '\\' then
      if rest.head? = some (byteOf 'c') then ([], true)
      else
        let isLong := rest.head? = some (byteOf '0') && (octal 1 (rest.drop 1) 0).2 = 1
        let zeros := if isLong then 1 else 0
        let (value, taken) := escapeOf (rest.drop zeros)
        let (later, stopped) := unescape (rest.drop (zeros + taken))
        (value :: later, stopped)
    else
      let (later, stopped) := unescape rest
      (b :: later, stopped)
  termination_by s.length
  decreasing_by all_goals simp only [List.length_cons, List.length_drop]; omega

/-- Words behind one another with blanks between, up to an escape that ends all output; then `last`
if there was no such escape. -/
def echo (last : Bytes) : List Bytes → Bytes
  | [] => last
  | word :: rest =>
    let (text, stopped) := unescape word
    if stopped then text
    else text ++ (if rest.isEmpty then last else blankByte :: echo last rest)

def optionsOf? (argument : Bytes) : Option Bytes :=
  match argument with
  | dash :: letters =>
    let isOption (b : UInt8) : Bool := ['n', 'e', 'E'].any (byteOf · = b)
    if dash = byteOf '-' && !letters.isEmpty && letters.all isOption then some letters
    else none
  | [] => none

/-- Prints arguments. The first ones can say that there is to be no line feed, or that escapes are to
be resolved. -/
def printArguments (line escapes : Bool) : List Bytes → Bytes
  | [] => if line then [10] else []
  | argument :: rest =>
    match optionsOf? argument with
    | some letters =>
      let escapes := letters.foldl (fun escapes b =>
        if b = byteOf 'e' then true else if b = byteOf 'E' then false else escapes)
        escapes
      printArguments (line && !letters.contains (byteOf 'n')) escapes rest
    | none =>
      let last : Bytes := if line then [10] else []
      if escapes then echo last (argument :: rest)
      else [blankByte].intercalate (argument :: rest) ++ last

/-! Formats. -/

structure Fitting where
  flags : Bytes
  width : Nat
  precision : Option Nat

def readFitting (s : Bytes) : Fitting × Bytes :=
  let isFlag (b : UInt8) : Bool := ['#', '-', '+', ' ', '0'].any (byteOf · = b)
  let flags := s.takeWhile isFlag
  let sized := s.dropWhile isFlag
  let rest := sized.dropWhile isDigit
  let width := numeralOf (sized.takeWhile isDigit)
  match rest with
  | b :: precise =>
    if b = byteOf '.' then
      (⟨flags, width, some (numeralOf (precise.takeWhile isDigit))⟩, precise.dropWhile isDigit)
    else (⟨flags, width, none⟩, rest)
  | [] => (⟨flags, width, none⟩, [])

theorem length_readFitting_le (s : Bytes) : (readFitting s).2.length ≤ s.length := by
  have drop (p : UInt8 → Bool) (t : Bytes) : (t.dropWhile p).length ≤ t.length :=
    (List.dropWhile_sublist p).length_le
  unfold readFitting
  simp only
  split
  · rename_i b precise h
    have h₁ := drop (fun b => ['#', '-', '+', ' ', '0'].any (byteOf · = b)) s
    have h₂ := drop isDigit (s.dropWhile fun b => ['#', '-', '+', ' ', '0'].any (byteOf · = b))
    have h₃ := drop isDigit precise
    rw [h, List.length_cons] at h₂
    split
    · simp only
      omega
    · simp only
      rw [h, List.length_cons]
      omega
  · simp

def Fitting.pad (f : Fitting) (text : Bytes) : Bytes :=
  let blanks := List.replicate (f.width - text.length) blankByte
  if f.flags.contains (byteOf '-') then text ++ blanks else blanks ++ text

def Fitting.text (f : Fitting) (text : Bytes) : Bytes :=
  f.pad (match f.precision with
    | none => text
    | some n => text.take n)

/-- A number by its digits, with a mark in front, and with zeros between them up to the precision or,
if asked for, to the width. -/
def Fitting.number (f : Fitting) (mark digits : Bytes) : Bytes :=
  let zeros (count : Nat) := List.replicate (count - digits.length) (byteOf '0')
  match f.precision with
  | some count => f.pad (mark ++ zeros count ++ digits)
  | none =>
    if f.flags.contains (byteOf '0') && !f.flags.contains (byteOf '-') then
      mark ++ zeros (f.width - mark.length) ++ digits
    else f.pad (mark ++ digits)

structure Given where
  negative : Bool
  size : Nat
  /-- Whether all of the word belongs to the number. -/
  isWhole : Bool

/-- The number that a word begins with. Behind a quote stands a byte that is the number itself. -/
def givenBy (word : Bytes) : Given :=
  match word with
  | 0x22 :: rest | 0x27 :: rest => ⟨false, (rest.headD 0).toNat, true⟩
  | _ =>
    let s := word.dropWhile fun b => b = blankByte || (0x09 ≤ b && b ≤ 0x0D)
    let negative := s.head? = some (byteOf '-')
    let s := if negative || s.head? = some (byteOf '+') then s.drop 1 else s
    let isLong : Bool := match s with
      | 0x30 :: 0x78 :: b :: _ | 0x30 :: 0x58 :: b :: _ => (digitOf? 16 b).isSome
      | _ => false
    let base := if isLong then 16 else if s.head? = some (byteOf '0') then 8 else 10
    let s := if isLong then s.drop 2 else s
    let digits := s.takeWhile fun b => (digitOf? base b).isSome
    let size := digits.foldl (fun n b => n * base + (digitOf? base b).getD 0) 0
    ⟨negative, size, if digits.isEmpty then word.isEmpty else digits.length = s.length⟩

def Given.signed (g : Given) : Given :=
  let bound := if g.negative then greatestNumber + 1 else greatestNumber
  if g.size ≤ bound then g else ⟨g.negative, bound, false⟩

/-- A number without a sign: a negative one is taken off the number behind the greatest. -/
def Given.unsigned (g : Given) : Given :=
  let bound := UInt64.size
  if g.size < bound then ⟨false, if g.negative then (bound - g.size) % bound else g.size, g.isWhole⟩
  else ⟨false, bound - 1, false⟩

def Fitting.digits (f : Fitting) (base n : Nat) : Bytes :=
  if n = 0 && f.precision = some 0 then [] else Utf8.encodeChars (Nat.toDigits base n)

def capital (s : Bytes) : Bytes :=
  s.map fun b => if byteOf 'a' ≤ b && b ≤ byteOf 'z' then b - 32 else b

structure Filling where
  text : Bytes
  /-- It ends all output. -/
  stops : Bool := false
  /-- The word is what it should be. -/
  fits : Bool := true

/-- What a word becomes under a letter of a format; none if there is no such letter. -/
def Fitting.fill? (f : Fitting) (letter : UInt8) (word : Bytes) : Option Filling :=
  let isMarked := f.flags.contains (byteOf '#')
  match Char.ofNat letter.toNat with
  | 's' => some { text := f.text word }
  | 'b' =>
    let (text, stops) := unescape word
    some { text := f.text text, stops }
  | 'c' => some { text := f.pad (word.take 1) }
  | 'd' | 'i' =>
    let g := (givenBy word).signed
    let sign : Bytes :=
      if g.negative && g.size != 0 then [byteOf '-']
      else if f.flags.contains (byteOf '+') then [byteOf '+']
      else if f.flags.contains blankByte then [blankByte] else []
    some { text := f.number sign (f.digits 10 g.size), fits := g.isWhole }
  | 'u' =>
    let g := (givenBy word).unsigned
    some { text := f.number [] (f.digits 10 g.size), fits := g.isWhole }
  | 'o' =>
    let g := (givenBy word).unsigned
    let digits := f.digits 8 g.size
    let isShort := isMarked && digits.head? != some (byteOf '0')
    some { text := f.number [] (if isShort then byteOf '0' :: digits else digits), fits := g.isWhole }
  | 'x' | 'X' =>
    let g := (givenBy word).unsigned
    let mark := if isMarked && g.size != 0 then Utf8.encode "0x" else []
    let digits := f.digits 16 g.size
    let isCapital := letter = byteOf 'X'
    some {
      text := f.number (if isCapital then capital mark else mark)
        (if isCapital then capital digits else digits)
      fits := g.isWhole }
  | _ => none

structure Pass where
  output : Bytes
  words : List Bytes
  stopped : Bool := false
  status : Nat := 0

def misuse : Nat := 2

def formatOnce (words : List Bytes) (s : Bytes) : Pass :=
  match s with
  | [] => { output := [], words }
  | b :: rest =>
    if b = byteOf '\\' then
      let (value, taken) := escapeOf rest
      let pass := formatOnce words (rest.drop taken)
      { pass with output := value :: pass.output }
    else if b = byteOf '%' && rest.head? != some (byteOf '%') then
      match h : readFitting rest with
      | (_, []) => { output := [], words, stopped := true, status := misuse }
      | (fitting, letter :: later) =>
        match fitting.fill? letter (words.headD []) with
        | none => { output := [], words, stopped := true, status := misuse }
        | some filling =>
          have : later.length < rest.length := by
            have := length_readFitting_le rest
            simp only [h, List.length_cons] at this
            omega
          let pass : Pass :=
            if filling.stops then { output := [], words := words.drop 1, stopped := true }
            else formatOnce (words.drop 1) later
          { pass with
            output := filling.text ++ pass.output
            status := max pass.status (if filling.fits then 0 else 1) }
    else
      let pass := formatOnce words (if b = byteOf '%' then rest.drop 1 else rest)
      { pass with output := b :: pass.output }
  termination_by s.length
  decreasing_by
    all_goals try split
    all_goals simp only [List.length_cons, List.length_drop]; omega

/-- A format over words: what it writes, and the status. It is used again while words are left and it
takes some. -/
def format (pattern : Bytes) (words : List Bytes) : Nat → Bytes × Nat
  | 0 => ([], 0)
  | passes + 1 =>
    let pass := formatOnce words pattern
    if pass.stopped || pass.words.isEmpty || pass.words.length = words.length then
      (pass.output, pass.status)
    else
      let (output, status) := format pattern pass.words passes
      (pass.output ++ output, max pass.status status)

end SourceSnapshot.Script
