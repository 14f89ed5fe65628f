import SourceSnapshot.Text.Blank
import SourceSnapshot.Text.Letter

/-! Which texts are regular expressions. Only that is asked of the value of a field in a filter,
because no record is ever inside a span. Nothing is known about characters beyond ASCII: what would
need their classes or cases is refused, and so is what could match a part of a character. -/
namespace SourceSnapshot.Log.Pattern

structure Flags where
  /-- Blanks and comments mean nothing. -/
  spaced : Bool := false
  /-- Letters match in both cases. -/
  folded : Bool := false
  /-- Characters are matched, and not single bytes. -/
  wide : Bool := true

abbrev Rest (s : List Char) := { rest : List Char // rest.length < s.length }

def Rest.within {s t : List Char} (h : s.length ≤ t.length) (r : Rest s) : Rest t :=
  ⟨r.1, Nat.lt_of_lt_of_le r.2 h⟩

/-- Leaves out blanks and comments in front; `comment` says that one has begun. -/
def skipBlanks (comment : Bool) : List Char → List Char
  | [] => []
  | c :: rest =>
    if comment then skipBlanks (c != '\n') rest
    else if Blank.isBlank c then skipBlanks false rest
    else if c = '#' then skipBlanks true rest
    else c :: rest

theorem length_skipBlanks_le (comment : Bool) (s : List Char) :
    (skipBlanks comment s).length ≤ s.length := by
  induction s generalizing comment with
  | nil => simp [skipBlanks]
  | cons c rest ih =>
    have h (comment : Bool) : (skipBlanks comment rest).length ≤ rest.length + 1 :=
      Nat.le_succ_of_le (ih comment)
    unfold skipBlanks
    split
    · exact h _
    · split
      · exact h _
      · split
        · exact h _
        · exact Nat.le_refl _

def Flags.skip (f : Flags) (s : List Char) : List Char := if f.spaced then skipBlanks false s else s

theorem Flags.length_skip_le (f : Flags) (s : List Char) : (f.skip s).length ≤ s.length := by
  unfold Flags.skip
  split
  · exact length_skipBlanks_le false s
  · exact Nat.le_refl _

/-! Single places. -/

inductive Place
  | char (c : Char)
  /-- A character given by two digits, which can mean a byte. -/
  | code (c : Char)
  /-- Digits, blanks or letters, or all that is none of them. -/
  | kind (negated : Bool)
  /-- The beginning or the end. -/
  | edge
  /-- The edge of a word. -/
  | wordEdge

def Flags.allows (f : Flags) : Place → Bool
  | .char _ => !(f.folded && f.wide)
  | .code c => if f.wide then !f.folded else c.toNat < 0x80
  | .kind negated => !f.wide && !negated
  | .edge => true
  | .wordEdge => !f.wide

def Flags.allowsInside (f : Flags) : Place → Bool
  | .char c => f.wide || c.toNat < 0x80
  | .code c => f.wide || c.toNat < 0x80
  | .kind negated => !f.wide && !negated
  | .edge => false
  | .wordEdge => false

def marks : List Char :=
  ['\\', '.', '+', '*', '?', '(', ')', '|', '[', ']', '\x7b', '\x7d', '^', '$', '#', '&', '-', '~']

def isEscapable (c : Char) : Bool :=
  marks.contains c || (c.toNat < 0x80 && !c.isAlphanum && c != '<' && c != '>')

def hexValue? (c : Char) : Option Nat :=
  if c.isDigit then some (c.toNat - 48)
  else if 'a' ≤ c ∧ c ≤ 'f' then some (c.toNat - 87)
  else if 'A' ≤ c ∧ c ≤ 'F' then some (c.toNat - 55)
  else none

def readHex (f : Flags) (value : Nat) :
    Nat → (s : List Char) → Option (Nat × { rest : List Char // rest.length ≤ s.length })
  | 0, s => some (value, ⟨s, Nat.le_refl _⟩)
  | _ + 1, [] => none
  | more + 1, c :: rest =>
    (hexValue? c).bind fun digit =>
      (readHex f (value * 16 + digit) more (f.skip rest)).map fun (value, later) =>
        (value, ⟨later, by
          have := later.2
          have := f.length_skip_le rest
          simp only [List.length_cons]
          omega⟩)

def readCode (f : Flags) (digits : Nat) (s : List Char) :
    Option (Char × { rest : List Char // rest.length ≤ s.length }) :=
  (readHex f 0 digits (f.skip s)).bind fun (value, rest) =>
    if h : value.isValidChar then
      some (Char.ofNatAux value h, ⟨rest, Nat.le_trans rest.2 (f.length_skip_le s)⟩)
    else none

def readEscape (f : Flags) : (s : List Char) → Option (Place × Rest s)
  | [] => none
  | c :: rest =>
    let single (place : Place) : Option (Place × Rest (c :: rest)) :=
      some (place, ⟨rest, Nat.lt_succ_self _⟩)
    let coded (digits : Nat) (place : Char → Place) : Option (Place × Rest (c :: rest)) :=
      (readCode f digits rest).map fun (value, later) =>
        (place value, ⟨later, Nat.lt_succ_of_le later.2⟩)
    if isEscapable c then single (.char c)
    else match c with
      | 'x' => coded 2 .code
      | 'u' => coded 4 .char
      | 'U' => coded 8 .char
      | 'd' | 's' | 'w' => single (.kind false)
      | 'D' | 'S' | 'W' => single (.kind true)
      | 'a' => single (.char '\x07')
      | 'f' => single (.char '\x0c')
      | 't' => single (.char '\t')
      | 'n' => single (.char '\n')
      | 'r' => single (.char '\r')
      | 'v' => single (.char '\x0b')
      | 'A' | 'z' => single .edge
      | 'b' => if rest.head? = some '\x7b' then none else single .wordEdge
      | 'B' | '<' | '>' => single .wordEdge
      | _ => none

/-! Classes. -/

def classNames : List String := [
  "alnum", "alpha", "ascii", "blank", "cntrl", "digit", "graph", "lower", "print", "punct", "space",
  "upper", "word", "xdigit"]

/-- What stands behind a named class such as `[:alpha:]`, whose bracket was read, and whether the
class is negated; none if there is no such class. -/
def namedClass? (s : List Char) : Option (Bool × { rest : List Char // rest.length ≤ s.length }) :=
  match s with
  | ':' :: named =>
    let negated := named.head? == some '^'
    let named' := if negated then named.drop 1 else named
    let name := String.ofList (named'.takeWhile (· != ':'))
    if classNames.contains name && [':', ']'].isPrefixOf (named'.dropWhile (· != ':')) then
      some (negated, ⟨(named'.dropWhile (· != ':')).drop 2, by
        have := (List.dropWhile_sublist (l := named') (· != ':')).length_le
        have : named'.length ≤ named.length := by
          simp only [named']
          split <;> simp
        simp only [List.length_drop, List.length_cons]
        omega⟩)
    else none
  | _ => none

def skipDashes (f : Flags) : Nat → List Char → List Char
  | 0, s => s
  | more + 1, s =>
    match s with
    | '-' :: rest => skipDashes f more (f.skip rest)
    | s => s

theorem length_skipDashes_le (f : Flags) (n : Nat) (s : List Char) :
    (skipDashes f n s).length ≤ s.length := by
  induction n generalizing s with
  | zero => simp [skipDashes]
  | succ n ih =>
    unfold skipDashes
    split
    · rename_i rest
      have := ih (f.skip rest)
      have := f.length_skip_le rest
      simp only [List.length_cons]
      omega
    · exact Nat.le_refl _

/-- Reads the beginning of a class behind its bracket. A bracket that would close it at once stands
for itself. A negated class of bytes is refused. -/
def openClass (f : Flags) (s : List Char) : Option { rest : List Char // rest.length ≤ s.length } :=
  let inner := f.skip s
  have hi : inner.length ≤ s.length := f.length_skip_le s
  let negated := inner.head? == some '^'
  let body := if negated then f.skip (inner.drop 1) else inner
  have hb : body.length ≤ inner.length := by
    simp only [body]
    split
    · exact Nat.le_trans (f.length_skip_le _) (by simp)
    · exact Nat.le_refl _
  let plain := skipDashes f body.length body
  have hp : plain.length ≤ body.length := length_skipDashes_le f _ body
  if negated && !f.wide then none
  else if plain.length = body.length && plain.head? == some ']' then
    some ⟨f.skip (plain.drop 1), by
      have := f.length_skip_le (plain.drop 1)
      simp only [List.length_drop] at this
      omega⟩
  else some ⟨plain, by omega⟩

def readInside (f : Flags) : (s : List Char) → Option (Place × Rest s)
  | [] => none
  | '\\' :: rest =>
    (readEscape f rest).map fun (place, later) =>
      (place, ⟨later, Nat.lt_succ_of_lt later.2⟩)
  | c :: rest => some (.char c, ⟨rest, Nat.lt_succ_self _⟩)

def Place.char? : Place → Option Char
  | .char c => some c
  | .code c => some c
  | _ => none

/-- Reads a place or a range inside a class. The ends of a range are characters in their order. A
dash is none of a range in front of a bracket or of another dash. -/
def readRange (f : Flags) (s : List Char) : Option (Rest s) := do
  let (low, rest) ← readInside f s
  if !f.allowsInside low then none
  else
    let single : Rest s := ⟨f.skip rest, Nat.lt_of_le_of_lt (f.length_skip_le _) rest.2⟩
    match h : f.skip rest with
    | '-' :: later =>
      let next := (f.skip later).head?
      if next == some ']' || next == some '-' then some single
      else do
        let (high, beyond) ← readInside f (f.skip later)
        if f.allowsInside high && (do return (← low.char?) ≤ (← high.char?)) == some true then
          some (beyond.within (by
            have := f.length_skip_le later
            have hl : later.length < (f.skip rest.1).length := by
              rw [h]
              exact Nat.lt_succ_self _
            have := f.length_skip_le rest.1
            have := rest.2
            omega))
        else none
    | _ => some single

def isJoint (a b : Char) : Bool := a == b && (a == '&' || a == '-' || a == '~')

def readClass (f : Flags) (inner : Nat) (s : List Char) : Option (Rest s) :=
  have hs := f.length_skip_le s
  match h : f.skip s with
  | [] => none
  | '[' :: rest =>
    have hr : rest.length < s.length := by simp only [h, List.length_cons] at hs; omega
    match namedClass? rest with
    | some (negated, later) =>
      have hl := Nat.lt_of_le_of_lt later.2 hr
      if negated && !f.wide then none
      else match readClass f inner later with
        | none => none
        | some r => some (r.within (Nat.le_of_lt hl))
    | none =>
      match openClass f rest with
      | none => none
      | some later =>
        have hl := Nat.lt_of_le_of_lt later.2 hr
        match readClass f (inner + 1) later with
        | none => none
        | some r => some (r.within (Nat.le_of_lt hl))
  | ']' :: rest =>
    have hr : rest.length < s.length := by simp only [h, List.length_cons] at hs; omega
    match inner with
    | 0 => some ⟨rest, hr⟩
    | inner + 1 =>
      match readClass f inner rest with
      | none => none
      | some r => some (r.within (Nat.le_of_lt hr))
  | a :: b :: rest =>
    if isJoint a b then
      have hr : rest.length < s.length := by simp only [h, List.length_cons] at hs; omega
      match readClass f inner rest with
      | none => none
      | some r => some (r.within (Nat.le_of_lt hr))
    else
      match readRange f (a :: b :: rest) with
      | none => none
      | some later =>
        have hr : (a :: b :: rest).length ≤ s.length :=
          Nat.le_trans (Nat.le_of_eq (congrArg List.length h.symm)) hs
        have hl : later.1.length < s.length := Nat.lt_of_lt_of_le later.2 hr
        match readClass f inner later with
        | none => none
        | some r => some (r.within (Nat.le_of_lt hl))
  | [_] => none
  termination_by s.length

/-! Groups. -/

/-- The flags with one of them set or taken back; none if there is no such flag. -/
def Flags.set? (f : Flags) (flag : Char) (value : Bool) : Option Flags :=
  match flag with
  | 'x' => some { f with spaced := value }
  | 'i' => some { f with folded := value }
  | 'u' => some { f with wide := value }
  | 's' | 'm' | 'U' | 'R' => some f
  | _ => none

/-- Reads flags up to a colon or a closing bracket, which is told apart by `true` for a colon. Each
may be set or taken back once; a dash stands before those taken back. -/
def readFlags (f : Flags) (seen : List Char) : (s : List Char) → Option (Flags × Bool × Rest s)
  | [] => none
  | c :: rest =>
    if c = ':' || c = ')' then
      if seen.head? = some '-' || (c = ')' && seen.isEmpty) then none
      else some (f, c = ':', ⟨rest, Nat.lt_succ_self _⟩)
    else if seen.contains c then none
    else
      (if c = '-' then some f else f.set? c (!seen.contains '-')).bind fun f =>
        (readFlags f (c :: seen) rest).map fun (f, colon, later) =>
          (f, colon, ⟨later, Nat.lt_succ_of_lt later.2⟩)

def readName (name : List Char) : (s : List Char) → Option (String × Rest s)
  | [] => none
  | c :: rest =>
    if c = '>' then
      if name.isEmpty then none else some (String.ofList name.reverse, ⟨rest, Nat.lt_succ_self _⟩)
    else if c = '_' || (if name.isEmpty then Letter.isAlphabetic c
        else c = '.' || c = '[' || c = ']' || Letter.isAlphanumeric c) then
      (readName (c :: name) rest).map fun (name, later) =>
        (name, ⟨later, Nat.lt_succ_of_lt later.2⟩)
    else none

inductive Opening
  /-- Nothing: flags are set for what follows. -/
  | flags (flags : Flags)
  | group (flags : Flags) (name : Option String)

/-- Reads what stands behind an opening bracket. Looking around is refused. -/
def readOpening (f : Flags) (s : List Char) :
    Option (Opening × { rest : List Char // rest.length ≤ s.length }) :=
  have hs := f.length_skip_le s
  let named (text : List Char) (h : text.length ≤ s.length) :
      Option (Opening × { rest : List Char // rest.length ≤ s.length }) :=
    (readName [] text).map fun (name, rest) =>
      (.group f (some name), ⟨rest, Nat.le_trans (Nat.le_of_lt rest.2) h⟩)
  match h : f.skip s with
  | '?' :: rest =>
    have hr : rest.length ≤ s.length := by simp only [h, List.length_cons] at hs; omega
    match rest with
    | '!' :: _ => none
    | '<' :: '!' :: _ => none
    | 'P' :: '<' :: text => named text (by simp only [List.length_cons] at hr; omega)
    | '<' :: text => named text (by simp only [List.length_cons] at hr; omega)
    | rest =>
      (readFlags f [] rest).map fun (flags, colon, later) =>
        (if colon then .group flags none else .flags flags,
          ⟨later, Nat.le_trans (Nat.le_of_lt later.2) hr⟩)
  | rest => some (.group f none, ⟨rest, by rw [← h]; exact hs⟩)

/-! Whole patterns. -/

/-- Reads on, with the flags in force outside of each open group, from the innermost, the names of
groups so far, and whether something that can be repeated stands before. -/
def read (f : Flags) (outer : List Flags) (names : List String) (repeatable : Bool)
    (s : List Char) : Bool :=
  match f.skip s, f.length_skip_le s with
  | [], _ => outer.isEmpty
  | c :: rest, (hr : rest.length < s.length) =>
    match c with
    | '(' =>
      match readOpening f rest with
      | none => false
      | some (.flags flags, later) =>
        have := later.2
        read flags outer names false later
      | some (.group flags name, later) =>
        have := later.2
        if name.any names.contains then false
        else read flags (f :: outer) (name.toList ++ names) false later
    | ')' =>
      match outer with
      | [] => false
      | flags :: outer => read flags outer names true rest
    | '|' => read f outer names false rest
    | '?' | '*' | '+' =>
      have : (rest.drop 1).length ≤ rest.length := by simp
      if !repeatable then false
      else if rest.head? = some '?' then read f outer names true (rest.drop 1)
      else read f outer names true rest
    | '\x7b' => false
    | '[' =>
      if f.wide && f.folded then false
      else
        match openClass f rest with
        | none => false
        | some body =>
          match readClass f 0 body with
          | none => false
          | some later =>
            have := later.2
            have := body.2
            read f outer names true later
    | '\\' =>
      match readEscape f rest with
      | none => false
      | some (place, later) =>
        have := later.2
        f.allows place && read f outer names true later
    | '.' => f.wide && read f outer names true rest
    | '^' | '$' => read f outer names true rest
    | c => f.allows (.char c) && read f outer names true rest
  termination_by s.length

def isValid (s : List Char) : Bool := read {} [] [] false s

end SourceSnapshot.Log.Pattern
