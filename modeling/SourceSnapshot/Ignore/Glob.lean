import SourceSnapshot.Bytes

/-! Glob patterns over paths. A pattern is read into tokens; matching is by bytes, and only `**`, a
class or an explicit slash crosses a slash. -/
namespace SourceSnapshot.Glob

inductive Token
  | byte (b : UInt8)
  /-- `?`: one byte that is no slash. -/
  | any
  /-- `*`: bytes that are no slashes. -/
  | star
  /-- `**` in front with its slash: nothing, or directories. -/
  | directories
  /-- `**` at the end with its slash: all that lies beneath. -/
  | beneath
  /-- `**` between its slashes: one slash, or directories between two. -/
  | between
  /-- `[…]`: one byte inside the ranges, or outside of them. -/
  | oneOf (negated : Bool) (ranges : List (UInt8 × UInt8))
  /-- `{…,…}`: any of the branches. -/
  | branches (branches : List (List Token))

inductive Problem
  | invalidRange (first last : Char)
  | unopenedGroup
  | unclosedGroup
  | danglingEscape

def Problem.message : Problem → String
  | .invalidRange first last =>
    "invalid range; '" ++ first.toString ++ "' > '" ++ last.toString ++ "'"
  | .unopenedGroup =>
    "unopened alternate group; missing '\x7b' (maybe escape '\x7d' with '[\x7d]'?)"
  | .unclosedGroup =>
    "unclosed alternate group; missing '\x7d' (maybe escape '\x7b' with '[\x7b]'?)"
  | .danglingEscape => "dangling '\\'"

/-! Reading. -/

/-- A pattern half read: the tokens of the branch at hand, the latest first; for each open group,
from the innermost, its finished branches and the tokens before it; and whether a bracket was found
that no class begins with. -/
structure Draft where
  tokens : List Token := []
  groups : List (List (List Token) × List Token) := []
  openBracket : Bool := false

def Draft.push (d : Draft) (token : Token) : Draft := { d with tokens := token :: d.tokens }

def Draft.pushChar (d : Draft) (c : Char) : Draft :=
  { d with tokens := ((String.utf8EncodeChar c).map Token.byte).reverse ++ d.tokens }

/-- Reads the ranges of a class, up to its closing bracket. `ranges` holds those read, reversed; a
bracket that comes first stands for itself. There is no class if it is not closed. -/
def classRanges (ranges : List (Char × Char)) (first inRange : Bool) :
    List Char → Except Problem (Option (List (Char × Char) × List Char))
  | [] => .ok none
  | c :: rest =>
    if c = ']' && !first then
      .ok (some ((if inRange then ('-', '-') :: ranges else ranges).reverse, rest))
    else if c = '-' && !first && !inRange then classRanges ranges false true rest
    else if inRange then
      match ranges with
      | [] => .ok none
      | (low, _) :: more =>
        if c < low then .error (.invalidRange low c)
        else classRanges ((low, c) :: more) false false rest
    else classRanges ((c, c) :: ranges) false false rest

theorem length_classRanges {ranges result : List (Char × Char)} {first inRange : Bool}
    {s rest : List Char} (h : classRanges ranges first inRange s = .ok (some (result, rest))) :
    rest.length < s.length := by
  induction s generalizing ranges first inRange with
  | nil => simp [classRanges] at h
  | cons c more ih =>
    unfold classRanges at h
    split at h
    · simp only [Except.ok.injEq, Option.some.injEq, Prod.mk.injEq] at h
      obtain ⟨-, rfl⟩ := h
      simp
    · simp only [List.length_cons]
      split at h
      · have := ih h; omega
      · split at h
        · split at h
          · simp at h
          · split at h
            · simp at h
            · have := ih h; omega
        · have := ih h; omega

/-- The byte ranges of a class. A character of several bytes stands for each of them on its own, and
a range between two such for the range from the last byte of one to the first byte of the other. -/
def rangeBytes (range : Char × Char) : List (UInt8 × UInt8) :=
  let low := String.utf8EncodeChar range.1
  let high := String.utf8EncodeChar range.2
  let single (b : UInt8) : UInt8 × UInt8 := (b, b)
  if range.1 = range.2 then low.map single
  else low.dropLast.map single ++ [(low.getLastD 0, high.headD 0)] ++ high.tail.map single

/-- What a doubled star stands for, after `before` and in front of `rest`: the draft with it, and
whether the slash after it belongs to it. It is special only between slashes or ends. -/
def Draft.pushDoubleStar (d : Draft) (before : Option Char) (rest : List Char) : Draft × Bool :=
  let plain := ((d.push .star).push .star, false)
  if d.tokens.isEmpty then
    match rest with
    | [] => (d.push .directories, false)
    | '/' :: _ => (d.push .directories, true)
    | _ => plain
  else
    let inGroup := !d.groups.isEmpty
    if before = some '/' || (inGroup && (before = some ',' || before = some '{')) then
      let join (token : Token) : Draft :=
        { d with tokens := (match d.tokens with
          | .directories :: more => .directories :: more
          | .beneath :: more => .beneath :: more
          | _ :: more => token :: more
          | [] => [token]) }
      match rest with
      | [] => (join .beneath, false)
      | '/' :: _ => (join .between, true)
      | c :: _ => if inGroup && (c = ',' || c = '}') then (join .beneath, false) else plain
    else plain

def Draft.read (d : Draft) (before : Option Char) (s : List Char) : Except Problem Draft :=
  match s with
  | [] => .ok d
  | '?' :: rest => (d.push .any).read (some '?') rest
  | '*' :: '*' :: rest =>
    let (d, slashed) := d.pushDoubleStar before rest
    if slashed then d.read (some '/') (rest.drop 1) else d.read (some '*') rest
  | '*' :: rest => (d.push .star).read (some '*') rest
  | '{' :: rest =>
    Draft.read { d with tokens := [], groups := ([], d.tokens) :: d.groups } (some '{') rest
  | '}' :: rest =>
    match d.groups with
    | [] => .error .unopenedGroup
    | (finished, outer) :: groups =>
      let all := (d.tokens :: finished).reverse.map List.reverse
      Draft.read { d with tokens := .branches all :: outer, groups } (some '}') rest
  | ',' :: rest =>
    match d.groups with
    | [] => (d.pushChar ',').read (some ',') rest
    | (finished, outer) :: groups =>
      Draft.read { d with tokens := [], groups := (d.tokens :: finished, outer) :: groups }
        (some ',') rest
  | '\\' :: rest =>
    match rest with
    | [] => .error .danglingEscape
    | c :: rest => (d.pushChar c).read (some c) rest
  | '[' :: rest =>
    if d.openBracket then (d.pushChar '[').read (some '[') rest
    else
      let negated := rest.head? == some '!' || rest.head? == some '^'
      match _h : classRanges [] true false (if negated then rest.drop 1 else rest) with
      | .error problem => .error problem
      | .ok none => Draft.read { d.pushChar '[' with openBracket := true } (some '[') rest
      | .ok (some (ranges, later)) =>
        (d.push (.oneOf negated (ranges.flatMap rangeBytes))).read (some ']') later
  | c :: rest => (d.pushChar c).read (some c) rest
  termination_by s.length
  decreasing_by
    all_goals try (simp only [List.length_cons, List.length_drop]; omega)
    have := length_classRanges _h
    split at this <;> simp only [List.length_cons, List.length_drop] at * <;> omega

def parse (s : List Char) : Except Problem (List Token) := do
  let d ← Draft.read {} none s
  if d.groups.isEmpty then .ok d.tokens.reverse else .error .unclosedGroup

/-! Matching. -/

def slash : UInt8 := 0x2F

/-- The places of a text that are reached by what was matched so far: whether its beginning is, and
with each byte whether the place behind it is. -/
structure Places where
  start : Bool
  behind : List (UInt8 × Bool)

namespace Places

def ofText (text : Bytes) : Places := ⟨true, text.map fun b => (b, false)⟩

def isEmpty (p : Places) : Bool := !p.start && p.behind.all (!·.2)

def reachEnd (p : Places) : Bool :=
  match p.behind.getLast? with
  | none => p.start
  | some (_, reached) => reached

def clear (p : Places) : Places := ⟨false, p.behind.map fun (b, _) => (b, false)⟩

def union (p q : Places) : Places :=
  ⟨p.start || q.start, List.zipWith (fun (b, here) (_, there) => (b, here || there)) p.behind q.behind⟩

/-- The place behind each byte that satisfies `f`, if the one before it is reached. -/
def stepBehind (f : UInt8 → Bool) (before : Bool) : List (UInt8 × Bool) → List (UInt8 × Bool)
  | [] => []
  | (b, here) :: rest => (b, before && f b) :: stepBehind f here rest

def step (f : UInt8 → Bool) (p : Places) : Places := ⟨false, stepBehind f p.start p.behind⟩

/-- The places that are reached, and those that a carry says: it is told of each byte, whether the
place before it is reached and whether that behind it is. -/
def carryBehind (f : Bool → UInt8 → Bool → Bool → Bool × Bool) (carry before : Bool) :
    List (UInt8 × Bool) → List (UInt8 × Bool)
  | [] => []
  | (b, here) :: rest =>
    let (carry, reached) := f carry b before here
    (b, reached) :: carryBehind f carry here rest

def within (p : Places) : Places :=
  ⟨p.start, carryBehind (fun carry b _ here =>
    let reached := here || (carry && b != slash)
    (reached, reached)) p.start false p.behind⟩

def behindSlashes (p : Places) : Places :=
  ⟨p.start, carryBehind (fun carry b before here =>
    (carry || before, here || ((carry || before) && b == slash))) false p.start p.behind⟩

/-- All places behind a slash that stands at a place. -/
def beneath (p : Places) : Places :=
  ⟨false, carryBehind (fun carry b before _ =>
    let carry := carry || (before && b == slash)
    (carry, carry)) false p.start p.behind⟩

def between (p : Places) : Places :=
  ⟨false, carryBehind (fun carry b before _ =>
    let carry := carry || (before && b == slash)
    (carry, carry && b == slash)) false p.start p.behind⟩

end Places

mutual

/-- Whether a token stands for nothing at all: a group of empty branches. -/
def Token.isVoid : Token → Bool
  | .branches all => allVoid all
  | _ => false

def isVoidSequence : List Token → Bool
  | [] => true
  | token :: rest => token.isVoid && isVoidSequence rest

def allVoid : List (List Token) → Bool
  | [] => true
  | branch :: rest => isVoidSequence branch && allVoid rest

end

mutual

def Token.advance (p : Places) : Token → Places
  | .byte b => p.step (· == b)
  | .any => p.step (· != slash)
  | .star => p.within
  | .directories => p.behindSlashes
  | .beneath => p.beneath
  | .between => p.between
  | .oneOf negated ranges => p.step fun b => (ranges.any fun r => r.1 ≤ b && b ≤ r.2) != negated
  | .branches all => if allVoid all then p else advanceAny p all

def advanceAll (p : Places) : List Token → Places
  | [] => p
  | token :: rest => if p.isEmpty then p else advanceAll (token.advance p) rest

def advanceAny (p : Places) : List (List Token) → Places
  | [] => p.clear
  | branch :: rest =>
    (if isVoidSequence branch then p.clear else advanceAll p branch).union (advanceAny p rest)

end

/-- Whether the tokens match a whole text. A doubled star on its own matches every text. -/
def isMatch (tokens : List Token) (text : Bytes) : Bool :=
  match tokens with
  | [.directories] => true
  | _ => (advanceAll (.ofText text) tokens).reachEnd

end SourceSnapshot.Glob
