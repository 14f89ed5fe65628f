import SourceSnapshot.Text.Utf8
import SourceSnapshot.Text.Lowercase

/-! Paths: byte texts whose parts are cut by slashes. Empty parts and inner `.` parts mean nothing,
but a path keeps them; operations on paths go by the parts that mean something. -/
namespace SourceSnapshot

structure Path where
  bytes : Bytes
  deriving DecidableEq

def slash : UInt8 := 0x2F
def dot : UInt8 := 0x2E

inductive Component
  | root
  | here
  | parent
  | name (text : Bytes)
  deriving DecidableEq

/-- How a path begins: at the root, with a `.` of its own, or with its first part. -/
inductive Start
  | root
  | here
  | plain
  deriving DecidableEq

namespace Path

def ofString (s : String) : Path := ⟨Utf8.encode s⟩

def display (p : Path) : String := Utf8.decodeLossy p.bytes

def displayParts (p : Path) : List String := Utf8.lossyParts p.bytes

def isAbsolute (p : Path) : Bool := p.bytes.head? == some slash

def start (p : Path) : Start :=
  match p.bytes with
  | [] => .plain
  | b :: rest =>
    if b = slash then .root
    else if b = dot && (rest.isEmpty || rest.head? == some slash) then .here
    else .plain

def segments (p : Path) : List Bytes :=
  cutWhere (· == slash) (if p.start = .plain then p.bytes else p.bytes.drop 1)

def isIdle (segment : Bytes) : Bool := segment.isEmpty || segment == [dot]

def names (p : Path) : List Bytes := p.segments.filter (!isIdle ·)

def Start.text : Start → Bytes
  | .root => [slash]
  | .here => [dot]
  | .plain => []

def build (start : Start) (segments : List Bytes) : Path :=
  ⟨Start.text start ++ [slash].intercalate segments⟩

def components (p : Path) : List Component :=
  (match p.start with
    | .root => [.root]
    | .here => [.here]
    | .plain => []) ++
  p.names.map fun segment => if segment = [dot, dot] then .parent else .name segment

def fileName? (p : Path) : Option Bytes :=
  match p.names.getLast? with
  | some last => if last = [dot, dot] then none else some last
  | none => none

/-- The path without its final part; a root and the empty path have no parent. -/
def parent? (p : Path) : Option Path :=
  let kept := dropWhileEnd isIdle p.segments
  if kept.isEmpty then
    if p.start = .here then some ⟨[]⟩ else none
  else some (build p.start (dropWhileEnd isIdle kept.dropLast))

/-- `p` and the first `n` paths above it. -/
def upward (p : Path) : Nat → List Path
  | 0 => [p]
  | n + 1 =>
    p :: match p.parent? with
      | some parent => parent.upward n
      | none => []

/-- `p` and all paths above it, each the parent of the one before. -/
def ancestors (p : Path) : List Path := p.upward (p.bytes.length + 1)

/-- `base` followed by `p`; an absolute `p` stands alone. -/
def join (base p : Path) : Path :=
  if p.isAbsolute then p
  else if base.bytes.isEmpty || base.bytes.getLast? == some slash then ⟨base.bytes ++ p.bytes⟩
  else ⟨base.bytes ++ slash :: p.bytes⟩

def takeNames : List Bytes → List Bytes → Option (List Bytes)
  | [], segments => some segments
  | name :: rest, segments =>
    match segments.dropWhile isIdle with
    | [] => none
    | segment :: later => if segment = name then takeNames rest later else none

/-- What follows `base` in `p`, if `p` begins with the parts of `base`. Parts without meaning are
left out at both ends, but only at the far end if `base` has no parts. -/
def stripPrefix? (p base : Path) : Option Path :=
  if base.start = .plain ∧ base.names = [] then
    some (build p.start (dropWhileEnd isIdle p.segments))
  else if base.start = p.start then
    (takeNames base.names p.segments).map fun rest =>
      build .plain (dropWhileEnd isIdle (rest.dropWhile isIdle))
  else none

/-- `p` as seen from `root`; `p` itself if it does not lie under it. -/
def relativeTo (p root : Path) : Path := (p.stripPrefix? root).getD p

/-- The final name as text; a path without one is called `.`. -/
def fileNameLossy (p : Path) : String := (p.fileName?.map Utf8.decodeLossy).getD "."

end Path

/-- What follows the last dot of a name. A name whose only dot comes first has no extension. -/
def nameExtension? (name : Bytes) : Option Bytes :=
  match name.reverse.dropWhile (· != dot) with
  | [] => none
  | _ :: before =>
    if before.isEmpty then none else some (name.reverse.takeWhile (· != dot)).reverse

def dotted (text : String) : String := String.ofList ('.' :: Lowercase.lower text.toList)

/-- The final extension in lower case with its dot, as in `.go`. -/
def Path.dottedExtension? (p : Path) : Option String :=
  (p.fileName?.bind nameExtension?).map fun extension => dotted (Utf8.decodeLossy extension)

end SourceSnapshot
