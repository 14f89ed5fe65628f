import SourceSnapshot.FileSystem.Basic
import SourceSnapshot.Program.Script

/-! Patterns in scripts: a star stands for any text, a question mark for a byte, and brackets for one
of the bytes in them. Quoted bytes stand for themselves. -/
namespace SourceSnapshot.Script

abbrev Marked := List (UInt8 × Bool)

namespace Marked

def bytes (text : Marked) : Bytes := text.map Prod.fst

def ofBytes (quoted : Bool) (bytes : Bytes) : Marked := bytes.map fun b => (b, quoted)

end Marked

def bare (c : Char) : UInt8 × Bool := (byteOf c, false)

/-- The ranges of the bytes in brackets, and the pattern behind them; none if they are not closed. -/
def ranges? (isFirst : Bool) : Marked → Option (List (UInt8 × UInt8) × Marked)
  | [] => none
  | first :: rest =>
    if first = bare ']' && !isFirst then some ([], rest)
    else match rest with
      | mark :: last :: rest =>
        if mark = bare '-' && last != bare ']' then
          (ranges? false rest).map fun (ranges, rest) => ((first.1, last.1) :: ranges, rest)
        else (ranges? false (mark :: last :: rest)).map fun (ranges, rest) =>
          ((first.1, first.1) :: ranges, rest)
      | rest =>
        (ranges? false rest).map fun (ranges, rest) => ((first.1, first.1) :: ranges, rest)

def bracket? : Marked → Option (Bool × List (UInt8 × UInt8) × Marked)
  | [] => none
  | first :: rest =>
    if first = bare '!' || first = bare '^' then
      (ranges? true rest).map fun (ranges, rest) => (true, ranges, rest)
    else (ranges? true (first :: rest)).map fun (ranges, rest) => (false, ranges, rest)

def tails : Bytes → List Bytes
  | [] => [[]]
  | b :: rest => (b :: rest) :: tails rest

/-- Whether a pattern matches the whole of a text. Each step takes something off the pattern; `size`
bounds its length. -/
def matchesWithin : Nat → Marked → Bytes → Bool
  | _, [], s => s.isEmpty
  | 0, _ :: _, _ => false
  | size + 1, mark :: rest, s =>
    if mark = bare '*' then (tails s).any (matchesWithin size rest)
    else match s with
      | [] => false
      | b :: s =>
        if mark = bare '?' then matchesWithin size rest s
        else match if mark = bare '[' then bracket? rest else none with
          | some (isOther, ranges, rest) =>
            (ranges.any fun range => range.1 ≤ b && b ≤ range.2) != isOther &&
              matchesWithin size rest s
          | none => mark.1 = b && matchesWithin size rest s

def matchesWhole (pattern : Marked) (s : Bytes) : Bool := matchesWithin pattern.length pattern s

def cutFront (longest : Bool) (pattern : Marked) (s : Bytes) : Bytes :=
  let lengths := if longest then (List.range (s.length + 1)).reverse else List.range (s.length + 1)
  match lengths.find? fun n => matchesWhole pattern (s.take n) with
  | some n => s.drop n
  | none => s

def cutEnd (longest : Bool) (pattern : Marked) (s : Bytes) : Bytes :=
  let lengths := if longest then List.range (s.length + 1) else (List.range (s.length + 1)).reverse
  match lengths.find? fun n => matchesWhole pattern (s.drop n) with
  | some n => s.take n
  | none => s

/-! Patterns for paths. -/

def isPattern (text : Marked) : Bool := text.any fun mark => ['*', '?', '['].any (bare · = mark)

def isThere (fs : FileSystem) (path : Bytes) : Bool :=
  match fs.land .keep ⟨path⟩ with
  | .ok (.found _ _) => true
  | _ => false

/-- The names in a directory that a pattern matches, in order. Hidden names are not meant unless the
pattern begins with a dot. -/
def namesLike (fs : FileSystem) (dir : Bytes) (pattern : Marked) : List Bytes :=
  let entries := match fs.list ⟨if dir.isEmpty then [dot] else dir⟩ with
    | .ok entries => entries
    | .error _ => []
  let names := [dot] :: [dot, dot] :: entries.map (·.1.bytes)
  let meant := names.filter fun name =>
    (name.head? != some dot || pattern.head?.any (·.1 = dot)) && matchesWhole pattern name
  meant.mergeSort fun a b => decide (a ≤ b)

/-- The paths that begin with `begun` and go on as a pattern says, part by part. -/
def pathsLike (fs : FileSystem) (begun : Bytes) : List Marked → List Bytes
  | [] => []
  | [last] =>
    if isPattern last then (namesLike fs begun last).map (begun ++ ·)
    else if isThere fs (begun ++ last.bytes) then [begun ++ last.bytes] else []
  | part :: rest =>
    if isPattern part then
      (namesLike fs begun part).flatMap fun name =>
        let dir := begun ++ name
        if fs.isDir ⟨dir⟩ then pathsLike fs (dir ++ [slash]) rest else []
    else pathsLike fs (begun ++ part.bytes ++ [slash]) rest

def pathsOf (fs : FileSystem) (word : Marked) : List Bytes :=
  if !isPattern word then [word.bytes]
  else
    let paths := pathsLike fs [] (cutWhere (·.1 == slash) word)
    if paths.isEmpty then [word.bytes] else paths

end SourceSnapshot.Script
