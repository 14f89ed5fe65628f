import SourceSnapshot.Text.CaseTables

/-! Full lower-casing of a text. Only two characters need more than their table entry: U+0130
becomes two characters, and a capital sigma becomes the final form at the end of a word. -/
namespace SourceSnapshot.Lowercase
open CaseTables

private def within (ranges : List (Nat × Nat)) (c : Char) : Bool :=
  ranges.any fun r => r.1 ≤ c.toNat && c.toNat ≤ r.2

def isCaseIgnorable (c : Char) : Bool := within caseIgnorable c

def isCased (c : Char) : Bool := within casedOnly c

def Run.covers (r : Run) (n : Nat) : Bool :=
  r.first ≤ n && n ≤ r.last && (n - r.first) % r.stride == 0

def lowerChar (c : Char) : Char :=
  match lowerRuns.find? (Run.covers · c.toNat) with
  | some r => Char.ofNat (r.target + (c.toNat - r.first))
  | none => c

def meetsCased (cs : List Char) : Bool :=
  match cs.dropWhile isCaseIgnorable with
  | [] => false
  | c :: _ => isCased c

/-- Lower-cases `rest`, which stands after the reversed text `before`. -/
def lowerAfter (before : List Char) : List Char → List Char
  | [] => []
  | c :: rest =>
    (if c = '\u0130' then ['i', '\u0307']
     else if c = '\u03A3' then
      [if meetsCased before && !meetsCased rest then '\u03C2' else '\u03C3']
     else [lowerChar c]) ++ lowerAfter (c :: before) rest

def lower (s : List Char) : List Char := lowerAfter [] s

end SourceSnapshot.Lowercase
