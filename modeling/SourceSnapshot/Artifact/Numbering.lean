import SourceSnapshot.Text.Blank
import SourceSnapshot.Text.Lines
import SourceSnapshot.Text.Numeral

/-! Numbered lines: a right-aligned number, a bar, and the line. The first bar of a numbered line is
always the one after its number, so the line can be taken out again. -/
namespace SourceSnapshot.Numbering

def width : Nat := 4

def bar : List Char := [' ', '|', ' ']

def numberLine (n : Nat) (line : List Char) : List Char :=
  Numeral.rightAligned width n ++ bar ++ line

/-- The parts in which a numbered line is written. Each blank in front of the number is one. -/
def lineParts (n : Nat) (line : List Char) : List (List Char) :=
  List.replicate (width - (Numeral.digits n).length) [' '] ++ [Numeral.digits n, bar, line]

def number (content : List Char) : List (List Char) :=
  ((Lines.split content).zipIdx 1).map fun (line, n) => numberLine n line

def cutAtBar : List Char → Option (List Char × List Char)
  | ' ' :: '|' :: ' ' :: rest => some ([], rest)
  | [] => none
  | c :: rest => (cutAtBar rest).map fun (before, after) => (c :: before, after)

/-- The line behind a number, if there is nothing but blanks and digits before the first bar. -/
def stripNumber? (line : List Char) : Option (List Char) :=
  match cutAtBar line with
  | none => none
  | some (before, after) =>
    let digits := Blank.trimStart before
    if digits.isEmpty || !digits.all Char.isDigit then none else some after

end SourceSnapshot.Numbering
