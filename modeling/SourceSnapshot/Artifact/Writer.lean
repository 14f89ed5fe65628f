import SourceSnapshot.Artifact.Sink
import SourceSnapshot.Artifact.Text

/-! Writing an artifact into a sink, with an account of the numbered lines. Each text is written in the
parts that it is put together from; the sink sees one after another. -/
namespace SourceSnapshot.Artifact

/-- An artifact being written: its sink, and the number of numbered lines of every text written in
full. -/
structure Writer where
  sink : Sink := {}
  lines : Nat := 0

/-- A step of writing. What a failed step has written stays written. -/
abbrev Write := EStateM IoError Writer

def emit (part : String) : Write Unit := fun w =>
  match w.sink.write (Utf8.encode part) with
  | (.ok (), sink) => .ok () { w with sink }
  | (.error e, sink) => .error e { w with sink }

def emitAll (parts : List String) : Write Unit := parts.forM emit

def openingParts (drawing : Option String) : List String :=
  [banner, "\n", drawing.getD missingDrawing, separator]

def writeOpening (drawing : Option String) : Write Unit := emitAll (openingParts drawing)

/-- Writes a text line by line, each behind its number, and gives the number of lines. They are counted
once the last is written. -/
def writeNumbered (content : String) : Write Nat := do
  let lines := (Lines.split content.toList).zipIdx 1
  lines.forM fun line => emitAll ((Numbering.lineParts line.2 line.1).map String.ofList)
  modify fun w => { w with lines := w.lines + lines.length }
  return lines.length

def headerParts (path : Path) : List String :=
  ("\n" ++ headerStart) :: path.displayParts ++ [headerEnd ++ "\n\n"]

def binaryParts (path : Path) : List String := binaryStart :: path.displayParts ++ ["\n"]

def errorParts (path : Path) (message : String) : List String :=
  errorStart :: path.displayParts ++ [": ", message, "\n"]

def writeBody (path : Path) : Outcome → Write Unit
  | .included content => discard (writeNumbered content)
  | .binary => emitAll (binaryParts path)
  | .unreadable message => emitAll (errorParts path message)

def writeBlock (path : Path) (outcome : Outcome) : Write Unit := do
  emitAll (headerParts path)
  writeBody path outcome
  emit separator

def finish : Write Unit := fun w =>
  match w.sink.close with
  | .ok () => .ok () w
  | .error e => .error e w

end SourceSnapshot.Artifact
