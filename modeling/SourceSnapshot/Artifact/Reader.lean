import SourceSnapshot.Artifact.Text

/-! Reading an artifact back. It is cut at the lines of its headers; what lies between two of them
tells the outcome of a file, content and all, because no line of a body can be taken for a header's.
-/
namespace SourceSnapshot.Artifact

/-- What stands between two given texts, if `s` begins with the one and ends with the other. -/
def between? (front back s : List Char) : Option (List Char) :=
  if front.isPrefixOf s then
    let rest := s.drop front.length
    if back.isSuffixOf rest then some (rest.take (rest.length - back.length)) else none
  else none

def headerPath? (line : List Char) : Option (List Char) :=
  between? headerStart.toList (headerEnd ++ "\n").toList line

def cutAtHeaders : List (List Char) → List (List Char) × List (List Char × List (List Char))
  | [] => ([], [])
  | line :: rest =>
    let (front, sections) := cutAtHeaders rest
    match headerPath? line with
    | some path => ([], (path, front) :: sections)
    | none => (line :: front, sections)

/-- The outcome that a body tells: one that is empty or begins with a numbered line is the text
behind the numbers, any other is a notice. -/
def outcomeOfBody? (path : String) (body : List Char) : Option Outcome :=
  let lines := Lines.split body
  if lines.head?.all fun line => (Numbering.stripNumber? line).isSome then
    (lines.mapM Numbering.stripNumber?).map fun lines => .included (String.ofList lines.flatten)
  else if body = (binaryNotice path).toList then some .binary
  else (between? (errorNoticeStart path).toList ['\n'] body).map fun message =>
    .unreadable (String.ofList message)

/-- The paths and outcomes of sections. A body has an empty line before it, the separator after it,
and then the empty line before the next header. -/
def readSections : List (List Char × List (List Char)) → Option (List (String × Outcome))
  | [] => some []
  | (path, lines) :: rest => do
    let path := String.ofList path
    let after := separator.toList ++ if rest.isEmpty then [] else ['\n']
    let body ← between? ['\n'] after lines.flatten
    let outcome ← outcomeOfBody? path body
    return (path, outcome) :: (← readSections rest)

def read? (artifact : String) : Option (List (String × Outcome)) :=
  readSections (cutAtHeaders (Lines.split artifact.toList)).2

end SourceSnapshot.Artifact
