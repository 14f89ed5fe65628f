import SourceSnapshot.Artifact.Numbering
import SourceSnapshot.Outcome
import SourceSnapshot.Path

/-! The artifact as a text: a banner with the drawing of the project, then one block for each file.
A block is a header with the file's path, its body, which is its numbered lines or a notice, and a
separator. -/
namespace SourceSnapshot.Artifact

def banner : String := "=== GO PROJECT STRUCTURE ==="

def missingDrawing : String :=
  "# Note: Install 'tree' command for better structure visualization"

def separator : String := "\n\n"

def opening (drawing : Option String) : String :=
  banner ++ "\n" ++ drawing.getD missingDrawing ++ separator

def headerStart : String := "// ====== FILE: "

def headerEnd : String := " ======"

def header (path : Path) : String := "\n" ++ headerStart ++ path.display ++ headerEnd ++ "\n\n"

def numbered (content : String) : String :=
  String.ofList (Numbering.number content.toList).flatten

def binaryStart : String := "// Binary file skipped: "

def binaryNotice (path : String) : String := binaryStart ++ path ++ "\n"

def errorStart : String := "// Error reading file: "

def errorNoticeStart (path : String) : String := errorStart ++ path ++ ": "

def errorNotice (path message : String) : String := errorNoticeStart path ++ message ++ "\n"

def body (path : Path) : Outcome → String
  | .included content => numbered content
  | .binary => binaryNotice path.display
  | .unreadable message => errorNotice path.display message

def block (path : Path) (outcome : Outcome) : String :=
  header path ++ body path outcome ++ separator

def text (drawing : Option String) (blocks : List (Path × Outcome)) : String :=
  opening drawing ++ String.join (blocks.map fun (path, outcome) => block path outcome)

end SourceSnapshot.Artifact
