import SourceSnapshot.Program.Launch
import SourceSnapshot.Tree.Drawing
import SourceSnapshot.Tree.Listing

/-! The drawing of the project's structure, and who makes it. A renderer that fails costs the
artifact its drawing and nothing else. -/
namespace SourceSnapshot

/-- Draws the directory at a root, so many levels deep, without the directories of some names. -/
abbrev Renderer := FileSystem → Path → UInt64 → NameSet → Except IoError String

namespace Renderer

/-- Draws the tree itself. It draws at least one level. -/
def builtin : Renderer := fun fs root depth excluded =>
  if depth = 0 then .error (.custom .invalidInput "structure depth must be greater than 0")
  else (Tree.ofDirectory fs root depth excluded).map Tree.format

def none : Renderer := fun _ _ _ _ =>
  .error (.custom .unsupported "structure rendering disabled")

def arguments (root : Path) (depth : UInt64) (excluded : NameSet) : List Bytes :=
  [Utf8.encode "-L", Utf8.encodeChars (Numeral.digits depth.toNat)] ++
  (if excluded.toList.isEmpty then []
    else [Utf8.encode "-I", Utf8.encode ("|".intercalate excluded.toList)]) ++
  [root.bytes]

def external (e : Environment) (program : Bytes) : Renderer :=
  fun fs root depth excluded => do
    let run ← Program.launch fs e program (arguments root depth excluded)
    if run.ending = .status 0 then .ok (Utf8.decodeLossy run.output)
    else .error (.custom .other
      (Utf8.decodeLossy program ++ " exited with " ++ Program.describe run.ending))

def defaultProgram : Bytes := Utf8.encode "tree"

end Renderer
end SourceSnapshot
