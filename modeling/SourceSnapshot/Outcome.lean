import SourceSnapshot.FileSystem.Error
import SourceSnapshot.Text.Utf8

/-! What became of a file that is to be collected. It is read and judged as a whole, so nothing of a
file that turns out not to be text reaches the artifact. -/
namespace SourceSnapshot

inductive Outcome
  /-- The text of the file. -/
  | included (content : String)
  /-- The file is not text in UTF-8. -/
  | binary
  /-- The file could not be read, for the reason given. -/
  | unreadable (message : String)
  deriving DecidableEq

def Outcome.ofRead : Except IoError Bytes → Outcome
  | .error e => .unreadable e.message
  | .ok bytes =>
    match Utf8.decode? bytes with
    | some content => .included content
    | none => .binary

end SourceSnapshot
