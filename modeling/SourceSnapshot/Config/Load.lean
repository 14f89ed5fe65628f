import SourceSnapshot.Config.Reader
import SourceSnapshot.FileSystem.Basic
import SourceSnapshot.RunError

/-! Loading a configuration from a file. -/
namespace SourceSnapshot.Config

def load (fs : FileSystem) (file : Path) : Except RunError Config :=
  match fs.readText file with
  | .error cause => .error (.readConfig file cause)
  | .ok text =>
    match ofJson text with
    | .error problem => .error (.parseConfig file problem)
    | .ok c => .ok c

end SourceSnapshot.Config
