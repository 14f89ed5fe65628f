import SourceSnapshot.FileSystem.Error
import SourceSnapshot.Path

/-! What ends a run without an artifact. Trouble with a single file does not; it is told in the
artifact. -/
namespace SourceSnapshot

inductive RunError
  /-- The directory for the artifact could not be made. -/
  | createOutputDir (dir : Path) (cause : IoError)
  /-- The artifact could not be opened for writing. -/
  | createOutput (output : Path) (cause : IoError)
  /-- The artifact could not be written in full. -/
  | write (output : Path) (cause : IoError)
  /-- The configuration could not be read. -/
  | readConfig (file : Path) (cause : IoError)
  /-- The configuration is no configuration, for the reason given. -/
  | parseConfig (file : Path) (problem : String)
  deriving DecidableEq

def RunError.message : RunError → String
  | .createOutputDir dir cause =>
    s!"cannot create output directory '{dir.display}': {cause.message}"
  | .createOutput output cause =>
    s!"cannot open output file '{output.display}' for writing: {cause.message}"
  | .write output cause => s!"error writing output file '{output.display}': {cause.message}"
  | .readConfig file cause => s!"cannot read config file '{file.display}': {cause.message}"
  | .parseConfig file problem => s!"invalid config file '{file.display}': {problem}"

end SourceSnapshot
