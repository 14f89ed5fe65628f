import SourceSnapshot.Config.Reader
import SourceSnapshot.Json.Printer

/-! Writing a configuration as a JSON object with all six fields. -/
namespace SourceSnapshot.Config
open Json

def fieldValue (c : Config) : Field → Printable
  | .excludedDirs => .texts c.excludedDirs.toList
  | .excludedFiles => .texts c.excludedFiles.toList
  | .includedExtensions => .texts c.includedExtensions.toList
  | .structureDepth => .number c.structureDepth.toNat
  | .maxDepth =>
    match c.maxDepth with
    | some n => .number n.toNat
    | none => .null
  | .respectGitignore => .flag c.respectGitignore

def toJson (c : Config) : String :=
  printObject (Field.all.map fun field => (field.key, c.fieldValue field))

end SourceSnapshot.Config
