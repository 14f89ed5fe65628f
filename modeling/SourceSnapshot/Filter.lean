import SourceSnapshot.Config.Basic

/-! Whether a file that was found is collected. -/
namespace SourceSnapshot

inductive Decision
  | included
  | skippedName
  | skippedExtension
  deriving DecidableEq

def Decision.label : Decision → String
  | .included => "Include"
  | .skippedName => "SkippedName"
  | .skippedExtension => "SkippedExtension"

def Config.decide (c : Config) (p : Path) : Decision :=
  if c.isExcludedFile p.fileNameLossy then .skippedName
  else if c.includesExtension p then .included
  else .skippedExtension

end SourceSnapshot
