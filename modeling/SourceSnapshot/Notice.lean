import SourceSnapshot.Ignore.Report

/-! What a search meets besides files, and the records in which it is told. -/
namespace SourceSnapshot

inductive Notice
  /-- The search begins, with this working directory if there is one. -/
  | beginning (cwd : Option Path)
  /-- Something about the user's own rules. -/
  | remark (text : String)
  /-- An ignore file that was opened. -/
  | opened (file : Ignore.RuleFile)
  /-- Something that a rule leaves out or keeps. -/
  | judged (path : Path) (verdict : Ignore.Verdict)
  /-- An excluded directory. -/
  | pruned (path : Path)
  /-- A link to a directory. -/
  | linkToDir (path : Path)
  /-- Something that cannot be read. -/
  | unreadable (problem : String)

def searchTarget : String := "gather::tree::sources"

def Notice.records : Notice → List Log.Record
  | .beginning cwd => [Ignore.startRecord cwd]
  | .remark text => [Ignore.report .debug Ignore.dirTarget text]
  | .opened file => file.records
  | .judged path verdict => [verdict.record path]
  | .pruned path =>
    [{ level := .trace, target := searchTarget, message := "pruned excluded directory",
       fields := [("path", path.display)] }]
  | .linkToDir path =>
    [{ level := .trace, target := searchTarget, message := "not following directory symlink",
       fields := [("path", path.display)] }]
  | .unreadable problem =>
    [{ level := .warn, target := searchTarget, message := "skipping unreadable entry",
       fields := [("error", problem)] }]

end SourceSnapshot
