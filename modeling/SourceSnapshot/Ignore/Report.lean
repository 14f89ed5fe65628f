import SourceSnapshot.Ignore.Rules
import SourceSnapshot.Ignore.Strategy
import SourceSnapshot.Log.Record
import SourceSnapshot.Text.Quoted

/-! What is told in records about ignore files: each file that is opened, how the patterns in it are
matched, and each verdict. -/
namespace SourceSnapshot.Ignore

/-- A record about ignore files, which carries its origin without showing it. -/
def report (level : Log.Level) (target message : String) : Log.Record :=
  { level, target, message
    unshown := ["log.target", "log.module_path", "log.file", "log.line"] }

def readerTarget : String := "ignore::gitignore"

def matcherTarget : String := "globset"

def walkTarget : String := "ignore::walk"

def RuleFile.records (f : RuleFile) : List Log.Record :=
  let opened := report .debug readerTarget ("opened gitignore file: " ++ f.path.display)
  if f.rules.isEmpty then [opened]
  else
    let slow := f.rules.filter fun rule => Glob.strategyOf rule.tokens = .onPath
    opened :: slow.map (fun rule => report .debug matcherTarget
      ("glob `Glob(" ++ Quoted.quote rule.pattern ++ ")` converted to regex: `" ++
        Quoted.quote (Glob.expression rule.tokens) ++ "`")) ++
    [report .debug matcherTarget (Glob.describeSet (f.rules.map Rule.tokens))]

def Verdict.describe (v : Verdict) : String :=
  "Glob \x7b from: Some(" ++ Quoted.quoteBytes v.file.bytes ++ "), original: " ++
  Quoted.quote v.rule.line ++ ", actual: " ++ Quoted.quote v.rule.pattern ++
  s!", is_whitelist: {v.rule.keeps}, is_only_dir: {v.rule.onlyDirs} " ++ "\x7d"

def Verdict.record (v : Verdict) (path : Path) : Log.Record :=
  let (verb, kind) := if v.ignores then ("ignoring", "Ignore") else ("whitelisting", "Whitelist")
  report .debug walkTarget
    (verb ++ " " ++ path.display ++ ": " ++ kind ++ "(IgnoreMatch(Gitignore(" ++ v.describe ++ ")))")

def dirTarget : String := "ignore::dir"

def startRecord : Option Path → Log.Record
  | some cwd => report .trace walkTarget ("automatically discovered CWD: " ++ cwd.display)
  | none => report .debug walkTarget
      ("failed to find CWD (global gitignores will be ignored): " ++ IoError.noEntry.message)

end SourceSnapshot.Ignore
