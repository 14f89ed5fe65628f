import SourceSnapshot.Collect
import SourceSnapshot.CommandLine.Help
import SourceSnapshot.CommandLine.Options
import SourceSnapshot.Config.Load
import SourceSnapshot.Log.Filter
import SourceSnapshot.Summary.Report

/-! The program: it reads its command line, collects the project, and prints the account. -/
namespace SourceSnapshot.CommandLine

inductive Told
  | record (r : Log.Record)
  | message (text : String)

structure Ran where
  code : Nat
  stdout : String := ""
  told : List Told := []
  fs : FileSystem

/-- The configuration that a command line asks for: its file or the defaults, then what it says
itself. -/
def configOf (fs : FileSystem) (o : Options) : Except RunError Config := do
  let base ← match o.config with
    | some file => Config.load fs file
    | none => .ok .standard
  let c := if o.extensions.isEmpty then base else base.withExtensions o.extensions
  let c := (c.excludeDirs o.excludeDirs).excludeFiles o.excludeFiles
  return { c with
    structureDepth := o.level.getD c.structureDepth
    maxDepth := o.maxDepth.or c.maxDepth
    respectGitignore := o.gitignore || c.respectGitignore }

def rendererOf (e : Environment) : DrawingMode → Renderer
  | .external => .external e Renderer.defaultProgram
  | .builtin => .builtin
  | .none => .none

/-- The root as a path that does not hang on the working directory, as long as that is known. -/
def rootOf (fs : FileSystem) (o : Options) : Path :=
  (fs.workingDir?.getD (.ofString ".")).join o.path

def printed (o : Options) (e : Environment) (terminal : Bool) (s : Summary) :
    Except IoError String :=
  if o.json then s.reportJson else .ok (s.report (o.color.wanted e terminal) e)

def runOptions (fs : FileSystem) (e : Environment) (terminal : Bool) (o : Options) : Ran :=
  let failed (fs : FileSystem) (log : List Log.Record) (text : String) : Ran :=
    { code := 1, told := log.map .record ++ [.message (programName ++ ": " ++ text)], fs }
  let root := rootOf fs o
  if !fs.isDir root then
    failed fs [] s!"cannot access '{o.path.display}': No such directory"
  else match configOf fs o with
    | .error error => failed fs [] error.message
    | .ok config =>
      let collection : Collection := { config, renderer := rendererOf e o.drawing }
      let collected := collection.collect fs root (o.output.getD (defaultOutputPath root))
      let filter := Log.Filter.ofRun e.logFilter o.verbosity
      let shown := collected.log.filter filter.shows
      match collected.result with
      | .error error => failed collected.fs shown error.message
      | .ok summary =>
        match printed o e terminal summary with
        | .error error => failed collected.fs shown s!"error writing summary: {error.message}"
        | .ok text => { code := 0, stdout := text, told := shown.map .record, fs := collected.fs }

/-- Runs the program with arguments; `terminal` says that its output is shown on one. -/
def run (fs : FileSystem) (e : Environment) (terminal : Bool) (arguments : List Bytes) : Ran :=
  match parse arguments with
  | .error (.help full) => { code := 0, stdout := if full then longHelp else shortHelp, fs }
  | .error .version => { code := 0, stdout := versionText, fs }
  | .error (.usage error) =>
    { code := 2
      told := [.message ("error: " ++ error.message), .message "", .message usage, .message "",
        .message "For more information, try '--help'."]
      fs }
  | .ok o => runOptions fs e terminal o

end SourceSnapshot.CommandLine
