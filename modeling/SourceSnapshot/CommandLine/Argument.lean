/-! The arguments of the command line: their names, and what is said of them. -/
namespace SourceSnapshot.CommandLine

inductive Argument
  | path
  | output
  | config
  | ext
  | excludeDir
  | excludeFile
  | level
  | maxDepth
  | gitignore
  | drawing
  | json
  | color
  | verbose
  | help
  | version
  deriving DecidableEq

namespace Argument

def options : List Argument :=
  [output, config, ext, excludeDir, excludeFile, level, maxDepth, gitignore, drawing, json, color,
   verbose, help, version]

def long : Argument → String
  | path => ""
  | output => "output"
  | config => "config"
  | ext => "ext"
  | excludeDir => "exclude-dir"
  | excludeFile => "exclude-file"
  | level => "level"
  | maxDepth => "max-depth"
  | gitignore => "gitignore"
  | drawing => "structure"
  | json => "json"
  | color => "color"
  | verbose => "verbose"
  | help => "help"
  | version => "version"

def short? : Argument → Option Char
  | output => some 'o'
  | ext => some 'e'
  | excludeDir => some 'I'
  | excludeFile => some 'x'
  | level => some 'L'
  | verbose => some 'v'
  | help => some 'h'
  | version => some 'V'
  | _ => none

def valueName? : Argument → Option String
  | output => some "FILE"
  | config => some "FILE"
  | ext => some "EXT"
  | excludeDir => some "NAME"
  | excludeFile => some "NAME"
  | level => some "LEVEL"
  | maxDepth => some "N"
  | drawing => some "KIND"
  | color => some "WHEN"
  | _ => none

def isRepeatable : Argument → Bool
  | ext | excludeDir | excludeFile | verbose | path => true
  | _ => false

def display (a : Argument) : String :=
  match a with
  | path => "[PATH]"
  | verbose => "--verbose..."
  | _ =>
    match a.valueName? with
    | some value => "--" ++ a.long ++ " <" ++ value ++ ">"
    | none => "--" ++ a.long

def ofLong? (name : String) : Option Argument := options.find? (·.long == name)

def ofShort? (letter : Char) : Option Argument := options.find? (·.short? == some letter)

/-- One value of an option that has only a few, and what it means. -/
structure Choice where
  name : String
  meaning : String

def choices : Argument → List Choice
  | drawing => [
    ⟨"external", "Run the `tree` command"⟩,
    ⟨"builtin", "Render the tree without external tools"⟩,
    ⟨"none", "Skip rendering and write the fallback note"⟩]
  | color => [
    ⟨"auto", "Auto-detect based on terminal and environment"⟩,
    ⟨"always", "Always use colors"⟩,
    ⟨"never", "Never use colors"⟩]
  | _ => []

def default? : Argument → Option String
  | path => some "."
  | drawing => some "external"
  | color => some "auto"
  | _ => none

/-- What it is for. The help on help itself depends on which of the two texts it stands in. -/
def purpose (full : Bool) : Argument → String
  | path => "Project root to collect"
  | output => "Output file (default: <PATH>/scripts/go_project_code.txt)"
  | config => "JSON configuration file; flags below are applied on top of it"
  | ext => "Include files with this extension (replaces the configured set; repeatable)"
  | excludeDir => "Skip directories with this exact name (repeatable)"
  | excludeFile => "Skip files with this exact name (repeatable)"
  | level => "Depth of the directory structure summary (at least 1)"
  | maxDepth => "Do not collect files more than N directory levels below the root"
  | gitignore => "Also skip paths matched by .gitignore and .ignore files"
  | drawing => "How to render the structure summary"
  | json => "Print the run summary as JSON"
  | color => "Control color output: auto, always, never"
  | verbose => "Increase log verbosity (-v info, -vv debug, -vvv trace)"
  | help =>
    if full then "Print help (see a summary with '-h')" else "Print help (see more with '--help')"
  | version => "Print version"

end Argument
end SourceSnapshot.CommandLine
