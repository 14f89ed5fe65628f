import SourceSnapshot.CommandLine.Argument

/-! The help texts: one line an argument, or a paragraph each. -/
namespace SourceSnapshot.CommandLine

def programName : String := "gather"

def versionText : String := programName ++ " 0.1.0\n"

def about : String :=
  "Flatten a project's source files into a single line-numbered snapshot"

def usage : String := "Usage: " ++ programName ++ " [OPTIONS] [PATH]"

private def blanks (n : Nat) : String := String.ofList (List.replicate n ' ')

def Argument.listed (a : Argument) : String :=
  match a, a.short? with
  | .path, _ => a.display
  | _, some letter => "-" ++ letter.toString ++ ", " ++ a.display
  | _, none => blanks 4 ++ a.display

def inColumn (texts : List String) (text : String) : String :=
  let width := (texts.map String.length).foldl max 0
  text ++ blanks (width - text.length)

def Argument.remarks (a : Argument) : String :=
  (match a.default? with
    | some value => " [default: " ++ value ++ "]"
    | none => "") ++
  (if a.choices.isEmpty then ""
    else " [possible values: " ++ ", ".intercalate (a.choices.map (·.name)) ++ "]")

def shortSection (arguments : List Argument) : String :=
  let heads := arguments.map Argument.listed
  String.join (arguments.map fun a =>
    blanks 2 ++ inColumn heads a.listed ++ blanks 2 ++ a.purpose false ++ a.remarks ++ "\n")

def shortHelp : String :=
  about ++ "\n\n" ++ usage ++ "\n\nArguments:\n" ++ shortSection [.path] ++ "\nOptions:\n" ++
    shortSection Argument.options

def margin : String := blanks 10

def Argument.paragraph (a : Argument) : String :=
  let names := a.choices.map fun choice => choice.name ++ ":"
  blanks 2 ++ a.listed ++ "\n" ++ margin ++ a.purpose true ++ "\n" ++
  (if a.choices.isEmpty then ""
    else "\n" ++ margin ++ "Possible values:\n" ++ String.join (a.choices.map fun choice =>
      margin ++ "- " ++ inColumn names (choice.name ++ ":") ++ " " ++ choice.meaning ++ "\n")) ++
  (match a.default? with
    | some value => margin ++ "\n" ++ margin ++ "[default: " ++ value ++ "]\n"
    | none => "")

def longSection (arguments : List Argument) : String :=
  "\n".intercalate (arguments.map Argument.paragraph)

def longHelp : String :=
  about ++ "\n\n" ++ usage ++ "\n\nArguments:\n" ++ longSection [.path] ++ "\nOptions:\n" ++
    longSection Argument.options

end SourceSnapshot.CommandLine
