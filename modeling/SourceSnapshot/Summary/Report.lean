import SourceSnapshot.Environment
import SourceSnapshot.Json.Printer
import SourceSnapshot.Summary.Basic
import SourceSnapshot.Text.Numeral

/-! The account of a run as it is printed: a message of two or three lines, or JSON. -/
namespace SourceSnapshot.Summary

inductive Style
  | plain
  | bold
  | green
  | yellow
  deriving DecidableEq

def resetCode : String := "\x1b[0m"

def Style.code : Style → String
  | .plain => ""
  | .bold => "\x1b[1m"
  | .green => "\x1b[32m"
  | .yellow => "\x1b[33m"

structure Span where
  style : Style
  text : String

def Span.render (codes : Bool) (s : Span) : String :=
  if codes && s.style != .plain then resetCode ++ s.style.code ++ s.text ++ resetCode else s.text

/-- The message. Files that were not taken in are mentioned only if there are any. -/
def spans (s : Summary) : List Span :=
  [⟨.bold, "Project code collected into: "⟩,
   ⟨.plain, s.output.display ++ "\n"⟩,
   ⟨.green, "  " ++ Numeral.grouped s.included ++ " files"⟩,
   ⟨.plain, ", " ++ Numeral.grouped s.lines ++ " lines"⟩] ++
  (if s.skippedBinary + s.readErrors > 0 then
    [⟨.plain, ", "⟩,
     ⟨.yellow, toString s.skippedBinary ++ " binary, " ++ toString s.readErrors ++ " unreadable"⟩]
   else []) ++
  [⟨.plain, "\n"⟩] ++
  (if s.drawn then [] else [⟨.plain, "  (structure summary unavailable)\n"⟩])

/-- The message as printed. Codes are written only where colour is wanted and the environment allows
them. -/
def report (s : Summary) (color : Bool) (e : Environment) : String :=
  String.join (s.spans.map (Span.render (color && e.allowsCodes)))

def unprintablePath : IoError := .custom .other "path contains invalid UTF-8 characters"

/-- The summary as JSON with a line feed after it; its output path has to be text. -/
def reportJson (s : Summary) : Except IoError String :=
  match Utf8.decode? s.output.bytes with
  | none => .error unprintablePath
  | some output =>
    .ok (Json.printObject [
      ("output", .text output),
      ("structure", .text (if s.drawn then "rendered" else "fallback")),
      ("included", .number s.included),
      ("skipped_name", .number s.skippedName),
      ("skipped_extension", .number s.skippedExtension),
      ("skipped_binary", .number s.skippedBinary),
      ("read_errors", .number s.readErrors),
      ("lines", .number s.lines)] ++ "\n")

end SourceSnapshot.Summary
