import SourceSnapshot.Bytes

/-! The variables that a run looks at, and what they say about colour. -/
namespace SourceSnapshot

structure Environment where
  term : Option Bytes := none
  noColor : Option Bytes := none
  forceColor : Option Bytes := none
  logFilter : Option Bytes := none
  searchPath : Option Bytes := none

namespace Environment

def bindings (e : Environment) : List (Bytes × Bytes) :=
  [("TERM", e.term), ("NO_COLOR", e.noColor), ("FORCE_COLOR", e.forceColor),
    ("RUST_LOG", e.logFilter), ("PATH", e.searchPath)].filterMap fun (name, value) =>
      value.map fun value => (name.toUTF8.toList, value)

def dumb : Bytes := "dumb".toUTF8.toList

def allowsCodes (e : Environment) : Bool :=
  e.term.isSome && e.term != some dumb && e.noColor.isNone

end Environment

inductive ColorMode
  | auto
  | always
  | never
  deriving DecidableEq

/-- Whether colour is wanted; `terminal` says that the output is shown on one. -/
def ColorMode.wanted (mode : ColorMode) (e : Environment) (terminal : Bool) : Bool :=
  match mode with
  | .always => true
  | .never => false
  | .auto =>
    e.noColor.isNone && (e.forceColor.isSome || (e.term != some Environment.dumb && terminal))

end SourceSnapshot
