import SourceSnapshot.Filter
import SourceSnapshot.Outcome

/-! The account of a run: every file that was seen is counted once, by what became of it. -/
namespace SourceSnapshot

structure Summary where
  /-- Where the artifact was written. -/
  output : Path := ⟨[]⟩
  /-- Whether the artifact opens with a drawing of the project. -/
  drawn : Bool := false
  /-- Files whose text was written. -/
  included : Nat := 0
  skippedName : Nat := 0
  skippedExtension : Nat := 0
  skippedBinary : Nat := 0
  readErrors : Nat := 0
  /-- Numbered lines written. -/
  lines : Nat := 0
  deriving DecidableEq

namespace Summary

def recordDecision (s : Summary) : Decision → Summary
  | .included => s
  | .skippedName => { s with skippedName := s.skippedName + 1 }
  | .skippedExtension => { s with skippedExtension := s.skippedExtension + 1 }

def recordOutcome (s : Summary) : Outcome → Summary
  | .included _ => { s with included := s.included + 1 }
  | .binary => { s with skippedBinary := s.skippedBinary + 1 }
  | .unreadable _ => { s with readErrors := s.readErrors + 1 }

def filesWritten (s : Summary) : Nat := s.included + s.skippedBinary + s.readErrors

def filesSeen (s : Summary) : Nat := s.filesWritten + s.skippedName + s.skippedExtension

end Summary
end SourceSnapshot
