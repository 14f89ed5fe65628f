import SourceSnapshot.FileSystem.Error
import SourceSnapshot.Bytes

/-! Where an artifact is written to. A sink takes bytes in order until it has no room; a write that
goes beyond is cut there and fails, and so does every later one that is not empty. -/
namespace SourceSnapshot

structure Sink where
  /-- What was taken so far, write by write, the latest first. -/
  taken : List Bytes := []
  /-- How many bytes will still be taken; no bound if absent. -/
  room : Option Nat := none
  /-- How a write beyond the room fails. -/
  failure : IoError := .noSpace
  /-- How handing over what was taken fails, if it does. -/
  closeFailure : Option IoError := none
  /-- A write that was merely interrupted has not failed; it is made again. -/
  lasting : failure.kind ≠ .interrupted := by decide

namespace Sink

def accepted (s : Sink) : Bytes := s.taken.reverse.flatten

def take (s : Sink) (text : Bytes) : Sink := { s with taken := text :: s.taken }

@[simp] theorem accepted_take (s : Sink) (text : Bytes) :
    (s.take text).accepted = s.accepted ++ text := by
  simp [accepted, take]

abbrev unlimited : Sink := {}

def bounded (limit : Nat) (failure : IoError) (lasting : failure.kind ≠ .interrupted := by decide) : Sink :=
  { room := some limit, failure, lasting }

def bufferSize : Nat := 8192

/-- How many bytes are gathered after a write of this size: one that does not fit makes the others be
handed over first, and a large one is not gathered at all. -/
def holdAfter (size held : Nat) : Nat :=
  if bufferSize ≤ size then 0 else if bufferSize < held + size then size else held + size

def held (s : Sink) : Nat := s.taken.foldr (fun text => holdAfter text.length) 0

def stored (s : Sink) : Bytes := s.accepted.take (s.accepted.length - s.held)

/-- A device without space: writes only reach the buffer, and handing them over fails. -/
def withoutSpace : Sink := { room := some bufferSize, closeFailure := some .noSpace }

def write (s : Sink) (text : Bytes) : Except IoError Unit × Sink :=
  match s.room with
  | none => (.ok (), s.take text)
  | some room =>
    let after := Sink.take { s with room := some (room - text.length) } (text.take room)
    if text.length ≤ room then (.ok (), after) else (.error s.failure, after)

def close (s : Sink) : Except IoError Unit :=
  match s.closeFailure with
  | some e => .error e
  | none => .ok ()

end Sink
end SourceSnapshot
