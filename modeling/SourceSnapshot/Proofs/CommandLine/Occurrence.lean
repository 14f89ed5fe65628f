import SourceSnapshot.CommandLine.Options
import SourceSnapshot.Proofs.Text.Utf8

/-! The arguments that occur on a command line, each with its value, in the order in which they stand there, and what
an occurrence says. -/
namespace SourceSnapshot.CommandLine

/-- An argument as it occurs, with its value if it takes one. -/
abbrev Occurrence := Argument × Option Bytes

/-- The occurrences in one text, and the argument behind them whose value has to be the next text. -/
abbrev Occurrences := List Occurrence × Option Argument

/-- An argument with the value attached to it, or with the next text for its value. -/
def occurrencesOf (a : Argument) : Option Bytes → Occurrences
  | some value => ([(a, some value)], none)
  | none => ([], some a)

def occurrencesLong (text : Bytes) : Occurrences :=
  match (Utf8.decode? (text.takeWhile (· != 0x3D))).bind Argument.ofLong? with
  | none => ([], none)
  | some a =>
    if a.valueName?.isSome then occurrencesOf a (match text.dropWhile (· != 0x3D) with
      | [] => none
      | _ :: value => some value)
    else ([(a, none)], none)

/-- What occurs in letters after one dash, each with the bytes after it. -/
def occurrencesShort : List (Option Char × Bytes) → Occurrences
  | [] => ([], none)
  | (letter, text) :: rest =>
    match letter.bind Argument.ofShort? with
    | none => ([], none)
    | some a =>
      if a.valueName?.isSome then occurrencesOf a (match text with
        | [] => none
        | b :: value => some (if b = 0x3D then value else b :: value))
      else ((a, none) :: (occurrencesShort rest).1, (occurrencesShort rest).2)

inductive Form
  | dashes
  | long (name : Bytes)
  | short (letters : Bytes)
  | plain

def formOf : Bytes → Form
  | [0x2D, 0x2D] => .dashes
  | 0x2D :: 0x2D :: name => .long name
  | 0x2D :: b :: letters => .short (b :: letters)
  | _ => .plain

theorem ne_nil_of_formOf {text letters : Bytes} (h : formOf text = .short letters) : letters ≠ [] := by
  rw [formOf.eq_def] at h
  split at h
  · cases h
  · cases h
  · rw [← Form.short.inj h]
    simp
  · cases h

/-- What occurs on a command line from a place on where an argument may wait for its value. -/
def occurrencesFrom (waiting : Option Argument) : List Bytes → List Occurrence
  | [] => []
  | text :: rest =>
    match formOf text with
    | .dashes => rest.map fun text => (.path, some text)
    | .long name => (occurrencesLong name).1 ++ occurrencesFrom (occurrencesLong name).2 rest
    | .short letters =>
      let met := occurrencesShort (withRest letters (Utf8.read letters))
      met.1 ++ occurrencesFrom met.2 rest
    | .plain => (waiting.getD .path, some text) :: occurrencesFrom none rest

def occurrences (arguments : List Bytes) : List Occurrence := occurrencesFrom none arguments

example : occurrences (["-vo=a", "--json", "-L", "3", "--", "-v"].map Utf8.encode) =
    [(.verbose, none), (.output, some [0x61]), (.json, none), (.level, some [0x33]), (.path, some [0x2D, 0x76])] :=
  rfl

def Options.set (o : Options) : Occurrence → Reading Options
  | (a, some value) => setValue o a value
  | (.gitignore, none) => .ok { o with gitignore := true }
  | (.json, none) => .ok { o with json := true }
  | (.verbose, none) => .ok { o with verbosity := o.verbosity + 1 }
  | (_, none) => .ok o

theorem exists_of_bind {α β : Type} {x : Reading α} {f : α → Reading β} {b : β} (h : x >>= f = .ok b) :
    ∃ a, x = .ok a ∧ f a = .ok b := by
  cases x with
  | error stop => cases h
  | ok a => exact ⟨a, rfl, h⟩

namespace State

def waitsFor (s : State) : Option Argument :=
  match s.waiting, s.pending with
  | true, some (a, _) => some a
  | _, _ => none

theorem takeAll_cons (s : State) (text : Bytes) (rest : List Bytes) : s.takeAll (text :: rest) =
    match formOf text with
    | .dashes => takePaths { s with waiting := false } rest
    | .long name => s.takeLong name >>= fun s => s.takeAll rest
    | .short letters => s.takeShort letters >>= fun s => s.takeAll rest
    | .plain =>
      match s.waitsFor with
      | some a => takeAll { s with pending := some (a, some text), waiting := false } rest
      | none => s.takePath text >>= fun s => s.takeAll rest := by
  rw [takeAll.eq_def]
  dsimp only
  split
  · rfl
  · rename_i hname
    rw [show formOf _ = .long _ from formOf.eq_2 _ hname]
  · rename_i hdashes hlong
    rw [show formOf _ = .short _ from formOf.eq_3 _ _ hdashes hlong]
  · rename_i hdashes hlong hshort
    rw [show formOf _ = .plain from formOf.eq_4 _ hdashes hlong hshort, waitsFor]
    cases s.waiting with
    | false => rfl
    | true => cases s.pending <;> rfl

end State
end SourceSnapshot.CommandLine
