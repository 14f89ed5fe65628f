import SourceSnapshot.FileSystem.Basic
import SourceSnapshot.Program.Script.Expression

/-! Conditions in scripts: questions about texts, numbers and files, joined by words for and, or and
not. -/
namespace SourceSnapshot.Script

def unaryNames : List String := [
  "-z", "-n", "-e", "-f", "-d", "-h", "-L", "-s", "-r", "-w", "-x", "-c", "-b", "-p", "-S", "-t",
  "-u", "-g", "-k", "-O", "-G"]

def binaryNames : List String := [
  "=", "!=", "<", ">", "-eq", "-ne", "-lt", "-le", "-gt", "-ge", "-nt", "-ot", "-ef"]

def isUnary (word : Bytes) : Bool := unaryNames.any (Utf8.encode · = word)

def isBinary (word : Bytes) : Bool := binaryNames.any (Utf8.encode · = word)

def asksUnary : List Bytes → Bool
  | name :: _ :: second :: _ :: _ => isUnary name && !isBinary second
  | [name, _, _] => isUnary name
  | [name, _] => isUnary name
  | _ => false

def askFile (fs : FileSystem) (question : String) (path : Bytes) : Bool :=
  if question = "-h" || question = "-L" then
    match fs.land .keep ⟨path⟩ with
    | .ok (.found _ (.link _)) => true
    | _ => false
  else match fs.resolve ⟨path⟩ with
    | .error _ => false
    | .ok (_, node) =>
      match question, node with
      | "-f", .file _ _ | "-f", .tool _ => true
      | "-f", _ => false
      | "-d", .dir _ => true
      | "-d", _ => false
      | "-s", .file content _ => !content.isEmpty
      | "-s", .device _ => false
      | "-x", .file _ executable => executable
      | "-x", .device _ => false
      | "-c", .device _ => true
      | "-b", _ | "-c", _ | "-p", _ | "-S", _ | "-u", _ | "-g", _ | "-k", _ => false
      | _, _ => true

def askUnary (fs : FileSystem) (question word : Bytes) : Option Bool :=
  match Utf8.decodeLossy question with
  | "-z" => some word.isEmpty
  | "-n" => some !word.isEmpty
  | "-t" => (integer? word).map fun _ => false
  | question => some (askFile fs question word)

/-- The answer to a question about two words; none if one of them should be a number. -/
def askBinary (fs : FileSystem) (first question second : Bytes) : Option Bool := do
  let compare (holds : Int → Int → Bool) : Option Bool := do
    if first.isEmpty || second.isEmpty then none
    return holds (← integer? first) (← integer? second)
  match Utf8.decodeLossy question with
  | "=" => return first = second
  | "!=" => return first != second
  | "<" => return first < second
  | ">" => return second < first
  | "-eq" => compare (· = ·)
  | "-ne" => compare (· ≠ ·)
  | "-lt" => compare (· < ·)
  | "-le" => compare (· ≤ ·)
  | "-gt" => compare (· > ·)
  | "-ge" => compare (· ≥ ·)
  | "-ef" =>
    match fs.resolve ⟨first⟩, fs.resolve ⟨second⟩ with
    | .ok (loc, _), .ok (other, _) => return loc = other
    | _, _ => return false
  | _ => return false

namespace Condition

abbrev Reader := StateT (List Bytes) Option

def takes (text : String) : Reader Bool := do
  match ← get with
  | first :: rest =>
    if first = Utf8.encode text then
      set rest
      return true
    else return false
  | [] => return false

mutual

def either (fs : FileSystem) : Nat → Reader Bool
  | 0 => failure
  | fuel + 1 => do
    let first ← both fs fuel
    if ← takes "-o" then return (← either fs fuel) || first
    else return first

def both (fs : FileSystem) : Nat → Reader Bool
  | 0 => failure
  | fuel + 1 => do
    let first ← single fs fuel
    if ← takes "-a" then return (← both fs fuel) && first
    else return first

def single (fs : FileSystem) : Nat → Reader Bool
  | 0 => failure
  | fuel + 1 => do
    match ← get with
    | [] => return false
    | first :: rest =>
      match rest with
      | question :: second :: later =>
        if isBinary question then
          set later
          return ← askBinary fs first question second
      | _ => pure ()
      if first = Utf8.encode "!" && !rest.isEmpty then
        set rest
        return !(← single fs fuel)
      else if first = Utf8.encode "(" && !rest.isEmpty then
        set rest
        let inner ← either fs fuel
        if !(← takes ")") then failure
        return inner
      else if asksUnary (first :: rest) then
        set (rest.drop 1)
        askUnary fs first (rest.headD [])
      else
        set rest
        return !first.isEmpty

end

def holds? (fs : FileSystem) (words : List Bytes) : Option Bool :=
  match either fs (4 * words.length + 4) words with
  | some (answer, []) => some answer
  | some (answer, [_]) => if words.length = 1 then some answer else none
  | _ => none

end Condition

end SourceSnapshot.Script
