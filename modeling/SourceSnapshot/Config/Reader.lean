import SourceSnapshot.Config.Basic
import SourceSnapshot.Json.Scan
import SourceSnapshot.Text.Quoted
import SourceSnapshot.Text.Shortest

/-! Reading a configuration from JSON: an object with some of the six fields, or an array with the
first few of them in order. The text is read once from left to right, and the first thing wrong in
it is reported. -/
namespace SourceSnapshot.Config
open Json

inductive Field
  | excludedDirs
  | excludedFiles
  | includedExtensions
  | structureDepth
  | maxDepth
  | respectGitignore
  deriving DecidableEq

namespace Field

def all : List Field :=
  [excludedDirs, excludedFiles, includedExtensions, structureDepth, maxDepth, respectGitignore]

def key : Field → String
  | excludedDirs => "excluded_dirs"
  | excludedFiles => "excluded_files"
  | includedExtensions => "included_extensions"
  | structureDepth => "structure_depth"
  | maxDepth => "max_depth"
  | respectGitignore => "respect_gitignore"

def ofKey? (key : String) : Option Field := all.find? (·.key == key)

end Field

/-- Numbers in messages are positional from `1e-5` up to below `1e16`. -/
def realLayout : Shortest.Layout := ⟨-5, 15⟩

def describeNumber : Number → String
  | .natural n => s!"integer `{n}`"
  | .negative n => s!"integer `-{n}`"
  | .real x => s!"floating point `{realLayout.float x}`"

def wrongKind (found wanted : String) : Reason :=
  .unwanted s!"invalid type: {found}, expected {wanted}"

/-- The fault of a value that is not of the kind wanted. A word, number or string is read first,
which may fail in itself; a list or object is not entered. -/
def unwantedValue (wanted : String) (s : List Char) : Fault :=
  let scalar (read : Step String) : Fault :=
    match read with
    | .error fault => fault
    | .ok (found, rest) => .before (wrongKind found wanted) rest
  let word (text : String) (found : String) (s : List Char) : Fault :=
    scalar ((expectWord text.toList s).map fun rest => (found, rest))
  match s with
  | [] => .at .unfinishedValue []
  | 'n' :: rest => word "ull" "null" rest
  | 't' :: rest => word "rue" "boolean `true`" rest
  | 'f' :: rest => word "alse" "boolean `false`" rest
  | '-' :: rest => scalar ((number false rest).map fun (n, rest) => (describeNumber n, rest))
  | '"' :: rest =>
    scalar ((stringBody [] rest).map fun (x, rest) => (s!"string {Quoted.quote x}", rest))
  | '[' :: _ => .before (wrongKind "sequence" wanted) s
  | '{' :: _ => .before (wrongKind "map" wanted) s
  | c :: _ =>
    if c.isDigit then scalar ((number true s).map fun (n, rest) => (describeNumber n, rest))
    else .at .expectedValue s

def readText (s : List Char) : Step String :=
  match s with
  | '"' :: rest => stringBody [] rest
  | _ => .error (unwantedValue "a string" s)

theorem length_readText {s rest : List Char} {x : String} (h : readText s = .ok (x, rest)) :
    rest.length < s.length := by
  unfold readText at h
  split at h
  · have := length_stringBody h
    simp only [List.length_cons]; omega
  · simp at h

theorem length_skipBlank (s : List Char) : (skipBlank s).length ≤ s.length :=
  (List.dropWhile_sublist isBlank).length_le

/-- Reads the rest of a list of strings, after one of them; `before` holds those read, reversed. -/
def readMoreNames (before : List String) (s : List Char) : Step (List String) :=
  match _hs : skipBlank s with
  | [] => .error (.at .unfinishedList [])
  | ']' :: rest => .ok (before.reverse, rest)
  | ',' :: afterComma =>
    match _hc : skipBlank afterComma with
    | [] => .error (.at .unfinishedValue [])
    | ']' :: rest => .error (.at .trailingComma (']' :: rest))
    | c :: more =>
      match _hx : readText (c :: more) with
      | .error fault => .error fault
      | .ok (x, rest) => readMoreNames (x :: before) rest
  | c :: rest => .error (.at .expectedListEnd (c :: rest))
  termination_by s.length
  decreasing_by
    have hs := _hs ▸ length_skipBlank s
    have hc := _hc ▸ length_skipBlank afterComma
    have hx := length_readText _hx
    simp only [List.length_cons] at *
    omega

def readNames (s : List Char) : Step NameSet :=
  match s with
  | '[' :: rest =>
    match skipBlank rest with
    | [] => .error (.at .unfinishedList [])
    | ']' :: rest => .ok (.empty, rest)
    | s =>
      match readText s with
      | .error fault => .error fault
      | .ok (x, rest) => (readMoreNames [x] rest).map fun (names, rest) => (.ofList names, rest)
  | _ => .error (unwantedValue "a sequence" s)

def readWord (s : List Char) : Step UInt64 :=
  let judge (read : Step Number) : Step UInt64 :=
    match read with
    | .error fault => .error fault
    | .ok (.natural n, rest) => .ok (UInt64.ofNat n, rest)
    | .ok (.negative n, rest) =>
      .error (.before (.unwanted s!"invalid value: integer `-{n}`, expected usize") rest)
    | .ok (.real x, rest) => .error (.before (wrongKind (describeNumber (.real x)) "usize") rest)
  match s with
  | '-' :: rest => judge (number false rest)
  | c :: _ => if c.isDigit then judge (number true s) else .error (unwantedValue "usize" s)
  | [] => .error (unwantedValue "usize" s)

def readLimit (s : List Char) : Step (Option UInt64) :=
  match s with
  | 'n' :: rest => (expectWord "ull".toList rest).map fun rest => (none, rest)
  | _ => (readWord s).map fun (n, rest) => (some n, rest)

def readFlag (s : List Char) : Step Bool :=
  match s with
  | 't' :: rest => (expectWord "rue".toList rest).map fun rest => (true, rest)
  | 'f' :: rest => (expectWord "alse".toList rest).map fun rest => (false, rest)
  | _ => .error (unwantedValue "a boolean" s)

def readValue (c : Config) (field : Field) (s : List Char) : Step Config :=
  match field with
  | .excludedDirs => (readNames s).map fun (names, rest) => ({ c with excludedDirs := names }, rest)
  | .excludedFiles =>
    (readNames s).map fun (names, rest) => ({ c with excludedFiles := names }, rest)
  | .includedExtensions =>
    (readNames s).map fun (names, rest) => ({ c with includedExtensions := names }, rest)
  | .structureDepth => (readWord s).map fun (n, rest) => ({ c with structureDepth := n }, rest)
  | .maxDepth => (readLimit s).map fun (n, rest) => ({ c with maxDepth := n }, rest)
  | .respectGitignore => (readFlag s).map fun (b, rest) => ({ c with respectGitignore := b }, rest)

def readColon (s : List Char) : Except Fault (List Char) :=
  match skipBlank s with
  | [] => .error (.at .unfinishedObject [])
  | ':' :: rest => .ok (skipBlank rest)
  | s => .error (.at .expectedColon s)

/-- The fault of a key that cannot be used. It is reported where the object goes on, after its
closing brace if that is next. -/
def unusableKey (problem : String) (s : List Char) : Fault :=
  match skipBlank s with
  | '}' :: rest => .before (.unwanted problem) rest
  | s => .before (.unwanted problem) s

def readKey (s : List Char) : Step Field :=
  match stringBody [] s with
  | .error fault => .error fault
  | .ok (key, rest) =>
    match Field.ofKey? key with
    | some field => .ok (field, rest)
    | none =>
      let known := ", ".intercalate (Field.all.map fun field => s!"`{field.key}`")
      .error (unusableKey s!"unknown field `{key}`, expected one of {known}" rest)

/-- Reads what follows a field: `true` if another one does, whose opening quote is then read too,
and `false` if the object ends. -/
def readSeparator (s : List Char) : Step Bool :=
  match skipBlank s with
  | [] => .error (.at .unfinishedObject [])
  | '}' :: rest => .ok (false, rest)
  | ',' :: rest =>
    match skipBlank rest with
    | '"' :: rest => .ok (true, rest)
    | '}' :: rest => .error (.at .trailingComma ('}' :: rest))
    | [] => .error (.at .unfinishedValue [])
    | s => .error (.at .keyNotString s)
  | s => .error (.at .expectedObjectEnd s)

/-- Reads the fields of an object, after the opening quote of the first. `unread` are the fields not
given yet; a second value for a field is refused. -/
def readFields (unread : List Field) (c : Config) (s : List Char) : Step Config :=
  match readKey s with
  | .error fault => .error fault
  | .ok (field, rest) =>
    if _h : field ∈ unread then
      match (readColon rest).bind (readValue c field) with
      | .error fault => .error fault
      | .ok (c, rest) =>
        match readSeparator rest with
        | .error fault => .error fault
        | .ok (false, rest) => .ok (c, rest)
        | .ok (true, rest) => readFields (unread.erase field) c rest
    else .error (unusableKey s!"duplicate field `{field.key}`" rest)
  termination_by unread.length
  decreasing_by
    have := List.length_pos_of_mem _h
    rw [List.length_erase_of_mem _h]
    omega

def readObject (s : List Char) : Step Config :=
  match skipBlank s with
  | [] => .error (.at .unfinishedObject [])
  | '}' :: rest => .ok (standard, rest)
  | '"' :: rest => readFields Field.all standard rest
  | s => .error (.at .keyNotString s)

def readListEnd (s : List Char) : Except Fault (List Char) :=
  match skipBlank s with
  | [] => .error (.at .unfinishedList [])
  | ']' :: rest => .ok rest
  | ',' :: rest =>
    match skipBlank rest with
    | ']' :: rest => .error (.at .trailingComma (']' :: rest))
    | s => .error (.at .trailingCharacters s)
  | s => .error (.at .trailingCharacters s)

/-- Reads the fields of an array in order, until it ends; `first` says that none was read yet. -/
def readInOrder (first : Bool) (c : Config) : List Field → List Char → Step Config
  | [], s => (readListEnd s).map fun rest => (c, rest)
  | field :: fields, s =>
    let item (s : List Char) : Step Config :=
      match readValue c field s with
      | .error fault => .error fault
      | .ok (c, rest) => readInOrder false c fields rest
    match skipBlank s with
    | [] => .error (.at .unfinishedList [])
    | ']' :: rest => .ok (c, rest)
    | ',' :: rest =>
      if first then item (',' :: rest)
      else match skipBlank rest with
        | ']' :: rest => .error (.at .trailingComma (']' :: rest))
        | [] => .error (.at .unfinishedValue [])
        | s => item s
    | s => if first then item s else .error (.at .expectedListEnd s)

/-- Reads a whole text; nothing but blanks may follow the configuration. -/
def readDocument (s : List Char) : Except Fault Config := do
  let (c, rest) ← match skipBlank s with
    | [] => .error (.at .unfinishedValue [])
    | '[' :: rest => readInOrder true standard Field.all rest
    | '{' :: rest => readObject rest
    | s => .error (unwantedValue "struct CollectConfig" s)
  match skipBlank rest with
  | [] => .ok c
  | s => .error (.at .trailingCharacters s)

/-- The configuration that a JSON text gives, its extensions in normal form, or the message of what
is wrong with the text. -/
def ofJson (text : String) : Except String Config :=
  match readDocument text.toList with
  | .ok c => .ok c.normalized
  | .error fault => .error (fault.message text.toList)

end SourceSnapshot.Config
