import SourceSnapshot.Path

/-! Names of directory entries, and their order. -/
namespace SourceSnapshot

def maxNameLength : Nat := 255

/-- A byte text that can name an entry: it is neither empty nor too long, has no slash and no zero
byte, and is not one of the names that every directory has. -/
def isEntryName (bytes : Bytes) : Bool :=
  !bytes.isEmpty && bytes != [dot] && bytes != [dot, dot] && !bytes.contains slash &&
  !bytes.contains 0 && bytes.length ≤ maxNameLength

structure Name where
  bytes : Bytes
  valid : isEntryName bytes

namespace Name

@[ext] theorem ext_bytes {a b : Name} (h : a.bytes = b.bytes) : a = b := by
  cases a; cases b; cases h; rfl

instance : DecidableEq Name := fun a b =>
  decidable_of_iff (a.bytes = b.bytes) ⟨ext_bytes, congrArg bytes⟩

def ofBytes? (bytes : Bytes) : Option Name :=
  if h : isEntryName bytes then some ⟨bytes, h⟩ else none

def ofString (s : String) (h : isEntryName (Utf8.encode s) := by exact Eq.refl true) : Name :=
  ⟨Utf8.encode s, h⟩

def display (n : Name) : String := Utf8.decodeLossy n.bytes

/-- `a` does not come after `b` in the order of their bytes. -/
def notAfter (a b : Name) : Bool := !decide (b.bytes < a.bytes)

end Name

def Path.entry (dir : Path) (name : Name) : Path := dir.join ⟨name.bytes⟩

def sortByName {α : Type} (found : List (Name × α)) : List (Name × α) :=
  found.mergeSort fun a b => a.1.notAfter b.1

end SourceSnapshot
