/-! Finite sets of names, kept in strictly increasing order. The order of a listing is thus the
order of the names' code points, which is also that of their bytes. -/
namespace SourceSnapshot

def insertSorted (name : String) : List String → List String
  | [] => [name]
  | other :: rest =>
    if name < other then name :: other :: rest
    else if other < name then other :: insertSorted name rest
    else other :: rest

theorem mem_insertSorted {x name : String} {names : List String} :
    x ∈ insertSorted name names ↔ x = name ∨ x ∈ names := by
  induction names with
  | nil => simp [insertSorted]
  | cons other rest ih =>
    unfold insertSorted
    split
    · simp
    · split
      · simp [ih, or_left_comm]
      · have : name = other := String.le_antisymm ‹_› ‹_›
        simp [this]

theorem pairwise_insertSorted {name : String} {names : List String} (h : names.Pairwise (· < ·)) :
    (insertSorted name names).Pairwise (· < ·) := by
  induction names with
  | nil => simp [insertSorted]
  | cons other rest ih =>
    obtain ⟨hall, hrest⟩ := List.pairwise_cons.1 h
    unfold insertSorted
    split
    · rename_i hlt
      refine List.pairwise_cons.2 ⟨fun x hx => ?_, h⟩
      rcases List.mem_cons.1 hx with rfl | hx
      · exact hlt
      · exact String.lt_trans hlt (hall x hx)
    · split
      · rename_i hlt
        refine List.pairwise_cons.2 ⟨fun x hx => ?_, ih hrest⟩
        rcases mem_insertSorted.1 hx with rfl | hx
        · exact hlt
        · exact hall x hx
      · exact h

structure NameSet where
  toList : List String
  increasing : toList.Pairwise (· < ·) := by decide

namespace NameSet

@[ext] theorem ext_toList {s t : NameSet} (h : s.toList = t.toList) : s = t := by
  cases s; cases t; cases h; rfl

instance : DecidableEq NameSet := fun s t =>
  decidable_of_iff (s.toList = t.toList) ⟨ext_toList, congrArg toList⟩

def empty : NameSet := ⟨[], .nil⟩

def insert (s : NameSet) (name : String) : NameSet :=
  ⟨insertSorted name s.toList, pairwise_insertSorted s.increasing⟩

def addAll (s : NameSet) (names : List String) : NameSet := names.foldl insert s

def ofList (names : List String) : NameSet := empty.addAll names

def contains (s : NameSet) (name : String) : Bool := s.toList.contains name

def map (s : NameSet) (f : String → String) : NameSet := ofList (s.toList.map f)

instance : Membership String NameSet := ⟨fun s name => name ∈ s.toList⟩

instance (name : String) (s : NameSet) : Decidable (name ∈ s) :=
  inferInstanceAs (Decidable (name ∈ s.toList))

theorem contains_iff {s : NameSet} {name : String} : s.contains name ↔ name ∈ s := by
  simp [contains, Membership.mem]

@[simp] theorem mem_insert {s : NameSet} {x name : String} : x ∈ s.insert name ↔ x = name ∨ x ∈ s :=
  mem_insertSorted

@[simp] theorem mem_addAll {s : NameSet} {x : String} {names : List String} :
    x ∈ s.addAll names ↔ x ∈ s ∨ x ∈ names := by
  induction names generalizing s with
  | nil => simp [addAll]
  | cons name rest ih =>
    rw [show s.addAll (name :: rest) = (s.insert name).addAll rest from rfl, ih]
    simp [or_assoc, or_left_comm]

end NameSet
end SourceSnapshot
