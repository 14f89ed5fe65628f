import SourceSnapshot.Tree.Basic
import Mathlib.Data.List.Basic

/-! Where the entries of a tree stand. A place is the numbers of the children through which it is reached from
the root, counted from 0. In the order of their numbers the places come from the top of a tree to the bottom, an
entry before what is below it and that before its next sibling. -/
namespace SourceSnapshot.Tree

def children : Tree → List Tree
  | file _ => []
  | dir _ children => children

def isDir : Tree → Bool
  | file _ => false
  | dir _ _ => true

/-- The tree at a place, if there is one. -/
def at? : Tree → List Nat → Option Tree
  | tree, [] => some tree
  | tree, i :: place => tree.children[i]?.bind (·.at? place)

/-- Induction on the children of a tree. -/
theorem treeInduction {P : Tree → Prop} (h : ∀ tree : Tree, (∀ child ∈ tree.children, P child) → P tree)
    (tree : Tree) : P tree := by
  apply h
  intro child hchild
  have hlt : sizeOf child < sizeOf tree := by
    cases tree with
    | file name => cases hchild
    | dir name children =>
      have hmem : child ∈ children := hchild
      have := List.sizeOf_lt_of_mem hmem
      simp only [dir.sizeOf_spec]
      omega
  exact treeInduction h child
termination_by sizeOf tree

mutual

/-- The places of a tree, without its root, from the top to the bottom. -/
def places : Tree → List (List Nat)
  | file _ => []
  | dir _ children => placesFrom 0 children

/-- The places of trees that stand beside each other, the first of which is the child with number `i`. -/
def placesFrom (i : Nat) : List Tree → List (List Nat)
  | [] => []
  | tree :: rest => [i] :: (tree.places.map (i :: ·) ++ placesFrom (i + 1) rest)

end

variable {tree : Tree} {place : List Nat}

theorem places_eq (tree : Tree) : tree.places = placesFrom 0 tree.children := by
  cases tree <;> rfl

theorem mem_placesFrom {i : Nat} {trees : List Tree} : place ∈ placesFrom i trees ↔
    ∃ j child below, place = (i + j) :: below ∧ trees[j]? = some child ∧ (below = [] ∨ below ∈ child.places) := by
  induction trees generalizing i with
  | nil => simp [placesFrom]
  | cons tree rest ih =>
    rw [placesFrom, List.mem_cons, List.mem_append, List.mem_map, ih]
    constructor
    · rintro (rfl | ⟨below, hbelow, rfl⟩ | ⟨j, child, below, rfl, hchild, hplace⟩)
      · exact ⟨0, tree, [], rfl, rfl, .inl rfl⟩
      · exact ⟨0, tree, below, rfl, rfl, .inr hbelow⟩
      · exact ⟨j + 1, child, below, by rw [Nat.add_assoc, Nat.add_comm 1], hchild, hplace⟩
    · rintro ⟨j, child, below, rfl, hchild, hplace⟩
      cases j with
      | zero =>
        obtain rfl := Option.some.inj hchild
        rcases hplace with rfl | hbelow
        · exact .inl rfl
        · exact .inr (.inl ⟨below, hbelow, rfl⟩)
      | succ j => exact .inr (.inr ⟨j, child, below, by rw [Nat.add_assoc, Nat.add_comm 1], hchild, hplace⟩)

/-- The places of a tree are those at which there is something, apart from the root. -/
theorem mem_places : place ∈ tree.places ↔ place ≠ [] ∧ (tree.at? place).isSome := by
  induction tree using treeInduction generalizing place with
  | h tree ih =>
    rw [places_eq, mem_placesFrom]
    constructor
    · rintro ⟨j, child, below, rfl, hchild, hbelow⟩
      refine ⟨List.cons_ne_nil _ below, ?_⟩
      rw [at?, Nat.zero_add, hchild, Option.bind_some]
      rcases hbelow with rfl | hbelow
      · rfl
      · exact ((ih child (List.mem_of_getElem? hchild)).1 hbelow).2
    · rintro ⟨hne, hsome⟩
      cases place with
      | nil => exact absurd rfl hne
      | cons j below =>
        rw [at?] at hsome
        cases hchild : tree.children[j]? with
        | none =>
          rw [hchild] at hsome
          cases hsome
        | some child =>
          rw [hchild] at hsome
          refine ⟨j, child, below, by rw [Nat.zero_add], hchild, ?_⟩
          by_cases hbelow : below = []
          · exact .inl hbelow
          · exact .inr ((ih child (List.mem_of_getElem? hchild)).2 ⟨hbelow, hsome⟩)

private theorem pairwise_placesFrom {trees : List Tree} (h : ∀ tree ∈ trees, tree.places.Pairwise (· < ·)) (i : Nat) :
    (placesFrom i trees).Pairwise (· < ·) := by
  induction trees generalizing i with
  | nil => exact .nil
  | cons tree rest ih =>
    rw [placesFrom, List.pairwise_cons, List.pairwise_append, List.pairwise_map]
    have hlater {below later : List Nat} (hlater : later ∈ placesFrom (i + 1) rest) : i :: below < later := by
      obtain ⟨j, child, more, rfl, -⟩ := mem_placesFrom.1 hlater
      exact List.cons_lt_cons_iff.2 (.inl (by omega))
    refine ⟨?_, ?_, ih (fun tree htree => h tree (List.mem_cons_of_mem _ htree)) (i + 1), ?_⟩
    · intro other hother
      rcases List.mem_append.1 hother with hinside | hother
      · obtain ⟨below, hbelow, rfl⟩ := List.mem_map.1 hinside
        cases below with
        | nil => exact absurd rfl (mem_places.1 hbelow).1
        | cons j below => exact List.cons_lt_cons_iff.2 (.inr ⟨rfl, List.nil_lt_cons j below⟩)
      · exact hlater hother
    · refine (h tree List.mem_cons_self).imp ?_
      intro below other hlt
      exact List.cons_lt_cons_iff.2 (.inr ⟨rfl, hlt⟩)
    · intro inside hinside other hother
      obtain ⟨below, -, rfl⟩ := List.mem_map.1 hinside
      exact hlater hother

/-- The places of a tree stand in the order of their numbers. -/
theorem pairwise_places (tree : Tree) : tree.places.Pairwise (· < ·) := by
  induction tree using treeInduction with
  | h tree ih =>
    rw [places_eq]
    exact pairwise_placesFrom ih 0

end SourceSnapshot.Tree
