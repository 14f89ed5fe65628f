import SourceSnapshot.Proofs.Json.Recognition

/-! Numbers as the message about a run shows them. A comma stands before every group of digits but the first; that has
one to three of them, and every other has three. -/
namespace SourceSnapshot.Numeral

/-- A text is these digits in groups: the first has one to three of them, and each further one, behind a comma, has
three. -/
structure IsGrouping (digits text first : List Char) (more : List (List Char)) : Prop where
  pos : 0 < first.length
  le_three : first.length ≤ 3
  three : ∀ group ∈ more, group.length = 3
  digits_eq : digits = first ++ more.flatten
  text_eq : text = first ++ more.flatMap (',' :: ·)

namespace IsGrouping
variable {digits text first : List Char} {more : List (List Char)}

/-- Three digits more at the end are one group more. -/
theorem concat (h : IsGrouping digits text first more) {group : List Char} (hgroup : group.length = 3) :
    IsGrouping (digits ++ group) (text ++ ',' :: group) first (more ++ [group]) where
  pos := h.pos
  le_three := h.le_three
  three other hother := by
    rcases List.mem_append.1 hother with hother | hother
    · exact h.three other hother
    · rw [List.mem_singleton.1 hother, hgroup]
  digits_eq := by simp [h.digits_eq]
  text_eq := by simp [h.text_eq]

theorem mem_digits (h : IsGrouping digits text first more) {group : List Char} (hgroup : group ∈ first :: more) {c : Char}
    (hc : c ∈ group) : c ∈ digits := by
  rw [h.digits_eq, ← List.flatten_cons]
  exact List.mem_flatten_of_mem hgroup hc

/-- Without the commas the text is the digits again. -/
theorem filter_eq (h : IsGrouping digits text first more) (hdigits : ',' ∉ digits) :
    text.filter (· != ',') = digits := by
  have hkeep {group : List Char} (hgroup : group ∈ first :: more) : group.filter (· != ',') = group := by
    apply List.filter_eq_self.2
    intro c hc
    have hne : c ≠ ',' := fun he => hdigits (he ▸ h.mem_digits hgroup hc)
    simpa using hne
  have hmore : (more.flatMap (',' :: ·)).filter (· != ',') = more.flatten := by
    rw [List.filter_flatMap, ← List.flatMap_id]
    apply List.flatMap_congr
    intro group hgroup
    rw [List.filter_cons_of_neg (by decide), hkeep (List.mem_cons_of_mem first hgroup), id]
  rw [h.text_eq, List.filter_append, hkeep List.mem_cons_self, hmore, h.digits_eq]

theorem head?_eq (h : IsGrouping digits text first more) : text.head? = first.head? := by
  rw [h.text_eq, List.head?_append_of_ne_nil _ (List.ne_nil_of_length_pos h.pos)]

/-- The text ends as its last group. -/
theorem getLast?_eq (h : IsGrouping digits text first more) :
    ∃ group ∈ first :: more, text.getLast? = group.getLast? := by
  rcases List.eq_nil_or_concat more with rfl | ⟨front, group, rfl⟩
  · refine ⟨first, List.mem_cons_self, ?_⟩
    rw [h.text_eq, List.flatMap_nil, List.append_nil]
  · have hne : group ≠ [] := List.ne_nil_of_length_pos (by rw [h.three group (by simp)]; decide)
    refine ⟨group, by simp, ?_⟩
    rw [h.text_eq, List.concat_eq_append, List.flatMap_append, List.flatMap_singleton, ← List.append_assoc,
      List.getLast?_append_of_ne_nil _ (List.cons_ne_nil ',' group), List.getLast?_cons_of_ne_nil hne]

end IsGrouping

/-- The digits are taken from the end, so each three of them make up a group behind those that were still to come. -/
theorem exists_isGrouping_separate (s : List Char) (hs : s ≠ []) :
    ∃ first more, IsGrouping s.reverse (separate s).reverse first more := by
  fun_induction separate s with
  | case1 a b c d rest ih =>
    obtain ⟨first, more, h⟩ := ih (List.cons_ne_nil d rest)
    have hthree : [c, b, a].length = 3 := rfl
    have hall := h.concat hthree
    exact ⟨first, more ++ [[c, b, a]], by simpa using hall⟩
  | case2 few hfew =>
    refine ⟨few.reverse, [], ?_, ?_, by simp, by simp, by simp⟩
    · simpa using List.length_pos_of_ne_nil hs
    · match few with
      | [] | [_] | [_, _] | [_, _, _] => simp
      | a :: b :: c :: d :: rest => exact absurd rfl (hfew a b c d rest)

theorem exists_isGrouping (n : Nat) : ∃ first more, IsGrouping (digits n) (grouped n).toList first more := by
  have hne : (digits n).reverse ≠ [] := by
    rw [ne_eq, List.reverse_eq_nil_iff]
    exact Nat.toDigits_ne_nil
  obtain ⟨first, more, h⟩ := exists_isGrouping_separate (digits n).reverse hne
  rw [List.reverse_reverse] at h
  exact ⟨first, more, by rwa [grouped, String.toList_ofList]⟩

theorem comma_notMem_digits (n : Nat) : ',' ∉ digits n := by
  intro hmem
  have hdigit : Char.isDigit ',' := isDigit_of_mem_digits hmem
  cases hdigit

theorem filter_grouped (n : Nat) : (grouped n).toList.filter (· != ',') = digits n := by
  obtain ⟨first, more, h⟩ := exists_isGrouping n
  exact h.filter_eq (comma_notMem_digits n)

/-- After a multiple of three digits, those that are left come in the same groups as if they were taken alone. -/
theorem putInFront_eq (s shown : List Char) (k : Nat) :
    putInFront shown (3 * k) s = (separate s).reverse ++ if 0 < k ∧ s ≠ [] then ',' :: shown else shown := by
  have htwo : (3 * k + 1 + 1) % 3 ≠ 0 := by omega
  fun_induction separate s generalizing shown k with
  | case1 a b c d rest ih =>
    have hthree : putInFront shown (3 * k) (a :: b :: c :: d :: rest) =
        putInFront (c :: b :: a :: if 0 < k then ',' :: shown else shown) (3 * (k + 1)) (d :: rest) := by
      rw [putInFront, putInFront, putInFront]
      simp [htwo, Nat.mul_add]
    rw [hthree, ih _ (k + 1) (by omega)]
    simp
  | case2 few hfew =>
    match few with
    | [] | [_] | [_, _] | [_, _, _] => simp [putInFront, htwo]
    | a :: b :: c :: d :: rest => exact absurd rfl (hfew a b c d rest)

/-- Both ways to count off the digits from the end give one text. -/
theorem groupedFromEnd_eq (n : Nat) : groupedFromEnd n = grouped n := by
  have hall := putInFront_eq (digits n).reverse [] 0
  rw [if_neg (by simp), List.append_nil] at hall
  rw [groupedFromEnd, grouped, ← hall]

/-- Every number is shown in groups that make up its numeral, in which only zero begins with a zero; no comma is first
or last, and two numbers are never shown alike. -/
theorem grouped_legible :
    (∀ n, ∃ numeral first more, Json.Counts numeral n ∧ IsGrouping numeral (grouped n).toList first more) ∧
    (∀ n, (grouped n).toList.head? ≠ some ',' ∧ (grouped n).toList.getLast? ≠ some ',') ∧
    Function.Injective grouped := by
  refine ⟨fun n => ?_, fun n => ?_, fun m n hgrouped => ?_⟩
  · obtain ⟨first, more, h⟩ := exists_isGrouping n
    exact ⟨digits n, first, more, Json.counts_digits n, h⟩
  · obtain ⟨first, more, h⟩ := exists_isGrouping n
    have hnone {group : List Char} (hgroup : group ∈ first :: more) : ',' ∉ group := fun hmem =>
      comma_notMem_digits n (h.mem_digits hgroup hmem)
    constructor
    · rw [h.head?_eq]
      exact fun hhead => hnone List.mem_cons_self (List.mem_of_head? hhead)
    · obtain ⟨group, hgroup, hlast⟩ := h.getLast?_eq
      rw [hlast]
      exact fun hend => hnone hgroup (List.mem_of_getLast? hend)
  · have hdigits : digits m = digits n := by rw [← filter_grouped m, hgrouped, filter_grouped n]
    rw [← (Json.counts_digits m).2, hdigits, (Json.counts_digits n).2]

example : grouped 1234567 = "1,234,567" := by decide

end SourceSnapshot.Numeral
