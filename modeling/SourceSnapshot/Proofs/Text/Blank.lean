import SourceSnapshot.Text.Blank

/-! What trimming leaves: the text between the blanks at its ends. It has none there, and a text without blanks at its
ends is left as it is. -/
namespace SourceSnapshot.Blank
variable {s : List Char}

structure IsTrimmed (s : List Char) : Prop where
  first : ∀ x, s.head? = some x → isBlank x = false
  last : ∀ x, s.getLast? = some x → isBlank x = false

theorem exists_trim_append (s : List Char) : ∃ blanks, trimStart s = trim s ++ blanks := by
  have hsplit := List.takeWhile_append_dropWhile (p := isBlank) (l := (trimStart s).reverse)
  refine ⟨((trimStart s).reverse.takeWhile isBlank).reverse, ?_⟩
  rw [trim, trimEnd, ← List.reverse_append, hsplit, List.reverse_reverse]

theorem isTrimmed_trim (s : List Char) : IsTrimmed (trim s) := by
  constructor
  · intro x hx
    obtain ⟨blanks, hblanks⟩ := exists_trim_append s
    have hfirst := List.head?_dropWhile_not isBlank s
    rw [show s.dropWhile isBlank = trim s ++ blanks from hblanks, List.head?_append, hx] at hfirst
    simpa using hfirst
  · intro x hx
    have hlast := List.head?_dropWhile_not isBlank (trimStart s).reverse
    rw [trim, trimEnd, List.getLast?_reverse] at hx
    rw [hx] at hlast
    simpa using hlast

theorem IsTrimmed.trim_eq (h : IsTrimmed s) : trim s = s := by
  have hkeep {s : List Char} (h : ∀ x, s.head? = some x → isBlank x = false) : s.dropWhile isBlank = s := by
    cases s with
    | nil => rfl
    | cons c rest => exact List.dropWhile_cons_of_neg (by simp [h c rfl])
  rw [trim, trimStart, hkeep h.first, trimEnd, hkeep, List.reverse_reverse]
  intro x hx
  exact h.last x (by rwa [List.head?_reverse] at hx)

theorem trim_eq_self_iff : trim s = s ↔ IsTrimmed s := by
  constructor
  · intro h
    exact h ▸ isTrimmed_trim s
  · exact IsTrimmed.trim_eq

theorem trim_sublist (s : List Char) : (trim s).Sublist s := by
  obtain ⟨blanks, hblanks⟩ := exists_trim_append s
  have hend : (trim s).Sublist (trimStart s) := by
    rw [hblanks]
    exact List.sublist_append_left (trim s) blanks
  exact hend.trans (List.dropWhile_sublist isBlank)

end SourceSnapshot.Blank
