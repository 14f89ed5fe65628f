import SourceSnapshot.Proofs.Text.Utf8
import SourceSnapshot.Text.Lines

/-! How a text is cut into lines: at each line feed one ends. What holds of the empty text and of a
last line, and of a text with one more line in front, holds of every text. -/
namespace SourceSnapshot.Lines

/-- Induction on the lines of a text. -/
theorem lineInduction {P : List Char → Prop} (nil : P [])
    (last : ∀ line, line ≠ [] → '\n' ∉ line → P line)
    (cons : ∀ line rest, '\n' ∉ line → P rest → P (line ++ '\n' :: rest)) (s : List Char) : P s := by
  by_cases h : '\n' ∈ s
  · obtain ⟨line, rest, hs, hline⟩ := List.eq_append_cons_of_mem h
    have hlt : rest.length < s.length := by
      rw [hs, List.length_append, List.length_cons]
      omega
    exact hs ▸ cons line rest hline (lineInduction nil last cons rest)
  · by_cases hne : s = []
    · exact hne ▸ nil
    · exact last s hne h
termination_by s.length

private theorem split_cons (c : Char) (s : List Char) : split (c :: s) = push c (split s) := rfl

private theorem push_of_ne {c : Char} (h : c ≠ '\n') (line : List Char) (rest : List (List Char)) :
    push c (line :: rest) = (c :: line) :: rest := by
  rw [push, if_neg h]

/-- The first line of a text begins as the text does. -/
theorem head?_split_cons (c : Char) (s : List Char) :
    ∃ rest, (split (c :: s)).head? = some (c :: rest) := by
  rw [split_cons]
  by_cases h : c = '\n'
  · exact ⟨[], by subst h; rfl⟩
  · cases split s with
    | nil => exact ⟨[], congrArg List.head? (if_neg h)⟩
    | cons line later => exact ⟨line, by rw [push_of_ne h]; rfl⟩

/-- A line feed ends a line, whatever follows. -/
theorem split_line_append {line : List Char} (h : '\n' ∉ line) (s : List Char) :
    split (line ++ '\n' :: s) = (line ++ ['\n']) :: split s := by
  induction line with
  | nil => rfl
  | cons c line ih =>
    simp only [List.mem_cons, not_or] at h
    rw [List.cons_append, split_cons, ih h.2, push_of_ne (Ne.symm h.1), List.cons_append]

theorem split_of_notMem {line : List Char} (hne : line ≠ []) (h : '\n' ∉ line) :
    split line = [line] := by
  induction line with
  | nil => exact absurd rfl hne
  | cons c line ih =>
    simp only [List.mem_cons, not_or] at h
    rw [split_cons]
    cases line with
    | nil => exact if_neg (Ne.symm h.1)
    | cons d line => rw [ih (List.cons_ne_nil d line) h.2, push_of_ne (Ne.symm h.1)]

def Whole (s : List Char) : Prop := s = [] ∨ s.getLast? = some '\n'

instance (s : List Char) : Decidable (Whole s) := inferInstanceAs (Decidable (_ ∨ _))

private theorem not_whole_of_notMem {line : List Char} (hne : line ≠ []) (h : '\n' ∉ line) :
    ¬ Whole line := by
  rintro (he | he)
  · exact hne he
  · exact h (List.mem_of_getLast? he)

private theorem whole_line_append {line s : List Char} : Whole (line ++ '\n' :: s) ↔ Whole s := by
  cases s with
  | nil => simp [Whole]
  | cons c s => simp [Whole, List.getLast?_append]

/-- Texts are cut each by itself where the first is whole. -/
theorem split_append {s : List Char} (h : Whole s) (t : List Char) :
    split (s ++ t) = split s ++ split t := by
  induction s using lineInduction with
  | nil => rfl
  | last line hne hline => exact absurd h (not_whole_of_notMem hne hline)
  | cons line rest hline ih =>
    rw [List.append_assoc, List.cons_append, split_line_append hline, split_line_append hline,
      ih (whole_line_append.1 h), List.cons_append]

/-- There is a line for each line feed, and one more for what stands after the last. -/
theorem length_split (s : List Char) :
    (split s).length = s.count '\n' + if Whole s then 0 else 1 := by
  induction s using lineInduction with
  | nil => rfl
  | last line hne hline =>
    rw [split_of_notMem hne hline, List.count_eq_zero.2 hline, if_neg (not_whole_of_notMem hne hline)]
    rfl
  | cons line rest hline ih =>
    rw [split_line_append hline, List.length_cons, ih, List.count_append, List.count_cons_self,
      List.count_eq_zero.2 hline]
    simp only [whole_line_append]
    omega

/-- The pieces of a text that was cut after each line feed, and nowhere else. -/
structure IsCut (pieces : List (List Char)) (s : List Char) : Prop where
  flatten : pieces.flatten = s
  ne_nil : ∀ piece ∈ pieces, piece ≠ []
  ends : ∀ piece ∈ pieces.dropLast, piece.getLast? = some '\n'
  inner : ∀ piece ∈ pieces, '\n' ∉ piece.dropLast

private theorem IsCut.cons {line rest : List Char} {pieces : List (List Char)} (hline : '\n' ∉ line)
    (h : IsCut pieces rest) : IsCut ((line ++ ['\n']) :: pieces) (line ++ '\n' :: rest) where
  flatten := by rw [List.flatten_cons, h.flatten, List.append_assoc, List.singleton_append]
  ne_nil := List.forall_mem_cons.2 ⟨by simp, h.ne_nil⟩
  ends := by
    cases pieces with
    | nil => simp
    | cons next later =>
      rw [List.dropLast_cons_cons]
      exact List.forall_mem_cons.2 ⟨List.getLast?_concat, h.ends⟩
  inner := List.forall_mem_cons.2 ⟨by rwa [List.dropLast_concat], h.inner⟩

private theorem isCut_split (s : List Char) : IsCut (split s) s := by
  induction s using lineInduction with
  | nil => exact ⟨rfl, nofun, nofun, nofun⟩
  | last line hne hline =>
    have hinner : '\n' ∉ line.dropLast := fun h => hline (List.dropLast_subset line h)
    rw [split_of_notMem hne hline]
    exact ⟨List.append_nil line, by simpa using hne, nofun, by simpa using hinner⟩
  | cons line rest hline ih =>
    rw [split_line_append hline]
    exact ih.cons hline

private theorem IsCut.split_eq {pieces : List (List Char)} {s : List Char} (h : IsCut pieces s) :
    split s = pieces := by
  induction pieces generalizing s with
  | nil =>
    obtain rfl := h.flatten
    rfl
  | cons piece later ih =>
    have hne := h.ne_nil piece List.mem_cons_self
    have hinner := h.inner piece List.mem_cons_self
    have hrest : IsCut later later.flatten :=
      ⟨rfl, fun other hother => h.ne_nil other (List.mem_cons_of_mem piece hother), fun other hother => by
        refine h.ends other ?_
        cases later with
        | nil => cases hother
        | cons next more => exact List.mem_cons_of_mem piece hother,
      fun other hother => h.inner other (List.mem_cons_of_mem piece hother)⟩
    obtain ⟨front, last, rfl⟩ : ∃ front last, piece = front ++ [last] :=
      ⟨_, _, (List.dropLast_concat_getLast hne).symm⟩
    rw [List.dropLast_concat] at hinner
    rw [← h.flatten, List.flatten_cons]
    by_cases hlast : last = '\n'
    · subst hlast
      rw [List.append_assoc, List.singleton_append, split_line_append hinner, ih hrest]
    · -- only the last piece has no line feed at its end
      have hlater : later = [] := by
        cases later with
        | nil => rfl
        | cons next more =>
          have hend := h.ends (front ++ [last]) List.mem_cons_self
          rw [List.getLast?_concat] at hend
          exact absurd (Option.some.inj hend) hlast
      subst hlater
      have hnone : '\n' ∉ front ++ [last] := by
        simp [hinner, Ne.symm hlast]
      rw [List.flatten_nil, List.append_nil, split_of_notMem hne hnone]

/-- A text is cut after each line feed in one way only. -/
theorem isCut_iff {pieces : List (List Char)} {s : List Char} : IsCut pieces s ↔ pieces = split s :=
  ⟨fun h => h.split_eq.symm, fun h => h ▸ isCut_split s⟩

/-! The same on the bytes of a text. No byte of another character is that of a line feed. -/

private theorem eq_newline_of_mem {c : Char} (h : 0x0A ∈ String.utf8EncodeChar c) : c = '\n' := by
  have hspells := Utf8.spells_iff.2 (rfl : String.utf8EncodeChar c = _)
  generalize String.utf8EncodeChar c = bytes at h hspells
  cases hspells with
  | one ha =>
    obtain rfl := List.mem_singleton.1 h
    rfl
  | two ha ha' hb =>
    have := hb.1
    simp only [List.mem_cons, List.not_mem_nil, or_false] at h
    rcases h with rfl | rfl <;> simp at *
  | three ha ha' hb hlow hhigh hc =>
    have := hb.1
    have := hc.1
    simp only [List.mem_cons, List.not_mem_nil, or_false] at h
    rcases h with rfl | rfl | rfl <;> simp at *
  | four ha ha' hb hlow hhigh hc hd =>
    have := hb.1
    have := hc.1
    have := hd.1
    simp only [List.mem_cons, List.not_mem_nil, or_false] at h
    rcases h with rfl | rfl | rfl | rfl <;> simp at *

private theorem utf8EncodeChar_newline : String.utf8EncodeChar '\n' = [0x0A] := by decide

private theorem count_encodeChars (s : List Char) : (Utf8.encodeChars s).count 0x0A = s.count '\n' := by
  induction s with
  | nil => rfl
  | cons c s ih =>
    have hcons : Utf8.encodeChars (c :: s) = String.utf8EncodeChar c ++ Utf8.encodeChars s := rfl
    rw [hcons, List.count_append, ih, List.count_cons, Nat.add_comm]
    by_cases h : c = '\n'
    · rw [h, utf8EncodeChar_newline]
      rfl
    · rw [List.count_eq_zero.2 fun hmem => h (eq_newline_of_mem hmem), if_neg (by simpa using h)]

private theorem whole_encodeChars (s : List Char) :
    (Utf8.encodeChars s = [] ∨ (Utf8.encodeChars s).getLast? = some 0x0A) ↔ Whole s := by
  rcases List.eq_nil_or_concat s with rfl | ⟨front, c, rfl⟩
  · simp [Whole, Utf8.encodeChars]
  · have hconcat : Utf8.encodeChars (front ++ [c]) =
        Utf8.encodeChars front ++ String.utf8EncodeChar c := by
      simp [Utf8.encodeChars]
    have hne : String.utf8EncodeChar c ≠ [] := String.utf8EncodeChar_ne_nil
    have hlast : (String.utf8EncodeChar c).getLast? = some ((String.utf8EncodeChar c).getLast hne) :=
      List.getLast?_eq_some_getLast hne
    have hiff : (String.utf8EncodeChar c).getLast hne = 0x0A ↔ c = '\n' := by
      constructor
      · exact fun h => eq_newline_of_mem (h ▸ List.getLast_mem hne)
      · rintro rfl
        simp [utf8EncodeChar_newline]
    simp [Whole, hconcat, List.getLast?_append, hlast, hne, hiff]

def byteCount (bytes : Bytes) : Nat :=
  bytes.count 0x0A + if bytes = [] ∨ bytes.getLast? = some 0x0A then 0 else 1

/-- The lines of a text can be counted on its bytes. -/
theorem length_split_encode (s : String) : (split s.toList).length = byteCount (Utf8.encode s) := by
  rw [length_split, byteCount, Utf8.encode, count_encodeChars]
  simp only [whole_encodeChars]

end SourceSnapshot.Lines
