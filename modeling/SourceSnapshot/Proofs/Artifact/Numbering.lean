import SourceSnapshot.Artifact.Numbering
import SourceSnapshot.Proofs.Text.Lines

/-! Numbered lines give their lines back. A number has no bar in it, so the first bar of a numbered
line ends the number whatever the line holds; and numbering moves no line feed, so the numbered lines
are the lines of the text that they make up. -/
namespace SourceSnapshot.Numbering

private theorem mem_rightAligned {n : Nat} {c : Char} (h : c ∈ Numeral.rightAligned width n) :
    c = ' ' ∨ c.isDigit := by
  rcases List.mem_append.1 h with h | h
  · exact .inl (List.eq_of_mem_replicate h)
  · exact .inr (Numeral.isDigit_of_mem_digits h)

private theorem notMem_rightAligned {c : Char} (hb : c ≠ ' ') (hd : ¬ c.isDigit) (n : Nat) :
    c ∉ Numeral.rightAligned width n := fun h => (mem_rightAligned h).elim hb hd

private theorem isBlank_of_isDigit {c : Char} (h : c.isDigit) : Blank.isBlank c = false := by
  simp only [Char.isDigit, Bool.and_eq_true, decide_eq_true_eq, UInt32.le_iff_toNat_le] at h
  obtain ⟨hlow, hhigh⟩ : 48 ≤ c.toNat ∧ c.toNat ≤ 57 := h
  simp [Blank.isBlank]
  omega

/-- Trimming takes the blanks off in front of digits, and none of the digits. -/
theorem trimStart_append_digits {blanks digits : List Char} (hblanks : ∀ c ∈ blanks, Blank.isBlank c)
    (hdigits : ∀ c ∈ digits, c.isDigit) : Blank.trimStart (blanks ++ digits) = digits := by
  rw [Blank.trimStart, List.dropWhile_append_of_pos hblanks]
  cases digits with
  | nil => rfl
  | cons c rest =>
    have hc : c.isDigit := hdigits c List.mem_cons_self
    exact List.dropWhile_cons_of_neg (by simp [isBlank_of_isDigit hc])

private theorem trimStart_rightAligned (n : Nat) :
    Blank.trimStart (Numeral.rightAligned width n) = Numeral.digits n := by
  apply trimStart_append_digits
  · intro c hc
    rw [List.eq_of_mem_replicate hc]
    rfl
  · intro c hc
    exact Numeral.isDigit_of_mem_digits hc

/-- A text without bars stands before the first bar. -/
theorem cutAtBar_append {before : List Char} (h : '|' ∉ before) (line : List Char) :
    cutAtBar (before ++ bar ++ line) = some (before, line) := by
  induction before with
  | nil => rfl
  | cons c before ih =>
    simp only [List.mem_cons, not_or] at h
    have hnext : ∀ rest, before ++ bar ++ line ≠ '|' :: rest := by
      intro rest he
      cases before with
      | nil => cases he
      | cons d before => exact h.2 (by simp_all)
    rw [List.cons_append, List.cons_append, cutAtBar, ih h.2]
    · rfl
    · intro rest _ he
      exact hnext _ he

/-- The number stands before the first bar, whatever line follows. -/
theorem cutAtBar_numberLine (n : Nat) (line : List Char) :
    cutAtBar (numberLine n line) = some (Numeral.rightAligned width n, line) :=
  cutAtBar_append (notMem_rightAligned (by decide) (by decide) n) line

/-- A number and its bar come off whatever line follows. -/
theorem stripNumber?_numberLine (n : Nat) (line : List Char) :
    stripNumber? (numberLine n line) = some line := by
  have hdigits : ∀ c ∈ Numeral.digits n, c.isDigit := fun c hc => Numeral.isDigit_of_mem_digits hc
  have hne : Numeral.digits n ≠ [] := Nat.toDigits_ne_nil
  simp only [stripNumber?, cutAtBar_numberLine, trimStart_rightAligned]
  simp [hne, List.all_eq_true.2 hdigits]

/-- Lines behind their numbers, counted from `n`. -/
private def numberFrom (n : Nat) (lines : List (List Char)) : List (List Char) :=
  (lines.zipIdx n).map fun (line, n) => numberLine n line

private theorem numberFrom_cons (n : Nat) (line : List Char) (rest : List (List Char)) :
    numberFrom n (line :: rest) = numberLine n line :: numberFrom (n + 1) rest := rfl

private theorem numberLine_append (n : Nat) (line s : List Char) :
    numberLine n (line ++ s) = numberLine n line ++ s := by
  rw [numberLine, numberLine, List.append_assoc _ line]

private theorem newline_notMem_numberLine {n : Nat} {line : List Char} (h : '\n' ∉ line) :
    '\n' ∉ numberLine n line := by
  simp only [numberLine, List.mem_append, not_or]
  exact ⟨⟨notMem_rightAligned (by decide) (by decide) n, by decide⟩, h⟩

/-- The numbered lines are the lines of the text that they make up. -/
theorem split_flatten_number (s : List Char) : Lines.split (number s).flatten = number s := by
  suffices h : ∀ n, Lines.split (numberFrom n (Lines.split s)).flatten = numberFrom n (Lines.split s) from
    h 1
  induction s using Lines.lineInduction with
  | nil => exact fun _ => rfl
  | last line hne hline =>
    intro n
    have hne' : numberLine n line ≠ [] := by simp [numberLine, hne]
    rw [Lines.split_of_notMem hne hline, numberFrom_cons, List.flatten_cons]
    exact (congrArg _ (List.append_nil _)).trans
      (Lines.split_of_notMem hne' (newline_notMem_numberLine hline))
  | cons line rest hline ih =>
    intro n
    rw [Lines.split_line_append hline, numberFrom_cons, List.flatten_cons, numberLine_append,
      List.append_assoc, List.singleton_append,
      Lines.split_line_append (newline_notMem_numberLine hline), ih]

theorem head?_numberLine (n : Nat) (line : List Char) :
    ∃ c, (numberLine n line).head? = some c ∧ (c = ' ' ∨ c.isDigit) := by
  cases h : Numeral.rightAligned width n with
  | nil => exact absurd (List.append_eq_nil_iff.1 h).2 Nat.toDigits_ne_nil
  | cons c rest =>
    refine ⟨c, ?_, mem_rightAligned (n := n) (h ▸ List.mem_cons_self)⟩
    rw [numberLine, h]
    rfl

/-- Without their numbers the numbered lines of a text are its lines. -/
theorem map_stripNumber?_number (s : List Char) :
    (number s).map stripNumber? = (Lines.split s).map some := by
  rw [number, List.map_map, ← List.zipIdx_map_fst 1 (Lines.split s), List.map_map,
    List.zipIdx_map_fst]
  exact List.map_congr_left fun entry _ => stripNumber?_numberLine entry.2 entry.1

/-- The lines are numbered from 1, without gaps. -/
theorem getElem?_number (s : List Char) (i : Nat) :
    (number s)[i]? = (Lines.split s)[i]?.map (numberLine (i + 1)) := by
  rw [number, List.getElem?_map, List.getElem?_zipIdx, Option.map_map, Nat.add_comm 1 i]
  rfl

end SourceSnapshot.Numbering
