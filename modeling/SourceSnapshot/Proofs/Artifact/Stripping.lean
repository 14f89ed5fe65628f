import SourceSnapshot.Proofs.Artifact.Numbering

/-! What it takes for a number to come off a line. The line has to begin with blanks, digits and a bar; since there is
no bar among blanks and digits, it does so in one way only, whatever bars, blanks and digits are in the rest. -/
namespace SourceSnapshot.Numbering
variable {blanks digits rest line before after : List Char}

/-- A line that bears a number: blanks, one digit or more, a bar, and the rest. -/
structure Bears (blanks digits rest line : List Char) : Prop where
  blank : ∀ c ∈ blanks, Blank.isBlank c
  digit : ∀ c ∈ digits, c.isDigit
  ne_nil : digits ≠ []
  line_eq : line = blanks ++ digits ++ bar ++ rest

theorem eq_append_of_cutAtBar (h : cutAtBar line = some (before, after)) : line = before ++ bar ++ after := by
  fun_induction cutAtBar line generalizing before with
  | case1 rest =>
    cases h
    rfl
  | case2 => cases h
  | case3 c rest _ ih =>
    obtain ⟨⟨front, back⟩, hcut, hparts⟩ := Option.map_eq_some_iff.1 h
    cases hparts
    rw [ih hcut]
    rfl

/-- The first bar is the one behind the number. -/
theorem Bears.cutAtBar_eq (h : Bears blanks digits rest line) : cutAtBar line = some (blanks ++ digits, rest) := by
  rw [h.line_eq]
  apply cutAtBar_append
  intro hmem
  rcases List.mem_append.1 hmem with hmem | hmem
  · cases h.blank '|' hmem
  · cases h.digit '|' hmem

theorem Bears.trimStart_eq (h : Bears blanks digits rest line) : Blank.trimStart (blanks ++ digits) = digits :=
  trimStart_append_digits h.blank h.digit

/-- A line bears a number in one way only. -/
theorem Bears.unique {blanks' digits' rest' : List Char} (h : Bears blanks digits rest line)
    (h' : Bears blanks' digits' rest' line) : blanks = blanks' ∧ digits = digits' ∧ rest = rest' := by
  have hcut : (blanks ++ digits, rest) = (blanks' ++ digits', rest') :=
    Option.some.inj (h.cutAtBar_eq.symm.trans h'.cutAtBar_eq)
  obtain ⟨hfront, hrest⟩ := Prod.mk.inj hcut
  have hdigits : digits = digits' := by rw [← h.trimStart_eq, hfront, h'.trimStart_eq]
  rw [hdigits] at hfront
  exact ⟨List.append_cancel_right hfront, hdigits, hrest⟩

theorem Bears.stripNumber?_eq (h : Bears blanks digits rest line) : stripNumber? line = some rest := by
  have hall : digits.all Char.isDigit := List.all_eq_true.2 h.digit
  rw [stripNumber?, h.cutAtBar_eq]
  simp [h.trimStart_eq, h.ne_nil, hall]

theorem exists_bears_of_stripNumber? (h : stripNumber? line = some rest) :
    ∃ blanks digits, Bears blanks digits rest line := by
  rw [stripNumber?] at h
  split at h
  · cases h
  · rename_i before after hcut
    dsimp only at h
    split at h
    · cases h
    · rename_i hdigits
      obtain rfl := Option.some.inj h
      simp only [Bool.or_eq_true, Bool.not_eq_true', not_or, Bool.not_eq_true, List.isEmpty_eq_false_iff,
        Bool.not_eq_false, List.all_eq_true] at hdigits
      refine ⟨before.takeWhile Blank.isBlank, Blank.trimStart before, ?_, hdigits.2, hdigits.1, ?_⟩
      · exact List.all_eq_true.1 List.all_takeWhile
      · rw [Blank.trimStart, List.takeWhile_append_dropWhile]
        exact eq_append_of_cutAtBar hcut

theorem stripNumber?_eq_some_iff :
    stripNumber? line = some rest ↔ ∃ blanks digits, Bears blanks digits rest line := by
  constructor
  · exact exists_bears_of_stripNumber?
  · rintro ⟨blanks, digits, h⟩
    exact h.stripNumber?_eq

/-- A number comes off exactly the lines that bear one. What it is, and what is left, is settled by the line; any other
line gives nothing. -/
theorem stripNumber?_exact :
    (∀ line rest, stripNumber? line = some rest ↔ ∃ blanks digits, Bears blanks digits rest line) ∧
    (∀ line blanks digits rest blanks' digits' rest', Bears blanks digits rest line →
      Bears blanks' digits' rest' line → blanks = blanks' ∧ digits = digits' ∧ rest = rest') ∧
    ∀ line, stripNumber? line = none ↔ ∀ blanks digits rest, ¬ Bears blanks digits rest line := by
  refine ⟨fun line rest => stripNumber?_eq_some_iff, fun _ _ _ _ _ _ _ h h' => h.unique h', fun line => ?_⟩
  rw [Option.eq_none_iff_forall_ne_some]
  constructor
  · intro hnone blanks digits rest h
    exact hnone rest h.stripNumber?_eq
  · intro hnone rest h
    obtain ⟨blanks, digits, h⟩ := exists_bears_of_stripNumber? h
    exact hnone blanks digits rest h

example : stripNumber? "\u3000 12 | 3 | x".toList = some "3 | x".toList := by decide

end SourceSnapshot.Numbering
