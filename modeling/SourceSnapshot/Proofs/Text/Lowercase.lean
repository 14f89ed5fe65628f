import SourceSnapshot.Text.Blank
import SourceSnapshot.Text.Lowercase

/-! Lower-casing once is enough. The lower-case forms of characters lie outside of all that have another form, so
a text in lower case stays as it is, wherever its words end; and lower-casing makes a blank or a dot of nothing
else. -/
namespace SourceSnapshot.Lowercase
open CaseTables

def Run.lastTarget (r : Run) : Nat := r.target + (r.last - r.first)

/-- No lower-case form of `r` is a character of `q`: its forms lie apart from those, or between them. -/
def Run.apart (r q : Run) : Bool :=
  (Run.lastTarget r).blt q.first || q.last.blt r.target ||
    (q.stride == 2 && (r.stride == 2 || r.first == r.last) && (r.target + q.first) % 2 == 1)

/-- Numbers of which no lower-case form is one: those before the small letters, those of blanks and of the dotted
capital I, and those between the two ranges of characters. -/
def reserved : List (Nat × Nat) := [(0, 0x60), (0x85, 0x85), (0xA0, 0xA0), (0x130, 0x130), (0x1680, 0x1680),
  (0x2000, 0x200A), (0x2028, 0x2029), (0x202F, 0x202F), (0x205F, 0x205F), (0x3000, 0x3000), (0xD800, 0xDFFF)]

def Run.avoids (r : Run) (range : Nat × Nat) : Bool :=
  (Run.lastTarget r).blt range.1 || range.2.blt r.target

private theorem apart_lowerRuns : lowerRuns.all (fun r => lowerRuns.all (Run.apart r)) = true := by
  decide +kernel

private theorem avoids_lowerRuns : lowerRuns.all (fun r => reserved.all (Run.avoids r)) = true := by
  decide +kernel

private theorem lastTarget_lowerRuns : lowerRuns.all (fun r => (Run.lastTarget r).blt 0x110000) = true := by
  decide +kernel

section
variable {r q : Run} {n : Nat}

theorem Run.covers_iff : Run.covers r n ↔ r.first ≤ n ∧ n ≤ r.last ∧ (n - r.first) % r.stride = 0 := by
  simp [Run.covers, and_assoc]

theorem Run.not_covers_of_apart (hapart : Run.apart r q) (hn : Run.covers r n) :
    Run.covers q (r.target + (n - r.first)) = false := by
  rw [Run.covers_iff] at hn
  obtain ⟨hlow, hhigh, hstep⟩ := hn
  apply Bool.eq_false_iff.2
  rw [ne_eq, Run.covers_iff]
  rintro ⟨hlow', hhigh', hstep'⟩
  simp only [Run.apart, Run.lastTarget, Bool.or_eq_true, Bool.and_eq_true, Nat.blt_eq, beq_iff_eq] at hapart
  rcases hapart with (habove | hbelow) | ⟨⟨hstride, hdense⟩, hodd⟩
  · omega
  · omega
  · -- the forms of `r` are of one parity and the characters of `q` of the other
    have heven : (n - r.first) % 2 = 0 := by
      rcases hdense with hstride | hsingle
      · rwa [hstride] at hstep
      · omega
    rw [hstride] at hstep'
    omega

theorem Run.target_of_avoids {range : Nat × Nat} (havoids : Run.avoids r range) (hn : Run.covers r n) :
    r.target + (n - r.first) < range.1 ∨ range.2 < r.target + (n - r.first) := by
  rw [Run.covers_iff] at hn
  simp only [Run.avoids, Run.lastTarget, Bool.or_eq_true, Nat.blt_eq] at havoids
  omega

end

/-- A character of some run has a form of that run, which no run covers and whose number is not reserved; any
other is left as it is. -/
theorem lowerChar_cases (c : Char) : lowerChar c = c ∨
    lowerRuns.find? (Run.covers · (lowerChar c).toNat) = none ∧
      ∀ range ∈ reserved, (lowerChar c).toNat < range.1 ∨ range.2 < (lowerChar c).toNat := by
  unfold lowerChar
  cases hfind : lowerRuns.find? (Run.covers · c.toNat) with
  | none => exact .inl rfl
  | some r =>
    have hr := List.mem_of_find?_eq_some hfind
    have hcovers : Run.covers r c.toNat := by simpa using List.find?_some hfind
    have hforms (range : Nat × Nat) (hrange : range ∈ reserved) : r.target + (c.toNat - r.first) < range.1 ∨
        range.2 < r.target + (c.toNat - r.first) := by
      have havoids := List.all_eq_true.1 avoids_lowerRuns r hr
      exact Run.target_of_avoids (List.all_eq_true.1 havoids range hrange) hcovers
    have hvalid : (r.target + (c.toNat - r.first)).isValidChar := by
      have hsurrogate := hforms (0xD800, 0xDFFF) (by decide)
      have hlast := List.all_eq_true.1 lastTarget_lowerRuns r hr
      rw [Run.lastTarget, Nat.blt_eq] at hlast
      have hcovered := Run.covers_iff.1 hcovers
      simp only at hsurrogate
      unfold Nat.isValidChar
      omega
    have hnumber : (Char.ofNat (r.target + (c.toNat - r.first))).toNat = r.target + (c.toNat - r.first) := by
      rw [Char.ofNat, dif_pos hvalid]
      rfl
    refine .inr ⟨?_, fun range hrange => ?_⟩
    · apply List.find?_eq_none.2
      intro q hq
      have hapart := List.all_eq_true.1 (List.all_eq_true.1 apart_lowerRuns r hr) q hq
      rw [hnumber, Run.not_covers_of_apart hapart hcovers]
      exact Bool.false_ne_true
    · rw [hnumber]
      exact hforms range hrange

/-- A character that lower-casing leaves alone, wherever it stands. -/
structure Settled (c : Char) : Prop where
  ne_dotted : c ≠ '\u0130'
  ne_sigma : c ≠ '\u03A3'
  lowerChar_eq : lowerChar c = c

theorem settled_lowerChar {c : Char} (hdotted : c ≠ '\u0130') (hsigma : c ≠ '\u03A3') : Settled (lowerChar c) := by
  rcases lowerChar_cases c with hsame | ⟨hnone, hforms⟩
  · rw [hsame]
    exact ⟨hdotted, hsigma, hsame⟩
  · refine ⟨?_, ?_, ?_⟩
    · intro heq
      rw [heq] at hforms
      exact absurd (hforms (0x130, 0x130) (by decide)) (by decide)
    · intro heq
      rw [heq] at hnone
      exact absurd hnone (by decide +kernel)
    · rw [lowerChar.eq_def (lowerChar c), hnone]

/-- Neither a blank nor a dot. -/
def Visible (c : Char) : Prop := Blank.isBlank c = false ∧ c ≠ '.'

theorem visible_lowerChar (c : Char) : lowerChar c = c ∨ Visible (lowerChar c) := by
  apply (lowerChar_cases c).imp_right
  rintro ⟨-, hforms⟩
  simp only [reserved, List.mem_cons, List.not_mem_nil, or_false, forall_eq_or_imp, forall_eq] at hforms
  constructor
  · simp only [Blank.isBlank, Bool.or_eq_false_iff, Bool.and_eq_false_iff, decide_eq_false_iff_not, beq_eq_false_iff_ne]
    omega
  · intro heq
    rw [heq] at hforms
    exact absurd hforms.1 (by decide)

/-- What stands for a character in lower case, after the reversed text `before` and before `rest`. -/
def form (before : List Char) (c : Char) (rest : List Char) : List Char :=
  if c = '\u0130' then ['i', '\u0307']
  else if c = '\u03A3' then [if meetsCased before && !meetsCased rest then '\u03C2' else '\u03C3']
  else [lowerChar c]

theorem lowerAfter_cons (before : List Char) (c : Char) (rest : List Char) :
    lowerAfter before (c :: rest) = form before c rest ++ lowerAfter (c :: before) rest := rfl

section
variable {before s rest : List Char} {c x : Char}

theorem form_ne_nil (before : List Char) (c : Char) (rest : List Char) : form before c rest ≠ [] := by
  unfold form
  split
  · exact List.cons_ne_nil _ _
  · split
    · exact List.cons_ne_nil _ _
    · exact List.cons_ne_nil _ _

/-- What stands for the dotted capital I and for the capital sigma. -/
def specialForms : List Char := ['i', '\u0307', '\u03C2', '\u03C3']

private theorem settled_of_mem_specialForms (hx : x ∈ specialForms) : Settled x ∧ Visible x := by
  simp only [specialForms, List.mem_cons, List.not_mem_nil, or_false] at hx
  rcases hx with rfl | rfl | rfl | rfl
  all_goals exact ⟨⟨by decide, by decide, by decide +kernel⟩, by decide, by decide⟩

/-- A character stands for itself, or other characters do that are neither blanks nor dots; and these have no
other lower-case form. -/
theorem mem_form (hx : x ∈ form before c rest) : Settled x ∧ (x = c ∨ Visible x) := by
  have hspecial (h : x ∈ specialForms) : Settled x ∧ (x = c ∨ Visible x) :=
    (settled_of_mem_specialForms h).imp_right .inr
  unfold form at hx
  split at hx
  · exact hspecial (List.mem_append_left ['\u03C2', '\u03C3'] hx)
  · split at hx
    · rw [List.mem_singleton] at hx
      apply hspecial
      rw [hx]
      split
      · simp [specialForms]
      · simp [specialForms]
    · rename_i hdotted hsigma
      rw [List.mem_singleton] at hx
      exact hx ▸ ⟨settled_lowerChar hdotted hsigma, visible_lowerChar c⟩

theorem settled_of_mem_lowerAfter (hx : x ∈ lowerAfter before s) : Settled x := by
  induction s generalizing before with
  | nil => cases hx
  | cons c rest ih =>
    rw [lowerAfter_cons, List.mem_append] at hx
    rcases hx with hx | hx
    · exact (mem_form hx).1
    · exact ih hx

/-- A text of settled characters is in lower case. -/
theorem lowerAfter_of_settled (h : ∀ x ∈ s, Settled x) : lowerAfter before s = s := by
  induction s generalizing before with
  | nil => rfl
  | cons c rest ih =>
    obtain ⟨hdotted, hsigma, hsame⟩ := h c List.mem_cons_self
    rw [lowerAfter_cons, form, if_neg hdotted, if_neg hsigma, hsame, ih, List.singleton_append]
    intro x hx
    exact h x (List.mem_cons_of_mem c hx)

/-- A text does not begin with a dot in lower case unless it did before. -/
theorem head?_lowerAfter (h : s.head? ≠ some '.') : (lowerAfter before s).head? ≠ some '.' := by
  cases s with
  | nil => exact h
  | cons c rest =>
    obtain ⟨x, more, hform⟩ := List.exists_cons_of_ne_nil (form_ne_nil before c rest)
    rw [lowerAfter_cons, hform]
    rintro ⟨rfl⟩
    rcases (mem_form (hform ▸ List.mem_cons_self)).2 with rfl | hvisible
    · exact h rfl
    · exact hvisible.2 rfl

/-- A text does not end with a blank in lower case unless it did before. -/
theorem getLast?_lowerAfter (h : ∀ x, s.getLast? = some x → Blank.isBlank x = false) :
    ∀ x, (lowerAfter before s).getLast? = some x → Blank.isBlank x = false := by
  induction s generalizing before with
  | nil => exact h
  | cons c rest ih =>
    intro x hx
    cases rest with
    | nil =>
      rw [lowerAfter_cons, lowerAfter, List.append_nil] at hx
      rcases (mem_form (List.mem_of_getLast? hx)).2 with rfl | hvisible
      · exact h x rfl
      · exact hvisible.1
    | cons next rest =>
      have hne : lowerAfter (c :: before) (next :: rest) ≠ [] := by simp [lowerAfter_cons, form_ne_nil]
      rw [lowerAfter_cons, List.getLast?_append, List.getLast?_eq_some_getLast hne, Option.some_or,
        ← List.getLast?_eq_some_getLast hne] at hx
      apply ih _ x hx
      intro y hy
      exact h y (by rwa [List.getLast?_cons_cons])

end

theorem lower_lower (s : List Char) : lower (lower s) = lower s :=
  lowerAfter_of_settled fun _ => settled_of_mem_lowerAfter

section
variable {s t : List Char}

/-- One character has a lower-case form of two, and it has so wherever it stands. -/
theorem length_lowerAfter (before s : List Char) : (lowerAfter before s).length = s.length + s.count '\u0130' := by
  induction s generalizing before with
  | nil => rfl
  | cons c rest ih =>
    rw [lowerAfter_cons, List.length_append, ih, List.length_cons, List.count_cons, form]
    by_cases hdotted : c = '\u0130'
    · rw [if_pos hdotted, if_pos (by simpa using hdotted), List.length_cons, List.length_singleton]
      omega
    · rw [if_neg hdotted, beq_eq_false_iff_ne.2 hdotted, if_neg Bool.false_ne_true]
      split <;> rw [List.length_singleton] <;> omega

/-- No text has the lower-case form of a part of it that is not all of it. -/
theorem eq_of_sublist_of_lower (h : t.Sublist s) (hlower : lower t = lower s) : t = s := by
  have hlength := congrArg List.length hlower
  rw [lower, lower, length_lowerAfter, length_lowerAfter] at hlength
  have hcount := h.count_le '\u0130'
  exact h.eq_of_length_le (by omega)

end

end SourceSnapshot.Lowercase
