import SourceSnapshot.Proofs.Json.Recognition

/-! A text stands for one value at most, with nothing left open about where the parts of it begin and end. A value is
told by its first character, a string ends at its quote, and a number where its characters end; so what is written of
an item is settled before what follows it. -/
namespace SourceSnapshot.Json
variable {s s' rest rest' text text' : List Char} {c c' : Char}

/-- The blanks in front of something else are all the blanks there are. -/
theorem blanks_inj {blanks blanks' : List Char} (hblanks : Blanks blanks) (hblanks' : Blanks blanks')
    (hc : isBlank c = false) (hc' : isBlank c' = false) (h : blanks ++ c :: s = blanks' ++ c' :: s') :
    blanks = blanks' ∧ c = c' ∧ s = s' := by
  have hskip := congrArg skipBlank h
  rw [skipBlank_append hblanks, skipBlank_append hblanks', skipBlank_of_not hc, skipBlank_of_not hc'] at hskip
  rw [hskip] at h
  exact ⟨List.append_cancel_right h, List.cons.inj hskip⟩

theorem quoted_inj {x x' : String} (h : Quoted x text) (h' : Quoted x' text') (heq : text ++ rest = text' ++ rest') :
    x = x' ∧ text = text' := by
  obtain ⟨body, hspelled, rfl⟩ := h
  obtain ⟨body', hspelled', rfl⟩ := h'
  have hbody : body ++ '"' :: rest = body' ++ '"' :: rest' := by simpa using heq
  have hread : stringBody [] (body ++ '"' :: rest) = .ok (x, rest) := stringBody_eq_ok_iff.2 ⟨body, hspelled, rfl⟩
  rw [hbody, stringBody_eq_ok_iff.2 ⟨body', hspelled', rfl⟩] at hread
  obtain ⟨rfl, rfl⟩ := Prod.mk.inj (Except.ok.inj hread)
  exact ⟨rfl, List.append_cancel_right heq⟩

def inNumber (c : Char) : Bool := c.isDigit || ['-', '+', '.', 'e', 'E'].contains c

theorem inNumber_of_isNumber (h : IsNumber s) : ∀ c ∈ s, inNumber c := by
  have hdigits {s : List Char} (h : Digits s) : ∀ c ∈ s, inNumber c := fun c hc => by
    rw [inNumber, h.2 c hc, Bool.true_or]
  obtain ⟨sign, whole, fraction, exponent, hsign, hwhole, hfraction, hexponent, rfl⟩ := h
  simp only [List.forall_mem_append]
  refine ⟨⟨⟨?_, ?_⟩, ?_⟩, ?_⟩
  · rcases hsign with rfl | rfl
    · exact List.forall_mem_nil _
    · exact List.forall_mem_singleton.2 rfl
  · rcases hwhole with rfl | ⟨hwhole, -⟩
    · exact List.forall_mem_singleton.2 rfl
    · exact hdigits hwhole
  · rcases hfraction with rfl | ⟨digits, hfraction, rfl⟩
    · exact List.forall_mem_nil _
    · exact List.forall_mem_cons.2 ⟨rfl, hdigits hfraction⟩
  · rcases hexponent with rfl | ⟨letter, sign, digits, hletter, hsign, hexponent, rfl⟩
    · exact List.forall_mem_nil _
    · refine List.forall_mem_cons.2 ⟨?_, List.forall_mem_append.2 ⟨?_, hdigits hexponent⟩⟩
      · rcases hletter with rfl | rfl <;> rfl
      · rcases hsign with rfl | rfl | rfl
        · exact List.forall_mem_nil _
        · exact List.forall_mem_singleton.2 rfl
        · exact List.forall_mem_singleton.2 rfl

/-- A number is all that is made of its characters, up to where it ends. -/
theorem number_inj (h : IsNumber s) (h' : IsNumber s') (hrest : Ends rest) (hrest' : Ends rest')
    (heq : s ++ rest = s' ++ rest') : s = s' := by
  have htake {s rest : List Char} (h : IsNumber s) (hrest : Ends rest) : (s ++ rest).takeWhile inNumber = s := by
    have hstop : rest.takeWhile inNumber = [] := by
      cases rest with
      | nil => rfl
      | cons c rest =>
        apply List.takeWhile_cons_of_neg
        rcases hrest c rfl with hc | rfl | rfl | rfl
        · simp only [isBlank, Bool.or_eq_true, beq_iff_eq] at hc
          rcases hc with ((rfl | rfl) | rfl) | rfl <;> decide
        · decide
        · decide
        · decide
    rw [List.takeWhile_append_of_pos (inNumber_of_isNumber h), hstop, List.append_nil]
  rw [← htake h hrest, heq, htake h' hrest']

def Value.kind : Value → Nat
  | .null => 0
  | .flag true => 1
  | .flag false => 2
  | .number _ => 3
  | .text _ => 4
  | .list _ => 5
  | .object _ => 6

def kindOf (c : Char) : Nat :=
  match c with
  | 'n' => 0
  | 't' => 1
  | 'f' => 2
  | '"' => 4
  | '[' => 5
  | '{' => 6
  | _ => 3

theorem kindOf_of_written {value : Value} (h : Written value text) : text.head?.map kindOf = some value.kind := by
  cases h with
  | null | yes | no | list | object => rfl
  | text hquoted =>
    obtain ⟨body, -, rfl⟩ := hquoted
    rfl
  | number hnumber =>
    obtain ⟨c, more, rfl, rfl | hc⟩ := exists_cons_of_isNumber hnumber
    · rfl
    · have hkind : kindOf c = 3 := by
        unfold kindOf
        split <;> first | cases hc | rfl
      exact congrArg some hkind

section Items
variable {α : Type} {Writes : α → List Char → Prop} {closing : Char} {items items' : List α} {first : Bool}

/-- What is written is told from what follows it, for texts below a length. -/
def InjBelow (Writes : α → List Char → Prop) (n : Nat) : Prop :=
  ∀ ⦃x x' text text' rest rest'⦄, text.length < n → Writes x text → Writes x' text' → Ends rest → Ends rest' →
    text ++ rest = text' ++ rest' → x = x' ∧ text = text'

theorem lead_inj {lead lead' : List Char} (h : Lead first lead) (h' : Lead first lead') (hc : isBlank c = false)
    (hc' : isBlank c' = false) (heq : lead ++ c :: s = lead' ++ c' :: s') : lead = lead' ∧ c = c' ∧ s = s' := by
  cases first with
  | true => exact blanks_inj h h' hc hc' heq
  | false =>
    obtain ⟨before, after, hbefore, hafter, rfl⟩ := h
    obtain ⟨before', after', hbefore', hafter', rfl⟩ := h'
    simp only [List.append_assoc, List.cons_append] at heq
    obtain ⟨rfl, -, heq⟩ := blanks_inj hbefore hbefore' rfl rfl heq
    obtain ⟨rfl, hc, hs⟩ := blanks_inj hafter hafter' hc hc' heq
    exact ⟨rfl, hc, hs⟩

/-- The end of the items is not taken for one of them. -/
theorem close_ne_lead {blanks lead : List Char} (hclosing : closing = ']' ∨ closing = '}') (hblanks : Blanks blanks)
    (hlead : Lead first lead) (hc : isBlank c = false) (hne : c ≠ closing) :
    blanks ++ closing :: s ≠ lead ++ c :: s' := by
  have hclose : isBlank closing = false ∧ closing ≠ ',' := by
    rcases hclosing with rfl | rfl <;> decide
  intro h
  cases first with
  | true => exact hne (blanks_inj hblanks hlead hclose.1 hc h).2.1.symm
  | false =>
    obtain ⟨before, after, hbefore, -, rfl⟩ := hlead
    rw [List.append_assoc, List.cons_append] at h
    exact hclose.2 (blanks_inj hblanks hbefore hclose.1 rfl h).2.1

theorem items_inj {n : Nat} (hwrites : InjBelow Writes n)
    (hhead : ∀ x text, Writes x text → ∃ c more, text = c :: more ∧ isBlank c = false ∧ c ≠ closing)
    (hclosing : closing = ']' ∨ closing = '}') (h : Items Writes closing first items text)
    (h' : Items Writes closing first items' text') (hlength : text.length < n) (heq : text ++ rest = text' ++ rest') :
    items = items' ∧ text = text' := by
  have hclose : isBlank closing = false := by
    rcases hclosing with rfl | rfl <;> rfl
  induction h generalizing items' text' with
  | close hblanks =>
    cases h' with
    | close hblanks' =>
      simp only [List.append_assoc, List.singleton_append] at heq
      obtain ⟨rfl, -⟩ := blanks_inj hblanks hblanks' hclose hclose heq
      exact ⟨rfl, rfl⟩
    | item hlead hx =>
      obtain ⟨c, more, rfl, hc, hne⟩ := hhead _ _ hx
      simp only [List.append_assoc, List.cons_append] at heq
      exact absurd heq (close_ne_lead hclosing hblanks hlead hc hne)
  | @item first x items lead text after hlead hx hafter ih =>
    cases h' with
    | close hblanks =>
      obtain ⟨c, more, rfl, hc, hne⟩ := hhead _ _ hx
      simp only [List.append_assoc, List.cons_append] at heq
      exact absurd heq.symm (close_ne_lead hclosing hblanks hlead hc hne)
    | @item _ x' items' lead' text' after' hlead' hx' hafter' =>
      obtain ⟨c, more, rfl, hc, -⟩ := hhead _ _ hx
      obtain ⟨c', more', rfl, hc', -⟩ := hhead _ _ hx'
      simp only [List.append_assoc, List.cons_append] at heq
      obtain ⟨rfl, rfl, hnext⟩ := lead_inj hlead hlead' hc hc' heq
      simp only [List.length_append] at hlength
      have hitem : x = x' ∧ c :: more = c :: more' :=
        hwrites (by omega) hx hx' (hafter.ends hclosing rest) (hafter'.ends hclosing rest') (congrArg (c :: ·) hnext)
      obtain ⟨rfl, hmore⟩ := hitem
      obtain rfl := (List.cons.inj hmore).2
      obtain ⟨rfl, rfl⟩ := ih hafter' (by omega) (List.append_cancel_left hnext)
      exact ⟨rfl, rfl⟩

end Items

theorem member_inj {n : Nat} (hwritten : InjBelow Written n) : InjBelow WrittenMember n := by
  intro x x' text text' rest rest' hlength h h' hrest hrest' heq
  cases h with
  | @member key value name before after text hname hbefore hafter hvalue =>
    cases h' with
    | @member key' value' name' before' after' text' hname' hbefore' hafter' hvalue' =>
      obtain ⟨c, more, rfl, hc, -⟩ := exists_of_written hvalue
      obtain ⟨c', more', rfl, hc', -⟩ := exists_of_written hvalue'
      simp only [List.append_assoc, List.cons_append, List.length_append, List.length_cons] at heq hlength
      obtain ⟨rfl, rfl⟩ := quoted_inj hname hname' heq
      obtain ⟨rfl, -, hcolon⟩ := blanks_inj hbefore hbefore' rfl rfl (List.append_cancel_left heq)
      obtain ⟨rfl, rfl, hnext⟩ := blanks_inj hafter hafter' hc hc' hcolon
      have hitem : value = value' ∧ c :: more = c :: more' :=
        hwritten (by simp only [List.length_cons]; omega) hvalue hvalue' hrest hrest' (congrArg (c :: ·) hnext)
      obtain ⟨rfl, hmore⟩ := hitem
      exact ⟨rfl, by rw [hmore]⟩

/-- A value is told from what follows it, however deep it goes. -/
theorem written_inj (n : Nat) : InjBelow Written n := by
  -- the values inside a list or an object are shorter than it
  induction n with
  | zero =>
    intro x x' text text' rest rest' hlength
    omega
  | succ n ih =>
    intro value value' text text' rest rest' hlength h h' hrest hrest' heq
    have hkind : value.kind = value'.kind := by
      obtain ⟨c, more, rfl, -⟩ := exists_of_written h
      obtain ⟨c', more', rfl, -⟩ := exists_of_written h'
      obtain rfl := (List.cons.inj heq).1
      have hc : some (kindOf c) = some value.kind := kindOf_of_written h
      have hc' : some (kindOf c) = some value'.kind := kindOf_of_written h'
      exact Option.some.inj (hc.symm.trans hc')
    cases h with
    | null =>
      cases h' with
      | null => exact ⟨rfl, rfl⟩
      | _ => cases hkind
    | yes =>
      cases h' with
      | yes => exact ⟨rfl, rfl⟩
      | _ => cases hkind
    | no =>
      cases h' with
      | no => exact ⟨rfl, rfl⟩
      | _ => cases hkind
    | number hnumber =>
      cases h' with
      | number hnumber' =>
        obtain rfl := number_inj hnumber hnumber' hrest hrest' heq
        exact ⟨rfl, rfl⟩
      | _ => cases hkind
    | text hquoted =>
      cases h' with
      | text hquoted' =>
        obtain ⟨rfl, rfl⟩ := quoted_inj hquoted hquoted' heq
        exact ⟨rfl, rfl⟩
      | _ => cases hkind
    | list hitems =>
      cases h' with
      | list hitems' =>
        have hhead (x : Value) (text : List Char) (h : Written x text) :
            ∃ c more, text = c :: more ∧ isBlank c = false ∧ c ≠ ']' := by
          obtain ⟨c, more, htext, hc, -, hclose⟩ := exists_of_written h
          exact ⟨c, more, htext, hc, hclose⟩
        obtain ⟨rfl, rfl⟩ := items_inj ih hhead (.inl rfl) hitems hitems' (Nat.lt_of_succ_lt_succ hlength)
          (List.cons.inj heq).2
        exact ⟨rfl, rfl⟩
      | _ => cases hkind
    | object hmembers =>
      cases h' with
      | object hmembers' =>
        have hhead (x : String × Value) (text : List Char) (h : WrittenMember x text) :
            ∃ c more, text = c :: more ∧ isBlank c = false ∧ c ≠ '}' := by
          cases h with
          | member hname =>
            obtain ⟨body, -, rfl⟩ := hname
            exact ⟨'"', _, rfl, by decide⟩
        obtain ⟨rfl, rfl⟩ := items_inj (member_inj ih) hhead (.inr rfl) hmembers hmembers'
          (Nat.lt_of_succ_lt_succ hlength) (List.cons.inj heq).2
        exact ⟨rfl, rfl⟩
      | _ => cases hkind

/-- A text stands for one value at most. -/
theorem Document.unique {value value' : Value} (h : Document value s) (h' : Document value' s) : value = value' := by
  have hend {blanks : List Char} (h : Blanks blanks) : Ends blanks := by
    intro c hc
    exact .inl (h c (List.mem_of_head? hc))
  obtain ⟨before, inner, after, hbefore, hwritten, hafter, rfl⟩ := h
  obtain ⟨before', inner', after', hbefore', hwritten', hafter', heq⟩ := h'
  obtain ⟨c, more, rfl, hc, -⟩ := exists_of_written hwritten
  obtain ⟨c', more', rfl, hc', -⟩ := exists_of_written hwritten'
  obtain ⟨rfl, rfl, hnext⟩ := blanks_inj hbefore hbefore' hc hc' heq
  exact (written_inj _ (Nat.lt_succ_self _) hwritten hwritten' (hend hafter) (hend hafter') (congrArg (c :: ·) hnext)).1

end SourceSnapshot.Json
