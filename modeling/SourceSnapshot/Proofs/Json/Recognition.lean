import SourceSnapshot.Proofs.Json.Grammar
import SourceSnapshot.Proofs.Json.Scan
import Mathlib.Data.List.TakeWhile

/-! Strings and counts are read just as the grammar writes them. What was read is a part that the grammar allows, and
every such part is read for what it stands for, whatever follows a string and whatever can follow a number. -/
namespace SourceSnapshot.Json
variable {s rest : List Char} {c : Char}

/-- Nothing but blanks stands before what is left when they are passed over. -/
theorem exists_of_skipBlank (h : skipBlank s = rest) : ∃ blanks, Blanks blanks ∧ s = blanks ++ rest := by
  refine ⟨s.takeWhile isBlank, fun c hc => List.mem_takeWhile_imp hc, ?_⟩
  rw [← h]
  exact List.takeWhile_append_dropWhile.symm

theorem blanks_of_skipBlank (h : skipBlank s = []) : Blanks s := by
  obtain ⟨blanks, hblanks, rfl⟩ := exists_of_skipBlank h
  rwa [List.append_nil]

theorem skipBlank_of_blanks {blanks : List Char} (h : Blanks blanks) : skipBlank blanks = [] := by
  rw [← List.append_nil blanks]
  exact skipBlank_append h []

theorem expectWord_eq_ok_iff {word : List Char} : expectWord word s = .ok rest ↔ s = word ++ rest := by
  induction word generalizing s with
  | nil => simp [expectWord]
  | cons w word ih =>
    cases s with
    | nil => simp [expectWord]
    | cons c s =>
      rw [expectWord, List.cons_append, List.cons.injEq]
      split
      · rename_i hc
        rw [ih, and_iff_right hc]
      · rename_i hc
        simp [hc]

section Strings

theorem hexDigit?_eq_some_iff {n : Nat} : hexDigit? c = some n ↔ HexDigit c n := by
  have hascii : ∀ code < 128, ∀ value < 16, hexDigit? (Char.ofNat code) = some value →
      Char.ofNat code = Nat.digitChar value ∨ Char.ofNat code = (Nat.digitChar value).toUpper := by
    decide +kernel
  have hdigits : ∀ value < 16, hexDigit? (Nat.digitChar value) = some value ∧
      hexDigit? (Nat.digitChar value).toUpper = some value := by
    decide
  constructor
  · intro h
    have hbounds : c.toNat < 128 ∧ n < 16 := by
      unfold hexDigit? at h
      split at h
      · rename_i hc
        obtain rfl := Option.some.inj h
        have hhigh : c.toNat ≤ 57 := hc.2
        omega
      · split at h
        · rename_i hc
          obtain rfl := Option.some.inj h
          have hhigh : c.toNat ≤ 102 := hc.2
          omega
        · split at h
          · rename_i hc
            obtain rfl := Option.some.inj h
            have hhigh : c.toNat ≤ 70 := hc.2
            omega
          · cases h
    refine ⟨hbounds.2, ?_⟩
    have hc := hascii c.toNat hbounds.1 n hbounds.2
    rw [Char.ofNat_toNat] at hc
    exact hc h
  · rintro ⟨hn, rfl | rfl⟩
    · exact (hdigits n hn).1
    · exact (hdigits n hn).2

theorem hexFour_eq_ok_iff {n : Nat} : hexFour s = .ok (n, rest) ↔ ∃ four, HexFour four n ∧ s = four ++ rest := by
  constructor
  · intro h
    unfold hexFour at h
    split at h
    · rename_i a b c d more
      split at h
      · rename_i p q r t ha hb hc hd
        obtain ⟨rfl, rfl⟩ := Prod.mk.inj (Except.ok.inj h)
        refine ⟨[a, b, c, d], ⟨a, b, c, d, p, q, r, t, hexDigit?_eq_some_iff.1 ha, hexDigit?_eq_some_iff.1 hb,
          hexDigit?_eq_some_iff.1 hc, hexDigit?_eq_some_iff.1 hd, rfl, ?_⟩, rfl⟩
        omega
      · cases h
    · split at h <;> cases h
  · rintro ⟨four, ⟨a, b, c, d, p, q, r, t, ha, hb, hc, hd, rfl, rfl⟩, rfl⟩
    have hcode : p * 4096 + q * 256 + r * 16 + t = ((p * 16 + q) * 16 + r) * 16 + t := by omega
    simp only [List.cons_append, List.nil_append, hexFour, hexDigit?_eq_some_iff.2 ha, hexDigit?_eq_some_iff.2 hb,
      hexDigit?_eq_some_iff.2 hc, hexDigit?_eq_some_iff.2 hd, hcode]

theorem secondHalf_eq_ok_iff {n : Nat} : secondHalf n s = .ok (c, rest) ↔
    ∃ four n', HexFour four n' ∧ 0xDC00 ≤ n' ∧ n' ≤ 0xDFFF ∧ s = '\\' :: 'u' :: (four ++ rest) ∧
      c = Char.ofNat ((n - 0xD800) * 1024 + (n' - 0xDC00) + 0x10000) := by
  constructor
  · intro h
    unfold secondHalf at h
    split at h
    · cases h
    · cases h
    · split at h
      · cases h
      · rename_i hfour
        split at h
        · rename_i hlow
          obtain ⟨rfl, rfl⟩ := Prod.mk.inj (Except.ok.inj h)
          obtain ⟨four, hhex, rfl⟩ := hexFour_eq_ok_iff.1 hfour
          exact ⟨four, _, hhex, hlow.1, hlow.2, rfl, rfl⟩
        · cases h
    · cases h
    · cases h
  · rintro ⟨four, n', hhex, hlow, hhigh, rfl, hc⟩
    rw [secondHalf, hexFour_eq_ok_iff.2 ⟨four, hhex, rfl⟩, hc]
    exact if_pos ⟨hlow, hhigh⟩

theorem unicodeEscape_eq_ok_iff : unicodeEscape s = .ok (c, rest) ↔
    ∃ escaped, Spells ('\\' :: 'u' :: escaped) c ∧ s = escaped ++ rest := by
  constructor
  · intro h
    unfold unicodeEscape at h
    split at h
    · cases h
    · rename_i n more hfour
      obtain ⟨four, hhex, rfl⟩ := hexFour_eq_ok_iff.1 hfour
      split at h
      · cases h
      · split at h
        · rename_i hhigh
          obtain ⟨four', n', hhex', hlow', hhigh', rfl, hc⟩ := secondHalf_eq_ok_iff.1 h
          refine ⟨four ++ '\\' :: 'u' :: four', ?_, by rw [List.append_assoc]; rfl⟩
          rw [hc]
          exact .pair hhex hhigh.1 hhigh.2 hhex' hlow' hhigh'
        · rename_i hlow hhigh
          obtain ⟨rfl, rfl⟩ := Prod.mk.inj (Except.ok.inj h)
          exact ⟨four, .code hhex (by omega), rfl⟩
  · rintro ⟨escaped, hspells, rfl⟩
    cases hspells with
    | short hmem => simp [shortEscapes] at hmem
    | code hhex hnone =>
      rw [unicodeEscape, hexFour_eq_ok_iff.2 ⟨_, hhex, rfl⟩]
      simp only
      rw [if_neg (by omega), if_neg (by omega)]
    | pair hhex hlow hhigh hhex' hlow' hhigh' =>
      rw [unicodeEscape, List.append_assoc, hexFour_eq_ok_iff.2 ⟨_, hhex, rfl⟩]
      simp only
      rw [if_neg (by omega), if_pos ⟨hlow, hhigh⟩, secondHalf_eq_ok_iff]
      exact ⟨_, _, hhex', hlow', hhigh', rfl, rfl⟩

theorem escape_eq_ok_iff : escape s = .ok (c, rest) ↔
    ∃ escaped, Spells ('\\' :: escaped) c ∧ s = escaped ++ rest := by
  constructor
  · intro h
    unfold escape at h
    split at h
    · cases h
    · obtain ⟨escaped, hspells, rfl⟩ := unicodeEscape_eq_ok_iff.1 h
      exact ⟨'u' :: escaped, hspells, rfl⟩
    · rename_i letter more _
      have hshort {c' : Char} (hmem : (letter, c') ∈ shortEscapes)
          (hok : (.ok (c', more) : Step Char) = .ok (c, rest)) :
          ∃ escaped, Spells ('\\' :: escaped) c ∧ letter :: more = escaped ++ rest := by
        obtain ⟨rfl, rfl⟩ := Prod.mk.inj (Except.ok.inj hok)
        exact ⟨[letter], .short hmem, rfl⟩
      split at h
      · exact hshort (by simp [shortEscapes]) h
      · exact hshort (by simp [shortEscapes]) h
      · exact hshort (by simp [shortEscapes]) h
      · exact hshort (by simp [shortEscapes]) h
      · exact hshort (by simp [shortEscapes]) h
      · exact hshort (by simp [shortEscapes]) h
      · exact hshort (by simp [shortEscapes]) h
      · exact hshort (by simp [shortEscapes]) h
      · cases h
  · rintro ⟨escaped, hspells, rfl⟩
    have hunicode {four : List Char} {c : Char} (hspells : Spells ('\\' :: 'u' :: four) c) :
        escape ('u' :: (four ++ rest)) = .ok (c, rest) :=
      unicodeEscape_eq_ok_iff.2 ⟨four, hspells, rfl⟩
    cases hspells with
    | plain _ _ hslash => exact absurd rfl hslash
    | short hmem =>
      simp only [shortEscapes, List.mem_cons, Prod.mk.injEq, List.not_mem_nil, or_false] at hmem
      rcases hmem with ⟨rfl, rfl⟩ | ⟨rfl, rfl⟩ | ⟨rfl, rfl⟩ | ⟨rfl, rfl⟩ | ⟨rfl, rfl⟩ | ⟨rfl, rfl⟩ | ⟨rfl, rfl⟩ |
        ⟨rfl, rfl⟩ <;> rfl
    | code hhex hnone => exact hunicode (.code hhex hnone)
    | pair hhex hlow hhigh hhex' hlow' hhigh' => exact hunicode (.pair hhex hlow hhigh hhex' hlow' hhigh')

/-- What is read up to the closing quote is how the characters of a text may stand in a string. -/
theorem spelled_of_stringBody {before : List Char} {x : String} (h : stringBody before s = .ok (x, rest)) :
    ∃ cs body, Spelled cs body ∧ s = body ++ '"' :: rest ∧ x = String.ofList (before.reverse ++ cs) := by
  fun_induction stringBody before s with
  | case1 => cases h
  | case2 before more =>
    obtain ⟨rfl, rfl⟩ := Prod.mk.inj (Except.ok.inj h)
    exact ⟨[], [], .nil, rfl, by rw [List.append_nil]⟩
  | case3 => cases h
  | case4 before tail e more hescape _ ih =>
    obtain ⟨cs, body, hspelled, rfl, rfl⟩ := ih h
    obtain ⟨escaped, hspells, rfl⟩ := escape_eq_ok_iff.1 hescape
    refine ⟨e :: cs, '\\' :: escaped ++ body, .cons hspells hspelled, ?_, ?_⟩
    · rw [List.append_assoc, List.cons_append]
    · rw [List.reverse_cons, List.append_assoc, List.singleton_append]
  | case5 => cases h
  | case6 before c tail hquote hslash hcontrol ih =>
    obtain ⟨cs, body, hspelled, rfl, rfl⟩ := ih h
    refine ⟨c :: cs, [c] ++ body, .cons (.plain (Char.not_lt.1 hcontrol) hquote hslash) hspelled, rfl, ?_⟩
    rw [List.reverse_cons, List.append_assoc, List.singleton_append]

/-- However the characters of a text stand in a string, they are read. -/
theorem stringBody_of_spelled {cs body : List Char} (h : Spelled cs body) (before rest : List Char) :
    stringBody before (body ++ '"' :: rest) = .ok (String.ofList (before.reverse ++ cs), rest) := by
  induction h generalizing before with
  | nil =>
    rw [List.nil_append, List.append_nil, stringBody, if_pos rfl]
  | @cons c cs spelling body hspells hspelled ih =>
    have hnext : stringBody before (spelling ++ (body ++ '"' :: rest)) =
        stringBody (c :: before) (body ++ '"' :: rest) := by
      have hescape {escaped : List Char} (hspells : Spells ('\\' :: escaped) c) :
          stringBody before ('\\' :: (escaped ++ (body ++ '"' :: rest))) =
            stringBody (c :: before) (body ++ '"' :: rest) :=
        stringBody_of_escape (escape_eq_ok_iff.2 ⟨escaped, hspells, rfl⟩) before
      cases hspells with
      | plain hcontrol hquote hslash =>
        rw [List.singleton_append, stringBody, if_neg hquote, if_neg hslash, if_neg (Char.not_lt.2 hcontrol)]
      | short hmem => exact hescape (.short hmem)
      | code hhex hnone => exact hescape (.code hhex hnone)
      | pair hhex hlow hhigh hhex' hlow' hhigh' => exact hescape (.pair hhex hlow hhigh hhex' hlow' hhigh')
    rw [List.append_assoc, hnext, ih, List.reverse_cons, List.append_assoc, List.singleton_append]

/-- Characters that need no escape may stand as they are. -/
theorem spelled_plain {cs : List Char} (h : ∀ c ∈ cs, ' ' ≤ c ∧ c ≠ '"' ∧ c ≠ '\\') : Spelled cs cs := by
  induction cs with
  | nil => exact .nil
  | cons c cs ih =>
    obtain ⟨⟨hcontrol, hquote, hslash⟩, hcs⟩ := List.forall_mem_cons.1 h
    exact .cons (.plain hcontrol hquote hslash) (ih hcs)

/-- A string is read up to its closing quote, after the opening one. -/
theorem stringBody_eq_ok_iff {x : String} :
    stringBody [] s = .ok (x, rest) ↔ ∃ body, Spelled x.toList body ∧ s = body ++ '"' :: rest := by
  constructor
  · intro h
    obtain ⟨cs, body, hspelled, hs, rfl⟩ := spelled_of_stringBody h
    refine ⟨body, ?_, hs⟩
    rwa [List.reverse_nil, List.nil_append, String.toList_ofList]
  · rintro ⟨body, hspelled, rfl⟩
    rw [stringBody_of_spelled hspelled, List.reverse_nil, List.nil_append, String.ofList_toList]

end Strings

section Numbers
variable {n : Nat}

/-- What was read is no count: the reading failed, or gave another number. -/
def NoCount (read : Step Number) : Prop := ∀ n rest, read ≠ .ok (.natural n, rest)

theorem noCount_realOf (positive : Bool) (significand : Nat) (exponent : Int) (s : List Char) :
    NoCount (realOf positive significand exponent s) := by
  intro n rest h
  simp only [realOf] at h
  split at h
  · cases h
  · split at h
    · split at h <;> cases h
    · split at h <;> cases h

theorem noCount_exponentPart (positive : Bool) (significand : Nat) (scale : Int) (s : List Char) :
    NoCount (exponentPart positive significand scale s) := by
  intro n rest h
  unfold exponentPart at h
  -- first the sign, then whether there are digits, and whether they are too many
  split at h
  split at h
  · cases h
  · split at h
    · simp only at h
      split at h
      · split at h <;> cases h
      · exact noCount_realOf _ _ _ _ _ _ h
    · cases h

theorem noCount_afterFraction (positive : Bool) (significand : Nat) (scale : Int) (s : List Char) :
    NoCount (afterFraction positive significand scale s) := by
  unfold afterFraction
  split
  · exact noCount_exponentPart _ _ _ _
  · exact noCount_exponentPart _ _ _ _
  · exact noCount_realOf _ _ _ _

theorem noCount_fractionPart (positive : Bool) (significand : Nat) (scale : Int) (s : List Char) :
    NoCount (fractionPart positive significand scale s) := by
  unfold fractionPart
  simp only
  split
  · exact noCount_afterFraction _ _ _ _
  · split
    · intro n rest h
      cases h
    · exact noCount_afterFraction _ _ _ _

/-- A count ends after its whole part, and has no sign. -/
theorem eq_of_afterWhole {positive : Bool} {significand : Nat}
    (h : afterWhole positive significand s = .ok (.natural n, rest)) :
    positive = true ∧ significand = n ∧ s = rest := by
  unfold afterWhole at h
  split at h
  · simp only at h
    split at h
    · exact absurd h (noCount_fractionPart _ _ _ _ _ _)
    · exact absurd h (noCount_afterFraction _ _ _ _ _ _)
  · split at h
    · exact absurd h (noCount_fractionPart _ _ _ _ _ _)
    · exact absurd h (noCount_afterFraction _ _ _ _ _ _)
    · exact absurd h (noCount_afterFraction _ _ _ _ _ _)
    · cases positive with
      | true =>
        obtain ⟨hnumber, hs⟩ := Prod.mk.inj (Except.ok.inj h)
        exact ⟨rfl, Number.natural.inj hnumber, hs⟩
      | false =>
        rw [if_neg Bool.false_ne_true] at h
        split at h <;> cases h

/-- Only digits are read, as long as their value stays within the bound. -/
theorem exists_of_digitsUpTo {bound value : Nat} (h : digitsUpTo bound value s = (n, rest)) (hvalue : value ≤ bound) :
    n ≤ bound ∧ ∃ digits, (∀ c ∈ digits, c.isDigit) ∧ s = digits ++ rest ∧ Nat.ofDigitChars 10 digits value = n := by
  fun_induction digitsUpTo bound value s with
  | case1 value =>
    obtain ⟨rfl, rfl⟩ := Prod.mk.inj h
    exact ⟨hvalue, [], nofun, rfl, Nat.ofDigitChars_nil⟩
  | case2 value c s hc ih =>
    obtain ⟨hdigit, hnext⟩ := Bool.and_eq_true_iff.1 hc
    obtain ⟨hn, digits, hdigits, rfl, hvalue⟩ := ih h (of_decide_eq_true hnext)
    refine ⟨hn, c :: digits, List.forall_mem_cons.2 ⟨hdigit, hdigits⟩, rfl, ?_⟩
    rw [Nat.ofDigitChars_cons, Nat.mul_comm]
    exact hvalue
  | case3 value c s hc =>
    obtain ⟨rfl, rfl⟩ := Prod.mk.inj h
    exact ⟨hvalue, [], nofun, rfl, Nat.ofDigitChars_nil⟩

theorem le_ofDigitChars (digits : List Char) (value : Nat) : value ≤ Nat.ofDigitChars 10 digits value := by
  rw [Nat.ofDigitChars_eq_ofDigitChars_zero]
  have hpow : 1 ≤ 10 ^ digits.length := Nat.one_le_pow _ _ (by decide)
  have hmul : 1 * value ≤ 10 ^ digits.length * value := Nat.mul_le_mul_right value hpow
  omega

/-- All digits are read if their value is within the bound. -/
theorem digitsUpTo_append {bound value : Nat} {digits : List Char} (hdigits : ∀ c ∈ digits, c.isDigit)
    (hbound : Nat.ofDigitChars 10 digits value ≤ bound) (hrest : Follows rest) :
    digitsUpTo bound value (digits ++ rest) = (Nat.ofDigitChars 10 digits value, rest) := by
  induction digits generalizing value with
  | nil => exact hrest.digitsUpTo bound value
  | cons c digits ih =>
    obtain ⟨hc, hdigits⟩ := List.forall_mem_cons.1 hdigits
    rw [Nat.ofDigitChars_cons, Nat.mul_comm] at hbound ⊢
    have hnext : value * 10 + (c.toNat - 48) ≤ bound := (le_ofDigitChars digits _).trans hbound
    rw [List.cons_append, digitsUpTo, hc, Bool.true_and, if_pos (decide_eq_true hnext)]
    exact ih hdigits hbound

theorem exists_of_number {positive : Bool} (h : number positive s = .ok (.natural n, rest)) :
    positive = true ∧ n ≤ maxWord ∧ ∃ literal, Counts literal n ∧ s = literal ++ rest := by
  unfold number at h
  split at h
  · cases h
  · split at h
    · cases h
    · obtain ⟨hpositive, rfl, rfl⟩ := eq_of_afterWhole h
      exact ⟨hpositive, Nat.zero_le _, ['0'], ⟨.inl rfl, rfl⟩, rfl⟩
  · rename_i c more hzero
    split at h
    · rename_i hc
      obtain ⟨hpositive, hn, hrest⟩ := eq_of_afterWhole h
      have hsmall : c.toNat ≤ 57 := of_decide_eq_true (Bool.and_eq_true_iff.1 hc).2
      have hfirst : c.toNat - 48 ≤ maxWord := by
        simp only [maxWord]
        omega
      have hread : digitsUpTo maxWord 0 (c :: more) = (n, rest) := Prod.ext hn hrest
      rw [digitsUpTo, hc, Bool.true_and, Nat.zero_mul, Nat.zero_add, if_pos (decide_eq_true hfirst)] at hread
      obtain ⟨hbound, digits, hdigits, rfl, hvalue⟩ := exists_of_digitsUpTo hread hfirst
      refine ⟨hpositive, hbound, c :: digits, ⟨.inr ⟨⟨List.cons_ne_nil _ _, ?_⟩, ?_⟩, ?_⟩, rfl⟩
      · exact List.forall_mem_cons.2 ⟨hc, hdigits⟩
      · intro hhead
        exact hzero (Option.some.inj hhead)
      · rw [Nat.ofDigitChars_cons, Nat.mul_zero, Nat.zero_add]
        exact hvalue
    · cases h

theorem toNat_le_maxWord (n : UInt64) : n.toNat ≤ maxWord := by
  have hlt := n.toNat_lt
  simp only [maxWord]
  omega

theorem toNat_ofNat_of_le_maxWord (h : n ≤ maxWord) : (UInt64.ofNat n).toNat = n := by
  apply UInt64.toNat_ofNat_of_lt'
  simp only [maxWord, UInt64.size] at h ⊢
  omega

/-- A count within the bound of a word is read, whatever can follow a number. -/
theorem number_append {literal : List Char} (hcounts : Counts literal n) (hbound : n ≤ maxWord) (hrest : Follows rest) :
    number true (literal ++ rest) = .ok (.natural n, rest) := by
  obtain ⟨hwhole, rfl⟩ := hcounts
  rcases hwhole with rfl | ⟨⟨hne, hdigits⟩, hzero⟩
  · rw [List.singleton_append, number, hrest.startsWithDigit, if_neg Bool.false_ne_true, hrest.afterWhole]
    rfl
  · have hread := digitsUpTo_append hdigits hbound hrest
    obtain ⟨c, more, rfl⟩ := List.exists_cons_of_ne_nil hne
    rw [List.cons_append] at hread ⊢
    rw [number, if_pos (hdigits c List.mem_cons_self), hread]
    · exact hrest.afterWhole _
    · rintro rfl
      exact hzero rfl

/-- The numeral of a number counts as that number. -/
theorem counts_digits (n : Nat) : Counts (Numeral.digits n) n := by
  refine ⟨?_, Nat.ofDigitChars_ten_toDigits⟩
  rcases Nat.eq_zero_or_pos n with rfl | hpos
  · exact .inl rfl
  · obtain ⟨c, more, hdigits, -, hzero⟩ := exists_digits_eq_cons n
    refine .inr ⟨⟨Nat.toDigits_ne_nil, fun c hc => Numeral.isDigit_of_mem_digits hc⟩, ?_⟩
    rw [hdigits, List.head?_cons]
    exact fun h => hzero hpos (Option.some.inj h)

theorem isNumber_of_counts {literal : List Char} {n : Nat} (h : Counts literal n) : IsNumber literal :=
  ⟨[], literal, [], [], .inl rfl, h.1, .inl rfl, .inl rfl, by simp⟩

theorem exists_cons_of_counts {literal : List Char} {n : Nat} (h : Counts literal n) :
    ∃ c more, literal = c :: more ∧ c.isDigit := by
  rcases h.1 with rfl | ⟨⟨hne, hdigits⟩, -⟩
  · exact ⟨'0', [], rfl, rfl⟩
  · obtain ⟨c, more, rfl⟩ := List.exists_cons_of_ne_nil hne
    exact ⟨c, more, rfl, hdigits c List.mem_cons_self⟩

theorem exists_cons_of_isNumber (h : IsNumber s) : ∃ c more, s = c :: more ∧ (c = '-' ∨ c.isDigit) := by
  obtain ⟨sign, whole, fraction, exponent, hsign, hwhole, -, -, rfl⟩ := h
  rcases hsign with rfl | rfl
  · rcases hwhole with rfl | ⟨⟨hne, hdigits⟩, -⟩
    · exact ⟨'0', _, rfl, .inr rfl⟩
    · obtain ⟨c, more, rfl⟩ := List.exists_cons_of_ne_nil hne
      exact ⟨c, _, rfl, .inr (hdigits c List.mem_cons_self)⟩
  · exact ⟨'-', _, rfl, .inl rfl⟩

end Numbers

section Items
variable {α : Type} {Writes : α → List Char → Prop} {closing : Char} {items : List α} {blanks text : List Char}

/-- How a value begins: not with a blank, a comma or a closing bracket. -/
theorem exists_of_written {value : Value} (h : Written value text) :
    ∃ c more, text = c :: more ∧ isBlank c = false ∧ c ≠ ',' ∧ c ≠ ']' := by
  have hdigit {c : Char} (hc : c.isDigit) : isBlank c = false ∧ c ≠ ',' ∧ c ≠ ']' := by
    refine ⟨isBlank_of_isDigit hc, ?_, ?_⟩ <;> rintro rfl <;> cases hc
  cases h with
  | null | yes | no | list | object => exact ⟨_, _, rfl, by decide⟩
  | text hquoted =>
    obtain ⟨body, -, rfl⟩ := hquoted
    exact ⟨_, _, rfl, by decide⟩
  | number hnumber =>
    obtain ⟨c, more, rfl, rfl | hc⟩ := exists_cons_of_isNumber hnumber
    · exact ⟨_, _, rfl, by decide⟩
    · exact ⟨c, more, rfl, hdigit hc⟩

theorem skipBlank_written {value : Value} {blanks : List Char} (h : Written value text) (hblanks : Blanks blanks)
    (rest : List Char) : skipBlank (blanks ++ (text ++ rest)) = text ++ rest := by
  obtain ⟨c, more, rfl, hc, -⟩ := exists_of_written h
  rw [skipBlank_append hblanks]
  exact skipBlank_of_not hc

/-- A value ends here: the text is at its end, or goes on with a blank, a comma or a closing bracket. -/
def Ends (rest : List Char) : Prop := ∀ c, rest.head? = some c → isBlank c ∨ c = ',' ∨ c = ']' ∨ c = '}'

theorem Ends.follows (h : Ends rest) : Follows rest := by
  intro c hc
  have hblank (hc : isBlank c) : c.isDigit = false ∧ c ≠ '.' ∧ c ≠ 'e' ∧ c ≠ 'E' := by
    simp only [isBlank, Bool.or_eq_true, beq_iff_eq] at hc
    rcases hc with ((rfl | rfl) | rfl) | rfl <;> decide
  rcases h c hc with hc | rfl | rfl | rfl
  · exact hblank hc
  · decide
  · decide
  · decide

theorem ends_append {c : Char} (hblanks : Blanks blanks) (hc : c = ',' ∨ c = ']' ∨ c = '}') (rest : List Char) :
    Ends (blanks ++ c :: rest) := by
  intro x hx
  cases blanks with
  | nil =>
    obtain rfl := Option.some.inj hx
    exact .inr hc
  | cons b blanks =>
    obtain rfl := Option.some.inj hx
    exact .inl (hblanks b List.mem_cons_self)

/-- An item ends before what stands after it. -/
theorem Items.ends (hclosing : closing = ']' ∨ closing = '}') (h : Items Writes closing false items text)
    (rest : List Char) : Ends (text ++ rest) := by
  cases h with
  | close hblanks =>
    rw [List.append_assoc]
    exact ends_append hblanks (.inr hclosing) rest
  | item hlead =>
    obtain ⟨before, after, hbefore, -, rfl⟩ := hlead
    simp only [List.append_assoc, List.cons_append]
    exact ends_append hbefore (.inl rfl) _

end Items

end SourceSnapshot.Json
