import SourceSnapshot.Json.Printer
import SourceSnapshot.Json.Scan

/-! Reading what was printed. A string is read back character by character, each from its own escape, a number ends
where what follows does not go on with it, and blanks between the parts are passed over. -/
namespace SourceSnapshot.Json
variable {rest : List Char}

theorem hexDigit?_digitChar : ∀ n < 16, hexDigit? (Nat.digitChar n) = some n := by decide

/-- Below the blank the escape of a control is four digits, of which the first two are zeros. -/
theorem leftpad_toDigits : ∀ n < 32,
    (Nat.toDigits 16 n).leftpad 4 '0' = ['0', '0', Nat.digitChar (n / 16), Nat.digitChar (n % 16)] := by
  decide

theorem toNat_lt_of_lt_blank {c : Char} (h : c < ' ') : c.toNat < 32 := by
  exact h

/-- The escape of a control is read as that control. -/
theorem escape_control {c : Char} (h : c < ' ') :
    escape ('u' :: (Nat.toDigits 16 c.toNat).leftpad 4 '0' ++ rest) = .ok (c, rest) := by
  have hlt : c.toNat < 32 := toNat_lt_of_lt_blank h
  have hfour : hexFour ('0' :: '0' :: Nat.digitChar (c.toNat / 16) :: Nat.digitChar (c.toNat % 16) :: rest) =
      .ok (c.toNat, rest) := by
    have hzero : hexDigit? '0' = some 0 := rfl
    have hcode : 0 * 4096 + 0 * 256 + c.toNat / 16 * 16 + c.toNat % 16 = c.toNat := by omega
    rw [hexFour, hzero, hexDigit?_digitChar _ (by omega), hexDigit?_digitChar _ (by omega)]
    simp only [hcode]
  rw [leftpad_toDigits _ hlt]
  simp only [List.cons_append, List.nil_append, escape, unicodeEscape, hfour]
  rw [if_neg (by omega), if_neg (by omega), Char.ofNat_toNat]

/-- An escape in a string is read as its character. -/
theorem stringBody_of_escape {tail : List Char} {c : Char} (h : escape tail = .ok (c, rest)) (before : List Char) :
    stringBody before ('\\' :: tail) = stringBody (c :: before) rest := by
  rw [stringBody, if_neg (by decide), if_pos rfl]
  split
  · rename_i hfault
    rw [h] at hfault
    cases hfault
  · rename_i e more hread
    rw [h] at hread
    obtain ⟨rfl, rfl⟩ := Prod.mk.inj (Except.ok.inj hread)
    rfl

/-- What stands for a character in a string is read as that character. -/
theorem stringBody_escapeChar (before : List Char) (c : Char) (rest : List Char) :
    stringBody before (escapeChar c ++ rest) = stringBody (c :: before) rest := by
  have hescape {tail : List Char} (h : escape tail = .ok (c, rest)) :
      stringBody before ('\\' :: tail) = stringBody (c :: before) rest := stringBody_of_escape h before
  unfold escapeChar
  split
  · exact hescape rfl
  · exact hescape rfl
  · exact hescape rfl
  · exact hescape rfl
  · exact hescape rfl
  · exact hescape rfl
  · exact hescape rfl
  · rename_i hquote hslash _ _ _ _ _
    split
    · rename_i hcontrol
      exact hescape (escape_control hcontrol)
    · rename_i hcontrol
      rw [List.singleton_append, stringBody, if_neg hquote, if_neg hslash, if_neg hcontrol]

theorem stringBody_flatMap (before s rest : List Char) :
    stringBody before (s.flatMap escapeChar ++ '"' :: rest) = .ok (String.ofList (before.reverse ++ s), rest) := by
  induction s generalizing before with
  | nil =>
    rw [List.flatMap_nil, List.nil_append, stringBody, if_pos rfl, List.append_nil]
  | cons c s ih =>
    rw [List.flatMap_cons, List.append_assoc, stringBody_escapeChar, ih, List.reverse_cons, List.append_assoc,
      List.singleton_append]

theorem quote_append (s : String) (rest : List Char) : quote s ++ rest =
    '"' :: (s.toList.flatMap escapeChar ++ '"' :: rest) := by
  simp [quote]

/-- A quoted string is read back, after its opening quote. -/
theorem stringBody_quote (s : String) (rest : List Char) :
    stringBody [] (s.toList.flatMap escapeChar ++ '"' :: rest) = .ok (s, rest) := by
  rw [stringBody_flatMap, List.reverse_nil, List.nil_append, String.ofList_toList]

theorem exists_digits_eq_cons (n : Nat) :
    ∃ c more, Numeral.digits n = c :: more ∧ c.isDigit ∧ (0 < n → c ≠ '0') := by
  unfold Numeral.digits
  induction n using Nat.strongRecOn with
  | ind n ih =>
    by_cases hsmall : n < 10
    · refine ⟨Nat.digitChar n, [], Nat.toDigits_of_lt_base hsmall, ?_, ?_⟩
      · rw [Nat.isDigit_digitChar]
        exact decide_eq_true hsmall
      · intro hpos
        rw [ne_eq, Nat.digitChar_eq_zero]
        omega
    · obtain ⟨c, more, hfront, hdigit, hzero⟩ := ih (n / 10) (by omega)
      refine ⟨c, more ++ [Nat.digitChar (n % 10)], ?_, hdigit, fun _ => hzero (by omega)⟩
      rw [Nat.toDigits_of_base_le (by decide) (by omega), hfront, List.cons_append]

/-- A number ends here: what follows does not go on with it. -/
def Follows (rest : List Char) : Prop :=
  ∀ c, rest.head? = some c → c.isDigit = false ∧ c ≠ '.' ∧ c ≠ 'e' ∧ c ≠ 'E'

theorem Follows.startsWithDigit (h : Follows rest) : startsWithDigit rest = false := by
  cases rest with
  | nil => rfl
  | cons c rest => exact (h c rfl).1

theorem Follows.digitsUpTo (h : Follows rest) (bound n : Nat) : digitsUpTo bound n rest = (n, rest) := by
  cases rest with
  | nil => rfl
  | cons c rest => rw [Json.digitsUpTo, (h c rfl).1, Bool.false_and, if_neg Bool.false_ne_true]

theorem Follows.afterWhole (h : Follows rest) (n : Nat) : afterWhole true n rest = .ok (.natural n, rest) := by
  have hne {c : Char} (hc : c = '.' ∨ c = 'e' ∨ c = 'E') (tail : List Char) (hrest : rest = c :: tail) : False := by
    obtain ⟨-, hdot, hsmall, hgreat⟩ := h c (by rw [hrest, List.head?_cons])
    rcases hc with hc | hc | hc
    · exact hdot hc
    · exact hsmall hc
    · exact hgreat hc
  rw [Json.afterWhole, h.startsWithDigit, if_neg Bool.false_ne_true]
  · rfl
  · exact hne (.inl rfl)
  · exact hne (.inr (.inl rfl))
  · exact hne (.inr (.inr rfl))

section Items
variable {opening closing : Char} {level : Nat}

/-- Blanks are passed over up to what is none. -/
theorem skipBlank_append {blanks : List Char} (h : ∀ c ∈ blanks, isBlank c) (rest : List Char) :
    skipBlank (blanks ++ rest) = skipBlank rest :=
  List.dropWhile_append_of_pos h

theorem skipBlank_of_not {c : Char} (h : isBlank c = false) : skipBlank (c :: rest) = c :: rest :=
  List.dropWhile_cons_of_neg (by simp [h])

theorem isBlank_of_isDigit {c : Char} (h : c.isDigit) : isBlank c = false := by
  apply Bool.eq_false_iff.2
  intro hblank
  simp only [isBlank, Bool.or_eq_true, beq_iff_eq] at hblank
  rcases hblank with ((rfl | rfl) | rfl) | rfl <;> cases h

/-- The indentation of a line is passed over. -/
theorem skipBlank_line (level : Nat) (rest : List Char) :
    skipBlank ('\n' :: (indent level ++ rest)) = skipBlank rest := by
  rw [← List.cons_append]
  apply skipBlank_append
  intro c hc
  rcases List.mem_cons.1 hc with rfl | hc
  · rfl
  · rw [List.eq_of_mem_replicate hc]
    rfl

/-- What follows an item between brackets: the other items, each on a line of its own, and the end. -/
def itemsAfter (closing : Char) (level : Nat) (items : List (List Char)) (rest : List Char) : List Char :=
  items.flatMap (fun item => ',' :: '\n' :: (indent (level + 1) ++ item)) ++ '\n' :: (indent level ++ closing :: rest)

theorem bracketed_cons (item : List Char) (items : List (List Char)) (rest : List Char) :
    bracketed opening closing level (item :: items) ++ rest =
      opening :: '\n' :: (indent (level + 1) ++ (item ++ itemsAfter closing level items rest)) := by
  have hlines (first : List Char) (more : List (List Char)) :
      [','].intercalate (first :: more) = first ++ more.flatMap (',' :: ·) := by
    induction more generalizing first with
    | nil => simp
    | cons next more ih =>
      rw [List.intercalate_cons_of_ne_nil (by simp), ih]
      simp
  change opening :: [','].intercalate (_ :: items.map _) ++ '\n' :: indent level ++ [closing] ++ rest = _
  rw [hlines, List.flatMap_map]
  simp only [itemsAfter, List.cons_append, List.append_assoc, List.nil_append]

theorem itemsAfter_cons (item : List Char) (items : List (List Char)) :
    itemsAfter closing level (item :: items) rest =
      ',' :: '\n' :: (indent (level + 1) ++ (item ++ itemsAfter closing level items rest)) := by
  simp only [itemsAfter, List.flatMap_cons, List.cons_append, List.append_assoc]

theorem skipBlank_itemsAfter_nil (h : isBlank closing = false) :
    skipBlank (itemsAfter closing level [] rest) = closing :: rest := by
  rw [itemsAfter, List.flatMap_nil, List.nil_append, skipBlank_line, skipBlank_of_not h]

theorem follows_itemsAfter (items : List (List Char)) : Follows (itemsAfter closing level items rest) := by
  rintro c hc
  cases items with
  | nil =>
    obtain rfl := Option.some.inj hc
    decide
  | cons item items =>
    obtain rfl := Option.some.inj hc
    decide

theorem skipBlank_quote (s : String) : skipBlank (quote s ++ rest) = quote s ++ rest :=
  skipBlank_of_not rfl

/-- What is printed of a value begins with no blank. -/
theorem skipBlank_print (value : Printable) : skipBlank (value.print level ++ rest) = value.print level ++ rest := by
  cases value with
  | null => rfl
  | flag b =>
    cases b
    · rfl
    · rfl
  | number n =>
    obtain ⟨c, more, hdigits, hdigit, -⟩ := exists_digits_eq_cons n
    rw [Printable.print, hdigits, List.cons_append, skipBlank_of_not (isBlank_of_isDigit hdigit)]
  | text s => exact skipBlank_quote s
  | texts items =>
    cases items with
    | nil => rfl
    | cons item items => exact skipBlank_of_not rfl

end Items

end SourceSnapshot.Json
