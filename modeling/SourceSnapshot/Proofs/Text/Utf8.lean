import SourceSnapshot.Text.Utf8

/-! UTF-8 is read as it is written: `decode?` takes exactly the bytes that `encode` gives, and gives
the text back. Between the reader and the writer stand the forms of a character in bytes. -/
namespace SourceSnapshot.Utf8

def IsTail (b : UInt8) : Prop := 0x80 ≤ b.toNat ∧ b.toNat ≤ 0xBF

/-- The forms of a character in bytes. The bounds on the second byte refuse longer forms than needed,
surrogates, and what no character has. -/
inductive Spells : Bytes → Char → Prop
  | one {a : UInt8} : a.toNat < 0x80 → Spells [a] (Char.ofNat a.toNat)
  | two {a b : UInt8} : 0xC2 ≤ a.toNat → a.toNat < 0xE0 → IsTail b →
      Spells [a, b] (Char.ofNat (a.toNat % 32 * 64 + b.toNat % 64))
  | three {a b c : UInt8} : 0xE0 ≤ a.toNat → a.toNat < 0xF0 → IsTail b →
      (a.toNat = 0xE0 → 0xA0 ≤ b.toNat) → (a.toNat = 0xED → b.toNat ≤ 0x9F) → IsTail c →
      Spells [a, b, c] (Char.ofNat ((a.toNat % 16 * 64 + b.toNat % 64) * 64 + c.toNat % 64))
  | four {a b c d : UInt8} : 0xF0 ≤ a.toNat → a.toNat < 0xF5 → IsTail b →
      (a.toNat = 0xF0 → 0x90 ≤ b.toNat) → (a.toNat = 0xF4 → b.toNat ≤ 0x8F) → IsTail c → IsTail d →
      Spells [a, b, c, d]
        (Char.ofNat (((a.toNat % 8 * 64 + b.toNat % 64) * 64 + c.toNat % 64) * 64 + d.toNat % 64))

private theorem val_ofNat {n : Nat} (h : n.isValidChar) : (Char.ofNat n).val.toNat = n := by
  rw [Char.ofNat, dif_pos h]
  rfl

private theorem ofNat_eq {n : Nat} {b : UInt8} (h : n = b.toNat) : UInt8.ofNat n = b := by
  rw [h, UInt8.ofNat_toNat]

private theorem utf8EncodeChar_of_spells {bytes : Bytes} {c : Char} (h : Spells bytes c) :
    String.utf8EncodeChar c = bytes := by
  cases h with
  | @one a ha =>
    have hv : (Char.ofNat a.toNat).val.toNat = a.toNat := val_ofNat (by unfold Nat.isValidChar; omega)
    simp only [String.utf8EncodeChar, hv]
    rw [if_pos (by omega), ofNat_eq rfl]
  | @two a b ha ha' hb =>
    obtain ⟨hb, hb'⟩ := hb
    have hv := val_ofNat (n := a.toNat % 32 * 64 + b.toNat % 64) (by unfold Nat.isValidChar; omega)
    simp only [String.utf8EncodeChar, hv]
    rw [if_neg (by omega), if_pos (by omega), ofNat_eq (b := a) (by omega),
      ofNat_eq (b := b) (by omega)]
  | @three a b c ha ha' hb hlow hhigh hc =>
    obtain ⟨⟨hb, hb'⟩, hc, hc'⟩ := And.intro hb hc
    have hv := val_ofNat (n := (a.toNat % 16 * 64 + b.toNat % 64) * 64 + c.toNat % 64)
      (by unfold Nat.isValidChar; omega)
    simp only [String.utf8EncodeChar, hv]
    rw [if_neg (by omega), if_neg (by omega), if_pos (by omega), ofNat_eq (b := a) (by omega),
      ofNat_eq (b := b) (by omega), ofNat_eq (b := c) (by omega)]
  | @four a b c d ha ha' hb hlow hhigh hc hd =>
    obtain ⟨⟨hb, hb'⟩, ⟨hc, hc'⟩, hd, hd'⟩ := And.intro hb (And.intro hc hd)
    have hv := val_ofNat
      (n := ((a.toNat % 8 * 64 + b.toNat % 64) * 64 + c.toNat % 64) * 64 + d.toNat % 64)
      (by unfold Nat.isValidChar; omega)
    simp only [String.utf8EncodeChar, hv]
    rw [if_neg (by omega), if_neg (by omega), if_neg (by omega), ofNat_eq (b := a) (by omega),
      ofNat_eq (b := b) (by omega), ofNat_eq (b := c) (by omega), ofNat_eq (b := d) (by omega)]

private theorem toNat_ofNat {n : Nat} (h : n < 256) : (UInt8.ofNat n).toNat = n := by
  simp only [UInt8.toNat_ofNat', Nat.reducePow, Nat.mod_eq_of_lt h]

private theorem spells_utf8EncodeChar (c : Char) : Spells (String.utf8EncodeChar c) c := by
  have hvalid : c.val.toNat.isValidChar := c.valid
  have hc : c = Char.ofNat c.val.toNat := (Char.ofNat_toNat c).symm
  generalize hv : c.val.toNat = v at hvalid hc
  unfold Nat.isValidChar at hvalid
  simp only [String.utf8EncodeChar, hv]
  split
  · have ha := toNat_ofNat (n := v) (by omega)
    have h := Spells.one (a := UInt8.ofNat v) (by omega)
    rwa [ha, ← hc] at h
  split
  · have ha := toNat_ofNat (n := v / 64 % 32 + 192) (by omega)
    have hb := toNat_ofNat (n := v % 64 + 128) (by omega)
    have h := Spells.two (a := .ofNat (v / 64 % 32 + 192)) (b := .ofNat (v % 64 + 128))
      (by omega) (by omega) ⟨by omega, by omega⟩
    rwa [ha, hb, show (v / 64 % 32 + 192) % 32 * 64 + (v % 64 + 128) % 64 = v by omega, ← hc] at h
  split
  · have ha := toNat_ofNat (n := v / 4096 % 16 + 224) (by omega)
    have hb := toNat_ofNat (n := v / 64 % 64 + 128) (by omega)
    have hd := toNat_ofNat (n := v % 64 + 128) (by omega)
    have h := Spells.three (a := .ofNat (v / 4096 % 16 + 224)) (b := .ofNat (v / 64 % 64 + 128))
      (c := .ofNat (v % 64 + 128)) (by omega) (by omega) ⟨by omega, by omega⟩ (by omega) (by omega)
      ⟨by omega, by omega⟩
    rwa [ha, hb, hd, show ((v / 4096 % 16 + 224) % 16 * 64 + (v / 64 % 64 + 128) % 64) * 64 +
      (v % 64 + 128) % 64 = v by omega, ← hc] at h
  · have ha := toNat_ofNat (n := v / 262144 % 8 + 240) (by omega)
    have hb := toNat_ofNat (n := v / 4096 % 64 + 128) (by omega)
    have hd := toNat_ofNat (n := v / 64 % 64 + 128) (by omega)
    have he := toNat_ofNat (n := v % 64 + 128) (by omega)
    have h := Spells.four (a := .ofNat (v / 262144 % 8 + 240)) (b := .ofNat (v / 4096 % 64 + 128))
      (c := .ofNat (v / 64 % 64 + 128)) (d := .ofNat (v % 64 + 128)) (by omega) (by omega)
      ⟨by omega, by omega⟩ (by omega) (by omega) ⟨by omega, by omega⟩ ⟨by omega, by omega⟩
    rwa [ha, hb, hd, he, show (((v / 262144 % 8 + 240) % 8 * 64 + (v / 4096 % 64 + 128) % 64) * 64 +
      (v / 64 % 64 + 128) % 64) * 64 + (v % 64 + 128) % 64 = v by omega, ← hc] at h

/-- The forms of a character are the one that is written. -/
theorem spells_iff {bytes : Bytes} {c : Char} : Spells bytes c ↔ String.utf8EncodeChar c = bytes :=
  ⟨utf8EncodeChar_of_spells, fun h => h ▸ spells_utf8EncodeChar c⟩

private def fresh (found : List (Option Char)) : Reading := { found }

private theorem start_one {found : List (Option Char)} {a : UInt8} (h : a.toNat < 0x80) :
    Reading.start found a = fresh (some (Char.ofNat a.toNat) :: found) := by
  simp only [Reading.start, UInt8.lt_iff_toNat_lt, UInt8.reduceToNat]
  rw [if_pos h]
  rfl

private theorem start_two {found : List (Option Char)} {a : UInt8} (h : 0xC2 ≤ a.toNat)
    (h' : a.toNat < 0xE0) : Reading.start found a = ⟨1, 0x80, 0xBF, a.toNat % 32, found⟩ := by
  simp only [Reading.start, UInt8.lt_iff_toNat_lt, UInt8.reduceToNat]
  rw [if_neg (by omega), if_neg (by omega), if_pos h']

private theorem start_three {found : List (Option Char)} {a : UInt8} (h : 0xE0 ≤ a.toNat)
    (h' : a.toNat < 0xF0) : Reading.start found a =
      ⟨2, if a = 0xE0 then 0xA0 else 0x80, if a = 0xED then 0x9F else 0xBF, a.toNat % 16, found⟩ := by
  simp only [Reading.start, UInt8.lt_iff_toNat_lt, UInt8.reduceToNat]
  rw [if_neg (by omega), if_neg (by omega), if_neg (by omega), if_pos h']

private theorem start_four {found : List (Option Char)} {a : UInt8} (h : 0xF0 ≤ a.toNat)
    (h' : a.toNat < 0xF5) : Reading.start found a =
      ⟨3, if a = 0xF0 then 0x90 else 0x80, if a = 0xF4 then 0x8F else 0xBF, a.toNat % 8, found⟩ := by
  simp only [Reading.start, UInt8.lt_iff_toNat_lt, UInt8.reduceToNat]
  rw [if_neg (by omega), if_neg (by omega), if_neg (by omega), if_neg (by omega), if_pos h']

private theorem start_invalid {found : List (Option Char)} {a : UInt8}
    (h : 0x80 ≤ a.toNat ∧ a.toNat < 0xC2 ∨ 0xF5 ≤ a.toNat) :
    Reading.start found a = fresh (none :: found) := by
  simp only [Reading.start, UInt8.lt_iff_toNat_lt, UInt8.reduceToNat]
  rw [if_neg (by omega)]
  rcases h with h | h
  · rw [if_pos h.2]
    rfl
  · rw [if_neg (by omega), if_neg (by omega), if_neg (by omega), if_neg (by omega)]
    rfl

private theorem next_last {low high b : UInt8} {bits : Nat} {found : List (Option Char)}
    (h : low ≤ b ∧ b ≤ high) : Reading.next ⟨1, low, high, bits, found⟩ b =
      fresh (some (Char.ofNat (bits * 64 + b.toNat % 64)) :: found) := by
  simp only [Reading.next, if_pos h]
  rfl

private theorem next_inner {owed : Nat} {low high b : UInt8} {bits : Nat}
    {found : List (Option Char)} (h : low ≤ b ∧ b ≤ high) :
    Reading.next ⟨owed + 2, low, high, bits, found⟩ b =
      ⟨owed + 1, 0x80, 0xBF, bits * 64 + b.toNat % 64, found⟩ := by
  simp only [Reading.next, if_pos h, Nat.add_one_ne_zero, if_false]

private theorem isTail_iff {b : UInt8} : IsTail b ↔ 0x80 ≤ b ∧ b ≤ 0xBF := by
  simp only [IsTail, UInt8.le_iff_toNat_le, UInt8.reduceToNat]

private theorem second_of_three_iff {a b : UInt8} :
    ((if a = 0xE0 then 0xA0 else 0x80) ≤ b ∧ b ≤ if a = 0xED then 0x9F else 0xBF) ↔
      IsTail b ∧ (a.toNat = 0xE0 → 0xA0 ≤ b.toNat) ∧ (a.toNat = 0xED → b.toNat ≤ 0x9F) := by
  simp only [IsTail, UInt8.le_iff_toNat_le, ← UInt8.toNat_inj, UInt8.reduceToNat]
  split <;> split <;> simp only [UInt8.reduceToNat] <;> omega

private theorem second_of_four_iff {a b : UInt8} :
    ((if a = 0xF0 then 0x90 else 0x80) ≤ b ∧ b ≤ if a = 0xF4 then 0x8F else 0xBF) ↔
      IsTail b ∧ (a.toNat = 0xF0 → 0x90 ≤ b.toNat) ∧ (a.toNat = 0xF4 → b.toNat ≤ 0x8F) := by
  simp only [IsTail, UInt8.le_iff_toNat_le, ← UInt8.toNat_inj, UInt8.reduceToNat]
  split <;> split <;> simp only [UInt8.reduceToNat] <;> omega

private theorem next_fresh (found : List (Option Char)) (b : UInt8) :
    Reading.next (fresh found) b = .start found b := rfl

private theorem foldl_of_spells {bytes : Bytes} {c : Char} (h : Spells bytes c)
    (found : List (Option Char)) : bytes.foldl Reading.next (fresh found) = fresh (some c :: found) := by
  cases h with
  | one ha => simp only [List.foldl_cons, List.foldl_nil, next_fresh, start_one ha]
  | two ha ha' hb =>
    simp only [List.foldl_cons, List.foldl_nil, next_fresh, start_two ha ha',
      next_last (isTail_iff.1 hb)]
  | three ha ha' hb hlow hhigh hc =>
    simp only [List.foldl_cons, List.foldl_nil, next_fresh, start_three ha ha',
      next_inner (second_of_three_iff.2 ⟨hb, hlow, hhigh⟩), next_last (isTail_iff.1 hc)]
  | four ha ha' hb hlow hhigh hc hd =>
    simp only [List.foldl_cons, List.foldl_nil, next_fresh, start_four ha ha',
      next_inner (second_of_four_iff.2 ⟨hb, hlow, hhigh⟩), next_inner (isTail_iff.1 hc),
      next_last (isTail_iff.1 hd)]

private theorem foldl_encodeChars (cs : List Char) (found : List (Option Char)) :
    (encodeChars cs).foldl Reading.next (fresh found) = fresh ((cs.map some).reverse ++ found) := by
  induction cs generalizing found with
  | nil => rfl
  | cons c cs ih =>
    rw [encodeChars, List.flatMap_cons, List.foldl_append, foldl_of_spells (spells_utf8EncodeChar c)]
    simpa [encodeChars] using ih (some c :: found)

@[simp] theorem read_encodeChars (cs : List Char) : read (encodeChars cs) = cs.map some := by
  rw [read, show ({} : Reading) = fresh [] from rfl, foldl_encodeChars]
  simp [fresh, Reading.close]

/-! A reading that finds no invalid run has read nothing but forms of characters. -/

private theorem mem_found_start {x : Option Char} {found : List (Option Char)} {b : UInt8}
    (h : x ∈ found) : x ∈ (Reading.start found b).found := by
  grind [Reading.start]

private theorem mem_found_next {x : Option Char} {r : Reading} {b : UInt8} (h : x ∈ r.found) :
    x ∈ (r.next b).found := by
  unfold Reading.next
  split
  · exact mem_found_start h
  · split
    · dsimp only
      split <;> simp [h]
    · exact mem_found_start (List.mem_cons_of_mem _ h)

private theorem mem_close_foldl {x : Option Char} {bytes : Bytes} {r : Reading} (h : x ∈ r.found) :
    x ∈ (bytes.foldl Reading.next r).close := by
  induction bytes generalizing r with
  | nil =>
    by_cases ho : r.owed = 0 <;> simp [Reading.close, ho, h]
  | cons b bytes ih => exact ih (mem_found_next h)

/-- A character begun is continued, or an invalid run is found. -/
private theorem continued_or_invalid (owed : Nat) (low high : UInt8) (bits : Nat)
    (found : List (Option Char)) (bytes : Bytes) :
    none ∈ (bytes.foldl Reading.next ⟨owed + 1, low, high, bits, found⟩).close ∨
      ∃ b rest, bytes = b :: rest ∧ low ≤ b ∧ b ≤ high := by
  cases bytes with
  | nil => exact .inl (by simp [Reading.close])
  | cons b rest =>
    by_cases h : low ≤ b ∧ b ≤ high
    · exact .inr ⟨b, rest, rfl, h⟩
    · refine .inl ?_
      rw [List.foldl_cons, Reading.next]
      simp only [if_neg h]
      exact mem_close_foldl (mem_found_start List.mem_cons_self)

/-- Where a character may begin one does, or an invalid run is found. -/
private theorem spells_or_invalid (found : List (Option Char)) (a : UInt8) (bytes : Bytes) :
    none ∈ ((a :: bytes).foldl Reading.next (fresh found)).close ∨
      ∃ form c rest, a :: bytes = form ++ rest ∧ Spells form c := by
  rw [List.foldl_cons, next_fresh]
  by_cases h1 : a.toNat < 0x80
  · exact .inr ⟨[a], _, bytes, rfl, .one h1⟩
  by_cases h2 : a.toNat < 0xC2 ∨ 0xF5 ≤ a.toNat
  · rw [start_invalid (by omega)]
    exact .inl (mem_close_foldl List.mem_cons_self)
  by_cases h3 : a.toNat < 0xE0
  · rw [start_two (by omega) h3]
    refine (continued_or_invalid _ _ _ _ _ bytes).imp_right ?_
    rintro ⟨b, rest, rfl, hb⟩
    exact ⟨[a, b], _, rest, rfl, .two (by omega) h3 (isTail_iff.2 hb)⟩
  by_cases h4 : a.toNat < 0xF0
  · rw [start_three (by omega) h4]
    obtain h | ⟨b, rest, rfl, hb⟩ := continued_or_invalid _ _ _ _ _ bytes
    · exact .inl h
    rw [List.foldl_cons, next_inner hb]
    refine (continued_or_invalid _ _ _ _ _ rest).imp_right ?_
    rintro ⟨c, rest, rfl, hc⟩
    obtain ⟨hb, hlow, hhigh⟩ := second_of_three_iff.1 hb
    exact ⟨[a, b, c], _, rest, rfl, .three (by omega) h4 hb hlow hhigh (isTail_iff.2 hc)⟩
  · rw [start_four (by omega) (by omega)]
    obtain h | ⟨b, rest, rfl, hb⟩ := continued_or_invalid _ _ _ _ _ bytes
    · exact .inl h
    rw [List.foldl_cons, next_inner hb]
    obtain h | ⟨c, rest, rfl, hc⟩ := continued_or_invalid _ _ _ _ _ rest
    · exact .inl h
    rw [List.foldl_cons, next_inner hc]
    refine (continued_or_invalid _ _ _ _ _ rest).imp_right ?_
    rintro ⟨d, rest, rfl, hd⟩
    obtain ⟨hb, hlow, hhigh⟩ := second_of_four_iff.1 hb
    exact ⟨[a, b, c, d], _, rest, rfl,
      .four (by omega) (by omega) hb hlow hhigh (isTail_iff.2 hc) (isTail_iff.2 hd)⟩

private theorem exists_encodeChars_or_invalid (found : List (Option Char)) (bytes : Bytes) :
    none ∈ (bytes.foldl Reading.next (fresh found)).close ∨ ∃ cs, bytes = encodeChars cs := by
  induction h : bytes.length using Nat.strongRecOn generalizing bytes found with
  | ind n ih =>
    cases bytes with
    | nil => exact .inr ⟨[], rfl⟩
    | cons a bytes =>
      obtain hn | ⟨form, c, rest, he, hform⟩ := spells_or_invalid found a bytes
      · exact .inl hn
      have hne : form ≠ [] := by rintro rfl; cases hform
      have hlt : rest.length < n := by
        have := congrArg List.length he
        have := List.length_pos_iff.2 hne
        simp only [List.length_append] at *
        omega
      rw [he, List.foldl_append, foldl_of_spells hform]
      refine (ih _ hlt (some c :: found) rest rfl).imp_right ?_
      rintro ⟨cs, rfl⟩
      exact ⟨c :: cs, by rw [encodeChars, encodeChars, List.flatMap_cons, spells_iff.1 hform]⟩

/-- All of a list can be mapped exactly if each element can. -/
theorem mapM_eq_some_iff {α β : Type} {f : α → Option β} {xs : List α} {ys : List β} :
    xs.mapM f = some ys ↔ xs.map f = ys.map some := by
  induction xs generalizing ys with
  | nil => cases ys <;> simp
  | cons x xs ih =>
    cases ys with
    | nil => simp [Option.bind_eq_some_iff]
    | cons y ys => simp [Option.bind_eq_some_iff, ← ih]

/-- Bytes are valid exactly if they are what some text is written as. -/
theorem decode?_eq_some_iff {bytes : Bytes} {s : String} :
    decode? bytes = some s ↔ bytes = encode s := by
  rw [decode?, Option.map_eq_some_iff]
  constructor
  · rintro ⟨cs, hcs, rfl⟩
    rw [mapM_eq_some_iff, List.map_id] at hcs
    obtain hn | ⟨written, rfl⟩ := exists_encodeChars_or_invalid [] bytes
    · have hmem : none ∈ read bytes := hn
      simp [hcs] at hmem
    · rw [read_encodeChars] at hcs
      have he : written = cs := (List.map_inj_right fun _ _ => Option.some.inj).1 hcs
      rw [encode, String.toList_ofList, he]
  · rintro rfl
    exact ⟨s.toList, by simp [encode, mapM_eq_some_iff], String.ofList_toList⟩

@[simp] theorem decode?_encode (s : String) : decode? (encode s) = some s :=
  decode?_eq_some_iff.2 rfl

theorem encode_inj {s t : String} : encode s = encode t ↔ s = t := by
  rw [← decode?_eq_some_iff, decode?_encode, Option.some.injEq, eq_comm]

/-- Bytes are refused exactly if no text is written as them. -/
theorem decode?_eq_none_iff {bytes : Bytes} : decode? bytes = none ↔ ∀ s, bytes ≠ encode s := by
  rw [Option.eq_none_iff_forall_ne_some]
  exact forall_congr' fun s => not_congr decode?_eq_some_iff

/-- Some bytes are read as something. -/
theorem read_eq_nil_iff {bytes : Bytes} : read bytes = [] ↔ bytes = [] := by
  constructor
  · intro h
    refine decode?_eq_some_iff (s := String.ofList []).1 ?_
    rw [decode?, h]
    rfl
  · rintro rfl
    rfl

@[simp] theorem decodeLossy_encode (s : String) : decodeLossy (encode s) = s := by
  rw [decodeLossy, encode, read_encodeChars, List.map_map]
  simp [Function.comp_def]

@[simp] theorem encode_append (s t : String) : encode (s ++ t) = encode s ++ encode t := by
  simp [encode, encodeChars]

/-! A character of one byte is read from that byte and from no other. -/

/-- Whether the character begun, if there is one, will have a number that takes more than one byte. -/
private def Reading.IsWide (r : Reading) : Prop :=
  match r.owed with
  | 0 => True
  | 1 => 2 ≤ r.bits
  | 2 => r.high.toNat ≤ 0xBF ∧ (1 ≤ r.bits ∨ 0xA0 ≤ r.low.toNat)
  | 3 => r.high.toNat ≤ 0xBF ∧ (1 ≤ r.bits ∨ 0x90 ≤ r.low.toNat)
  | _ => False

private theorem isWide_start (found : List (Option Char)) (b : UInt8) : (Reading.start found b).IsWide := by
  by_cases h1 : b.toNat < 0x80
  · rw [start_one h1]
    exact trivial
  by_cases h2 : b.toNat < 0xC2 ∨ 0xF5 ≤ b.toNat
  · rw [start_invalid (by omega)]
    exact trivial
  by_cases h3 : b.toNat < 0xE0
  · rw [start_two (by omega) h3]
    change 2 ≤ b.toNat % 32
    omega
  by_cases h4 : b.toNat < 0xF0
  · rw [start_three (by omega) h4]
    simp only [Reading.IsWide, ← UInt8.toNat_inj, UInt8.reduceToNat]
    split <;> split <;> simp only [UInt8.reduceToNat] <;> omega
  · rw [start_four (by omega) (by omega)]
    simp only [Reading.IsWide, ← UInt8.toNat_inj, UInt8.reduceToNat]
    split <;> split <;> simp only [UInt8.reduceToNat] <;> omega

private theorem mem_start {c : Char} {found : List (Option Char)} {b : UInt8}
    (h : some c ∈ (Reading.start found b).found) : some c ∈ found ∨ b.toNat = c.toNat := by
  by_cases hone : b.toNat < 0x80
  · rw [start_one hone] at h
    refine (List.mem_cons.1 h).symm.imp_right fun heq => ?_
    rw [Option.some.inj heq]
    exact (val_ofNat (.inl (by omega))).symm
  · have hmore : ¬ b < 0x80 := hone
    grind [Reading.start]

private theorem isWide_next {r : Reading} (h : r.IsWide) (b : UInt8) : (r.next b).IsWide := by
  obtain ⟨owed, low, high, bits, found⟩ := r
  unfold Reading.next
  match owed with
  | 0 => exact isWide_start found b
  | owed + 1 =>
    dsimp only
    split
    · rename_i hb
      rw [UInt8.le_iff_toNat_le, UInt8.le_iff_toNat_le] at hb
      match owed with
      | 0 => exact trivial
      | 1 =>
        obtain ⟨hhigh, hwide⟩ : high.toNat ≤ 0xBF ∧ (1 ≤ bits ∨ 0xA0 ≤ low.toNat) := h
        change 2 ≤ bits * 64 + b.toNat % 64
        omega
      | 2 =>
        obtain ⟨hhigh, hwide⟩ : high.toNat ≤ 0xBF ∧ (1 ≤ bits ∨ 0x90 ≤ low.toNat) := h
        change (0xBF : UInt8).toNat ≤ 0xBF ∧ (1 ≤ bits * 64 + b.toNat % 64 ∨ 0xA0 ≤ (0x80 : UInt8).toNat)
        exact ⟨by decide, .inl (by omega)⟩
      | _ + 3 => exact h.elim
    · exact isWide_start _ b

private theorem toNat_ofNat_wide {n : Nat} (h : 0x80 ≤ n) : (Char.ofNat n).toNat = 0 ∨ 0x80 ≤ (Char.ofNat n).toNat := by
  by_cases hvalid : n.isValidChar
  · refine .inr ?_
    change 0x80 ≤ (Char.ofNat n).val.toNat
    rwa [val_ofNat hvalid]
  · rw [Char.ofNat, dif_neg hvalid]
    exact .inl rfl

private theorem mem_next {c : Char} (hc : 0 < c.toNat ∧ c.toNat < 0x80) {r : Reading} (hr : r.IsWide) {b : UInt8}
    (h : some c ∈ (r.next b).found) : some c ∈ r.found ∨ b.toNat = c.toNat := by
  obtain ⟨owed, low, high, bits, found⟩ := r
  unfold Reading.next at h
  match owed with
  | 0 => exact mem_start h
  | owed + 1 =>
    dsimp only at h
    split at h
    · match owed with
      | 0 =>
        have hwide : 2 ≤ bits := hr
        have hform := toNat_ofNat_wide (n := bits * 64 + b.toNat % 64) (by omega)
        rcases List.mem_cons.1 h with heq | h
        · rw [← Option.some.inj heq] at hform
          omega
        · exact .inl h
      | _ + 1 => exact .inl h
    · rcases mem_start h with h | h
      · exact .inl (List.mem_of_ne_of_mem (by simp) h)
      · exact .inr h

private theorem mem_foldl_next {c : Char} (hc : 0 < c.toNat ∧ c.toNat < 0x80) {bytes : Bytes} {r : Reading}
    (hr : r.IsWide) (h : some c ∈ (bytes.foldl Reading.next r).found) :
    some c ∈ r.found ∨ ∃ b ∈ bytes, b.toNat = c.toNat := by
  induction bytes generalizing r with
  | nil => exact .inl h
  | cons b bytes ih =>
    rcases ih (isWide_next hr b) h with h | ⟨other, hother, heq⟩
    · exact (mem_next hc hr h).imp_right fun heq => ⟨b, List.mem_cons_self, heq⟩
    · exact .inr ⟨other, List.mem_cons_of_mem b hother, heq⟩

/-- A character of one byte, other than the first, stands in what is read only where its byte stood. -/
theorem mem_of_mem_decodeLossy {c : Char} (hc : 0 < c.toNat ∧ c.toNat < 0x80) {bytes : Bytes}
    (h : c ∈ (decodeLossy bytes).toList) : ∃ b ∈ bytes, b.toNat = c.toNat := by
  rw [decodeLossy, String.toList_ofList, List.mem_map] at h
  obtain ⟨x, hx, heq⟩ := h
  cases x with
  | none =>
    rw [← heq] at hc
    exact absurd hc (by decide)
  | some d =>
    obtain rfl : d = c := heq
    have hfound : some d ∈ (bytes.foldl Reading.next {}).found := by
      unfold read Reading.close at hx
      split at hx
      · exact List.mem_reverse.1 hx
      · exact List.mem_of_ne_of_mem (by simp) (List.mem_reverse.1 hx)
    have hstart : ({} : Reading).IsWide := trivial
    exact (mem_foldl_next hc hstart hfound).resolve_left List.not_mem_nil

end SourceSnapshot.Utf8
