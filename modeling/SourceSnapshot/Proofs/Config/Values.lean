import SourceSnapshot.Proofs.Config.Fields
import SourceSnapshot.Proofs.Json.Recognition

/-! The values of fields as they are read. What was read is a value that the grammar allows, of the field's type, and
every such value is read for what it says. -/
namespace SourceSnapshot.Config
open Json
variable {s rest text : List Char}

theorem map_eq_ok_iff {α β : Type} {read : Except Fault α} {f : α → β} {y : β} :
    read.map f = .ok y ↔ ∃ x, read = .ok x ∧ f x = y := by
  cases read with
  | error fault => simp [Except.map]
  | ok x => simp [Except.map]

section Names

theorem readText_eq_ok_iff {x : String} : readText s = .ok (x, rest) ↔ ∃ text, Quoted x text ∧ s = text ++ rest := by
  constructor
  · intro h
    unfold readText at h
    split at h
    · obtain ⟨body, hspelled, rfl⟩ := stringBody_eq_ok_iff.1 h
      exact ⟨'"' :: (body ++ ['"']), ⟨body, hspelled, rfl⟩, by simp⟩
    · cases h
  · rintro ⟨_, ⟨body, hspelled, rfl⟩, rfl⟩
    rw [List.cons_append, List.append_assoc, List.singleton_append]
    exact stringBody_eq_ok_iff.2 ⟨body, hspelled, rfl⟩

theorem readText_written {name : String} (h : Written (.text name) text) (rest : List Char) :
    readText (text ++ rest) = .ok (name, rest) := by
  cases h with
  | text hquoted => exact readText_eq_ok_iff.2 ⟨text, hquoted, rfl⟩

/-- Other strings follow, each behind a comma, up to the end of the list. -/
theorem readMoreNames_eq_ok_iff {before names : List String} : readMoreNames before s = .ok (names, rest) ↔
    ∃ more text, Items Written ']' false (more.map .text) text ∧ s = text ++ rest ∧ names = before.reverse ++ more := by
  constructor
  · intro h
    fun_induction readMoreNames before s with
    | case1 => cases h
    | case2 before s more hs =>
      obtain ⟨rfl, rfl⟩ := Prod.mk.inj (Except.ok.inj h)
      obtain ⟨blanks, hblanks, rfl⟩ := exists_of_skipBlank hs
      exact ⟨[], _, .close hblanks, by simp, by simp⟩
    | case3 => cases h
    | case4 => cases h
    | case5 => cases h
    | case6 before s afterComma hs c more _ hmore name rest' hname ih =>
      obtain ⟨names', after, hafter, rfl, rfl⟩ := ih h
      obtain ⟨blanks, hblanks, rfl⟩ := exists_of_skipBlank hs
      obtain ⟨blanks', hblanks', rfl⟩ := exists_of_skipBlank hmore
      obtain ⟨text, hquoted, htext⟩ := readText_eq_ok_iff.1 hname
      refine ⟨name :: names', _, .item ⟨_, _, hblanks, hblanks', rfl⟩ (.text hquoted) hafter, ?_, by simp⟩
      rw [htext]
      simp
    | case7 => cases h
  · rintro ⟨more, text, htext, rfl, rfl⟩
    induction more generalizing before text with
    | nil =>
      cases htext with
      | close hblanks =>
        rw [List.append_nil, List.append_assoc]
        exact readMoreNames_of_end (skipBlank_append hblanks _)
    | cons name more ih =>
      cases htext with
      | @item _ _ _ _ text after hlead hname hafter =>
        obtain ⟨before', blanks, hbefore, hblanks, rfl⟩ := hlead
        obtain ⟨c, tail, rfl, -, -, hclose⟩ := exists_of_written hname
        have hcomma : skipBlank (before' ++ ',' :: blanks ++ (c :: tail ++ after) ++ rest) =
            ',' :: (blanks ++ (c :: tail ++ (after ++ rest))) := by
          simp only [List.append_assoc, List.cons_append]
          exact skipBlank_append hbefore _
        rw [readMoreNames_of_comma hcomma (skipBlank_written hname hblanks _) hclose (readText_written hname _),
          ih after hafter, List.reverse_cons, List.append_assoc, List.singleton_append]

theorem readNames_eq_ok_iff {set : NameSet} : readNames s = .ok (set, rest) ↔
    ∃ names text, Written (.list (names.map .text)) text ∧ s = text ++ rest ∧ set = .ofList names := by
  constructor
  · intro h
    unfold readNames at h
    split at h
    · split at h
      · cases h
      · rename_i hs
        obtain ⟨rfl, rfl⟩ := Prod.mk.inj (Except.ok.inj h)
        obtain ⟨blanks, hblanks, rfl⟩ := exists_of_skipBlank hs
        exact ⟨[], _, .list (.close hblanks), by simp, rfl⟩
      · split at h
        · cases h
        · rename_i name _ hname
          obtain ⟨⟨_, _⟩, hmore, hset⟩ := map_eq_ok_iff.1 h
          obtain ⟨rfl, rfl⟩ := Prod.mk.inj hset
          obtain ⟨names, after, hafter, rfl, rfl⟩ := readMoreNames_eq_ok_iff.1 hmore
          obtain ⟨text, hquoted, htext⟩ := readText_eq_ok_iff.1 hname
          obtain ⟨blanks, hblanks, rfl⟩ := exists_of_skipBlank htext
          exact ⟨name :: names, _, .list (.item hblanks (.text hquoted) hafter), by simp, rfl⟩
    · cases h
  · rintro ⟨names, text, htext, rfl, rfl⟩
    cases htext with
    | list hitems =>
      cases names with
      | nil =>
        cases hitems with
        | close hblanks =>
          rw [List.cons_append, List.append_assoc, readNames, skipBlank_append hblanks]
          rfl
      | cons name names =>
        cases hitems with
        | @item _ _ _ blanks text after hblanks hname hafter =>
          obtain ⟨c, tail, rfl, -, -, hclose⟩ := exists_of_written hname
          have hmore : readMoreNames [name] (after ++ rest) = .ok (name :: names, rest) :=
            readMoreNames_eq_ok_iff.2 ⟨names, after, hafter, rfl, rfl⟩
          rw [List.cons_append, List.append_assoc, List.append_assoc,
            readNames_of_text (skipBlank_written hname hblanks _) hclose (readText_written hname _), hmore]
          rfl

end Names

section Scalars

/-- A number that is read for a word is a count within its bound. -/
theorem exists_of_readWord {n : UInt64} (h : readWord s = .ok (n, rest)) :
    ∃ literal, Counts literal n.toNat ∧ s = literal ++ rest := by
  have hcount {positive : Bool} {s : List Char} {m : Nat} (hread : number positive s = .ok (.natural m, rest))
      (hn : n = UInt64.ofNat m) : positive = true ∧ ∃ literal, Counts literal n.toNat ∧ s = literal ++ rest := by
    obtain ⟨hpositive, hbound, literal, hcounts, hs⟩ := exists_of_number hread
    refine ⟨hpositive, literal, ?_, hs⟩
    rwa [hn, toNat_ofNat_of_le_maxWord hbound]
  unfold readWord at h
  simp only at h
  split at h
  · split at h
    · cases h
    · rename_i m _ hread
      obtain ⟨hn, rfl⟩ := Prod.mk.inj (Except.ok.inj h)
      cases (hcount hread hn.symm).1
    · cases h
    · cases h
  · split at h
    · split at h
      · cases h
      · rename_i hread
        obtain ⟨hn, rfl⟩ := Prod.mk.inj (Except.ok.inj h)
        exact (hcount hread hn.symm).2
      · cases h
      · cases h
    · cases h
  · cases h

theorem readWord_append {literal : List Char} {n : UInt64} (hcounts : Counts literal n.toNat) (hrest : Follows rest) :
    readWord (literal ++ rest) = .ok (n, rest) := by
  have hnumber := number_append hcounts (toNat_le_maxWord n) hrest
  obtain ⟨c, more, rfl, hdigit⟩ := exists_cons_of_counts hcounts
  rw [List.cons_append] at hnumber ⊢
  rw [readWord, if_pos hdigit, hnumber]
  · simp
  · rintro rfl
    cases hdigit

theorem exists_of_readLimit {limit : Option UInt64} (h : readLimit s = .ok (limit, rest)) :
    ∃ value text, Written value text ∧ s = text ++ rest ∧
      (value = .null ∧ limit = none ∨
        ∃ literal n, value = .number literal ∧ Counts literal n.toNat ∧ limit = some n) := by
  unfold readLimit at h
  split at h
  · obtain ⟨_, hword, hlimit⟩ := map_eq_ok_iff.1 h
    obtain ⟨rfl, rfl⟩ := Prod.mk.inj hlimit
    rw [expectWord_eq_ok_iff.1 hword]
    exact ⟨.null, _, .null, rfl, .inl ⟨rfl, rfl⟩⟩
  · obtain ⟨⟨n, _⟩, hword, hlimit⟩ := map_eq_ok_iff.1 h
    obtain ⟨rfl, rfl⟩ := Prod.mk.inj hlimit
    obtain ⟨literal, hcounts, rfl⟩ := exists_of_readWord hword
    exact ⟨.number literal, literal, .number (isNumber_of_counts hcounts), rfl, .inr ⟨literal, n, rfl, hcounts, rfl⟩⟩

theorem readFlag_eq_ok_iff {b : Bool} :
    readFlag s = .ok (b, rest) ↔ ∃ text, Written (.flag b) text ∧ s = text ++ rest := by
  constructor
  · intro h
    unfold readFlag at h
    split at h
    · obtain ⟨_, hword, hflag⟩ := map_eq_ok_iff.1 h
      obtain ⟨rfl, rfl⟩ := Prod.mk.inj hflag
      rw [expectWord_eq_ok_iff.1 hword]
      exact ⟨_, .yes, rfl⟩
    · obtain ⟨_, hword, hflag⟩ := map_eq_ok_iff.1 h
      obtain ⟨rfl, rfl⟩ := Prod.mk.inj hflag
      rw [expectWord_eq_ok_iff.1 hword]
      exact ⟨_, .no, rfl⟩
    · cases h
  · rintro ⟨text, htext, rfl⟩
    cases htext with
    | yes => rfl
    | no => rfl

end Scalars

/-- The value of a field is read as the configuration that has it, and the rest as it was. -/
theorem exists_of_readValue {c c' : Config} {field : Field} (h : readValue c field s = .ok (c', rest)) :
    ∃ value text, Written value text ∧ s = text ++ rest ∧ c'.Has id field value ∧ c'.withFieldOf c field = c' := by
  have hnames {set : NameSet} (h : readNames s = .ok (set, rest)) :
      ∃ value text, Written value text ∧ s = text ++ rest ∧ IsSetOf id value set := by
    obtain ⟨names, text, hwritten, hs, rfl⟩ := readNames_eq_ok_iff.1 h
    exact ⟨_, text, hwritten, hs, names, rfl, fun x => by simp⟩
  cases field with
  | excludedDirs | excludedFiles | includedExtensions =>
    obtain ⟨⟨set, _⟩, hread, hc⟩ := map_eq_ok_iff.1 h
    obtain ⟨rfl, rfl⟩ := Prod.mk.inj hc
    obtain ⟨value, text, hwritten, hs, hset⟩ := hnames hread
    exact ⟨value, text, hwritten, hs, hset, rfl⟩
  | structureDepth =>
    obtain ⟨⟨n, _⟩, hread, hc⟩ := map_eq_ok_iff.1 h
    obtain ⟨rfl, rfl⟩ := Prod.mk.inj hc
    obtain ⟨literal, hcounts, hs⟩ := exists_of_readWord hread
    exact ⟨_, literal, .number (isNumber_of_counts hcounts), hs, ⟨literal, rfl, hcounts⟩, rfl⟩
  | maxDepth =>
    obtain ⟨⟨limit, _⟩, hread, hc⟩ := map_eq_ok_iff.1 h
    obtain ⟨rfl, rfl⟩ := Prod.mk.inj hc
    obtain ⟨value, text, hwritten, hs, hvalue⟩ := exists_of_readLimit hread
    exact ⟨value, text, hwritten, hs, hvalue, rfl⟩
  | respectGitignore =>
    obtain ⟨⟨b, _⟩, hread, hc⟩ := map_eq_ok_iff.1 h
    obtain ⟨rfl, rfl⟩ := Prod.mk.inj hc
    obtain ⟨text, hwritten, hs⟩ := readFlag_eq_ok_iff.1 hread
    exact ⟨_, text, hwritten, hs, rfl, rfl⟩

/-- Every value of a field's type is read, as what it says. -/
theorem readValue_append {c d : Config} {field : Field} {value : Value} (hwritten : Written value text)
    (hhas : d.Has id field value) (hrest : Follows rest) :
    readValue c field (text ++ rest) = .ok (d.withFieldOf c field, rest) := by
  have hnames {set : NameSet} (hset : IsSetOf id value set) : readNames (text ++ rest) = .ok (set, rest) := by
    obtain ⟨names, rfl, hmem⟩ := hset
    refine readNames_eq_ok_iff.2 ⟨names, text, hwritten, rfl, NameSet.ext_mem fun x => ?_⟩
    rw [hmem, NameSet.mem_ofList]
    simp
  have hword {literal : List Char} {n : UInt64} (hvalue : value = .number literal) (hcounts : Counts literal n.toNat) :
      readWord (text ++ rest) = .ok (n, rest) := by
    subst hvalue
    cases hwritten with
    | number => exact readWord_append hcounts hrest
  cases field with
  | excludedDirs | excludedFiles | includedExtensions =>
    rw [readValue, hnames hhas]
    rfl
  | structureDepth =>
    obtain ⟨literal, hvalue, hcounts⟩ := hhas
    rw [readValue, hword hvalue hcounts]
    rfl
  | maxDepth =>
    have hlimit : readLimit (text ++ rest) = .ok (d.maxDepth, rest) := by
      rcases hhas with ⟨rfl, hnone⟩ | ⟨literal, n, hvalue, hcounts, hsome⟩
      · cases hwritten with
        | null =>
          rw [hnone]
          rfl
      · have hread := hword hvalue hcounts
        subst hvalue
        cases hwritten with
        | number =>
          obtain ⟨c, more, rfl, hdigit⟩ := exists_cons_of_counts hcounts
          rw [List.cons_append] at hread ⊢
          rw [readLimit, hread, hsome]
          · rfl
          · intro _ hc
            obtain ⟨rfl, -⟩ := List.cons.inj hc
            cases hdigit
    rw [readValue, hlimit]
    rfl
  | respectGitignore =>
    obtain rfl : value = .flag d.respectGitignore := hhas
    rw [readValue, readFlag_eq_ok_iff.2 ⟨text, hwritten, rfl⟩]
    rfl

end SourceSnapshot.Config
