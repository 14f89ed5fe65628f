import SourceSnapshot.Proofs.Config.Values
import SourceSnapshot.Proofs.Json.Unambiguous

/-! Which texts are read as a configuration, and as which one. One step of the reader takes one field from an array or
an object; so by induction it takes all that are given, and comes to the configuration that is filled with them. -/
namespace SourceSnapshot.Config
open Json
variable {s rest : List Char} {c c' d : Config} {field : Field} {value : Value} {given : List (Field × Value)}

section Array

theorem readListEnd_eq_ok_iff : readListEnd s = .ok rest ↔ ∃ blanks, Blanks blanks ∧ s = blanks ++ ']' :: rest := by
  constructor
  · intro h
    unfold readListEnd at h
    split at h
    · cases h
    · rename_i hs
      obtain rfl := Except.ok.inj h
      exact exists_of_skipBlank hs
    · split at h <;> cases h
    · cases h
  · rintro ⟨blanks, hblanks, rfl⟩
    rw [readListEnd, skipBlank_append hblanks]
    rfl

theorem readInOrder_end {first : Bool} {fields : List Field} {blanks : List Char} (hblanks : Blanks blanks)
    (rest : List Char) : readInOrder first c (field :: fields) (blanks ++ ']' :: rest) = .ok (c, rest) := by
  rw [readInOrder, skipBlank_append hblanks]
  rfl

/-- Behind what stands in front of it a value is read, and then what comes after it. -/
theorem readInOrder_item {first : Bool} {fields : List Field} {lead text next : List Char} (hlead : Lead first lead)
    (hwritten : Written value text) (hvalue : readValue c field (text ++ next) = .ok (d, next)) :
    readInOrder first c (field :: fields) (lead ++ (text ++ next)) = readInOrder false d fields next := by
  obtain ⟨x, more, rfl, -, hcomma, hclose⟩ := exists_of_written hwritten
  rw [List.cons_append] at hvalue
  rw [readInOrder]
  cases first with
  | true =>
    rw [skipBlank_written hwritten hlead, List.cons_append]
    split
    · rename_i h
      cases h
    · rename_i h
      exact absurd (List.cons.inj h).1 hclose
    · rename_i h
      exact absurd (List.cons.inj h).1 hcomma
    · simp only [if_pos, hvalue]
  | false =>
    obtain ⟨before, after, hbefore, hafter, rfl⟩ := hlead
    have hskip : skipBlank (after ++ x :: (more ++ next)) = x :: (more ++ next) :=
      skipBlank_written hwritten hafter next
    rw [List.append_assoc, List.cons_append, skipBlank_append hbefore, skipBlank_of_not (by decide)]
    simp only [List.cons_append, if_neg Bool.false_ne_true, hskip]
    split
    · rename_i h
      exact absurd (List.cons.inj h).1 hclose
    · rename_i h
      cases h
    · simp only [hvalue]

/-- What is read next of an array: its end, or one value more. -/
theorem readInOrder_cases {first : Bool} {fields : List Field}
    (h : readInOrder first c (field :: fields) s = .ok (c', rest)) :
    (∃ blanks, Blanks blanks ∧ s = blanks ++ ']' :: rest ∧ c' = c) ∨
    ∃ lead tail d next, Lead first lead ∧ s = lead ++ tail ∧ readValue c field tail = .ok (d, next) ∧
      readInOrder false d fields next = .ok (c', rest) := by
  rw [readInOrder] at h
  simp only at h
  split at h
  · cases h
  · rename_i hs
    obtain ⟨rfl, rfl⟩ := Prod.mk.inj (Except.ok.inj h)
    obtain ⟨blanks, hblanks, rfl⟩ := exists_of_skipBlank hs
    exact .inl ⟨blanks, hblanks, rfl, rfl⟩
  · rename_i afterComma hs
    obtain ⟨blanks, hblanks, rfl⟩ := exists_of_skipBlank hs
    right
    cases first with
    | true =>
      rw [if_pos rfl] at h
      split at h
      · cases h
      · rename_i hvalue
        exact ⟨blanks, _, _, _, hblanks, rfl, hvalue, h⟩
    | false =>
      rw [if_neg Bool.false_ne_true] at h
      split at h
      · cases h
      · cases h
      · split at h
        · cases h
        · rename_i hvalue
          obtain ⟨blanks', hblanks', htail⟩ := exists_of_skipBlank (Eq.refl (skipBlank afterComma))
          refine ⟨_, _, _, _, ⟨blanks, blanks', hblanks, hblanks', rfl⟩, ?_, hvalue, h⟩
          rw [List.append_assoc, List.cons_append, ← htail]
  · obtain ⟨blanks, hblanks, hs⟩ := exists_of_skipBlank (Eq.refl (skipBlank s))
    cases first with
    | true =>
      rw [if_pos rfl] at h
      split at h
      · cases h
      · rename_i hvalue
        exact .inr ⟨blanks, _, _, _, hblanks, hs, hvalue, h⟩
    | false => cases h

theorem readInOrder_eq_ok_iff {first : Bool} {fields : List Field} (hnodup : fields.Nodup) :
    readInOrder first c fields s = .ok (c', rest) ↔ ∃ given text, Items Written ']' first (given.map Prod.snd) text ∧
      s = text ++ rest ∧ given.map Prod.fst <+: fields ∧ Filled id c given c' := by
  induction fields generalizing first c s with
  | nil =>
    rw [readInOrder, map_eq_ok_iff]
    constructor
    · rintro ⟨_, hend, hc⟩
      obtain ⟨rfl, rfl⟩ := Prod.mk.inj hc
      obtain ⟨blanks, hblanks, rfl⟩ := readListEnd_eq_ok_iff.1 hend
      exact ⟨[], _, .close hblanks, by simp, List.nil_prefix, filled_nil.2 rfl⟩
    · rintro ⟨given, text, hitems, rfl, hfields, hfilled⟩
      obtain rfl := List.map_eq_nil_iff.1 (List.prefix_nil.1 hfields)
      obtain rfl := filled_nil.1 hfilled
      cases hitems with
      | close hblanks => exact ⟨rest, readListEnd_eq_ok_iff.2 ⟨_, hblanks, by simp⟩, rfl⟩
  | cons field fields ih =>
    obtain ⟨hfield, hlater⟩ := List.nodup_cons.1 hnodup
    constructor
    · intro h
      rcases readInOrder_cases h with ⟨blanks, hblanks, rfl, rfl⟩ | ⟨lead, tail, d, next, hlead, rfl, hvalue, hnext⟩
      · exact ⟨[], _, .close hblanks, by simp, List.nil_prefix, filled_nil.2 rfl⟩
      · obtain ⟨given, after, hafter, rfl, hfields, hfilled⟩ := (ih hlater).1 hnext
        obtain ⟨value, text, hwritten, rfl, hhas, hkept⟩ := exists_of_readValue hvalue
        have hnew : field ∉ given.map Prod.fst := fun hmem => hfield (hfields.subset hmem)
        refine ⟨(field, value) :: given, _, .item hlead hwritten hafter, by simp, ?_, ?_⟩
        · exact (List.prefix_cons_inj field).2 hfields
        · refine (filled_cons hnew).2 ⟨d, hhas, ?_⟩
          rwa [hkept]
    · rintro ⟨given, text, hitems, rfl, hfields, hfilled⟩
      cases given with
      | nil =>
        obtain rfl := filled_nil.1 hfilled
        cases hitems with
        | close hblanks =>
          rw [List.append_assoc]
          exact readInOrder_end hblanks rest
      | cons p given =>
        obtain ⟨field', value⟩ := p
        obtain ⟨rfl, hmore⟩ := List.cons_prefix_cons.1 hfields
        have hnew : field' ∉ given.map Prod.fst := fun hmem => hfield (hmore.subset hmem)
        obtain ⟨d, hhas, hfilled⟩ := (filled_cons hnew).1 hfilled
        cases hitems with
        | item hlead hwritten hafter =>
          have hvalue := readValue_append (c := c) hwritten hhas (hafter.ends (.inl rfl) rest).follows
          rw [List.append_assoc, List.append_assoc, readInOrder_item hlead hwritten hvalue]
          exact (ih hlater).2 ⟨given, _, hafter, rfl, hmore, hfilled⟩

end Array

section Object
variable {member after : List Char} {unread : List Field}

theorem Field.key_of_ofKey? {key : String} (h : Field.ofKey? key = some field) : field.key = key := by
  unfold Field.ofKey? at h
  have hkey := List.find?_some h
  exact eq_of_beq hkey

theorem readKey_eq_ok_iff :
    readKey s = .ok (field, rest) ↔ ∃ body, Spelled field.key.toList body ∧ s = body ++ '"' :: rest := by
  constructor
  · intro h
    unfold readKey at h
    split at h
    · cases h
    · rename_i hstring
      split at h
      · rename_i hkey
        obtain ⟨rfl, rfl⟩ := Prod.mk.inj (Except.ok.inj h)
        rw [Field.key_of_ofKey? hkey]
        exact stringBody_eq_ok_iff.1 hstring
      · cases h
  · intro h
    rw [readKey, stringBody_eq_ok_iff.2 h]
    simp only [Field.ofKey?_key]

theorem exists_of_readColon (h : readColon s = .ok rest) :
    ∃ before after, Blanks before ∧ Blanks after ∧ s = before ++ ':' :: (after ++ rest) := by
  unfold readColon at h
  split at h
  · cases h
  · rename_i hs
    obtain ⟨before, hbefore, rfl⟩ := exists_of_skipBlank hs
    obtain ⟨after, hafter, hrest⟩ := exists_of_skipBlank (Except.ok.inj h)
    exact ⟨before, after, hbefore, hafter, by rw [hrest]⟩
  · cases h

theorem readColon_append {before after : List Char} (hbefore : Blanks before) (hafter : Blanks after)
    (hwritten : Written value text) (rest : List Char) :
    readColon (before ++ ':' :: (after ++ (text ++ rest))) = .ok (text ++ rest) := by
  rw [readColon, skipBlank_append hbefore, skipBlank_of_not (by decide)]
  simp only [skipBlank_written hwritten hafter]

/-- A member of an object is read, after its opening quote, as a key and a value. -/
theorem exists_of_readMember {next : List Char} (hkey : readKey s = .ok (field, next))
    (hvalue : (readColon next).bind (readValue c field) = .ok (d, rest)) :
    ∃ value member, WrittenMember (field.key, value) member ∧ '"' :: s = member ++ rest ∧
      d.Has id field value ∧ d.withFieldOf c field = d := by
  obtain ⟨body, hspelled, rfl⟩ := readKey_eq_ok_iff.1 hkey
  cases hcolon : readColon next with
  | error fault =>
    rw [hcolon] at hvalue
    cases hvalue
  | ok tail =>
    rw [hcolon] at hvalue
    obtain ⟨before, after, hbefore, hafter, rfl⟩ := exists_of_readColon hcolon
    obtain ⟨value, text, hwritten, rfl, hhas, hkept⟩ := exists_of_readValue hvalue
    exact ⟨value, _, .member ⟨body, hspelled, rfl⟩ hbefore hafter hwritten, by simp, hhas, hkept⟩

theorem exists_readMember (c : Config) (hmember : WrittenMember (field.key, value) member) (hhas : d.Has id field value)
    (hrest : Follows rest) (hs : '"' :: s = member ++ rest) : ∃ next, readKey s = .ok (field, next) ∧
      (readColon next).bind (readValue c field) = .ok (d.withFieldOf c field, rest) := by
  cases hmember with
  | @member _ _ name before after text hname hbefore hafter hwritten =>
    obtain ⟨body, hspelled, rfl⟩ := hname
    simp only [List.cons_append, List.append_assoc, List.cons.injEq, true_and, List.nil_append] at hs
    refine ⟨_, readKey_eq_ok_iff.2 ⟨body, hspelled, hs⟩, ?_⟩
    rw [readColon_append hbefore hafter hwritten]
    exact readValue_append hwritten hhas hrest

theorem readSeparator_end_iff :
    readSeparator s = .ok (false, rest) ↔ ∃ blanks, Blanks blanks ∧ s = blanks ++ '}' :: rest := by
  constructor
  · intro h
    unfold readSeparator at h
    split at h
    · cases h
    · rename_i hs
      obtain ⟨-, rfl⟩ := Prod.mk.inj (Except.ok.inj h)
      exact exists_of_skipBlank hs
    · split at h <;> cases h
    · cases h
  · rintro ⟨blanks, hblanks, rfl⟩
    rw [readSeparator, skipBlank_append hblanks]
    rfl

theorem readSeparator_more_iff :
    readSeparator s = .ok (true, rest) ↔ ∃ lead, Lead false lead ∧ s = lead ++ '"' :: rest := by
  constructor
  · intro h
    unfold readSeparator at h
    split at h
    · cases h
    · cases h
    · rename_i hs
      obtain ⟨before, hbefore, rfl⟩ := exists_of_skipBlank hs
      split at h
      · rename_i hs
        obtain ⟨-, rfl⟩ := Prod.mk.inj (Except.ok.inj h)
        obtain ⟨after, hafter, rfl⟩ := exists_of_skipBlank hs
        exact ⟨_, ⟨before, after, hbefore, hafter, rfl⟩, by simp⟩
      · cases h
      · cases h
      · cases h
    · cases h
  · rintro ⟨_, ⟨before, after, hbefore, hafter, rfl⟩, rfl⟩
    have hskip : skipBlank (after ++ '"' :: rest) = '"' :: rest := by
      rw [skipBlank_append hafter, skipBlank_of_not (by decide)]
    rw [List.append_assoc, List.cons_append, readSeparator, skipBlank_append hbefore, skipBlank_of_not (by decide)]
    simp only [hskip]

theorem exists_of_readFields (h : readFields unread c s = .ok (c', rest)) (hunread : unread.Nodup) :
    ∃ field value given member after, WrittenMember (field.key, value) member ∧
      Items WrittenMember '}' false (members given) after ∧ '"' :: s = member ++ (after ++ rest) ∧
      (field :: given.map Prod.fst).Nodup ∧ (∀ f ∈ field :: given.map Prod.fst, f ∈ unread) ∧
      Filled id c ((field, value) :: given) c' := by
  fun_induction readFields unread c s with
  | case1 => cases h
  | case2 => cases h
  | case3 => cases h
  | case4 unread c s field next hkey hfield d rest' hvalue more hsep =>
    obtain ⟨rfl, rfl⟩ := Prod.mk.inj (Except.ok.inj h)
    obtain ⟨value, member, hmember, hs, hhas, hkept⟩ := exists_of_readMember hkey hvalue
    obtain ⟨blanks, hblanks, rfl⟩ := readSeparator_end_iff.1 hsep
    refine ⟨field, value, [], member, _, hmember, .close hblanks, by simpa using hs, by simp, by simpa using hfield, ?_⟩
    exact (filled_cons List.not_mem_nil).2 ⟨d, hhas, filled_nil.2 hkept.symm⟩
  | case5 unread c s field next hkey hfield d rest' hvalue more hsep ih =>
    obtain ⟨value, member, hmember, hs, hhas, hkept⟩ := exists_of_readMember hkey hvalue
    obtain ⟨lead, hlead, rfl⟩ := readSeparator_more_iff.1 hsep
    obtain ⟨field', value', given, member', after, hmember', hafter, hmore, hnodup, hleft, hfilled⟩ :=
      ih h (hunread.erase field)
    have hnew : field ∉ field' :: given.map Prod.fst := fun hmem => hunread.not_mem_erase (hleft field hmem)
    refine ⟨field, value, (field', value') :: given, member, _, hmember, .item hlead hmember' hafter, ?_,
      List.nodup_cons.2 ⟨hnew, hnodup⟩, List.forall_mem_cons.2 ⟨hfield, fun f hf => List.mem_of_mem_erase (hleft f hf)⟩,
      ?_⟩
    · rw [hs, hmore]
      simp
    · refine (filled_cons hnew).2 ⟨d, hhas, ?_⟩
      rwa [hkept]
  | case6 => cases h

theorem exists_of_writtenMember {m : String × Value} (h : WrittenMember m member) : ∃ more, member = '"' :: more := by
  cases h with
  | member hname =>
    obtain ⟨body, -, rfl⟩ := hname
    exact ⟨_, rfl⟩

theorem readFields_append (hmember : WrittenMember (field.key, value) member)
    (hafter : Items WrittenMember '}' false (members given) after) (hs : '"' :: s = member ++ (after ++ rest))
    (hnodup : (field :: given.map Prod.fst).Nodup) (hunread : ∀ f ∈ field :: given.map Prod.fst, f ∈ unread)
    (hfilled : Filled id c ((field, value) :: given) c') : readFields unread c s = .ok (c', rest) := by
  -- the fields still to come are among those not read yet, which lose one field at each step
  induction given generalizing unread field value member after s c with
  | nil =>
    obtain ⟨d, hhas, hrest⟩ := (filled_cons List.not_mem_nil).1 hfilled
    obtain ⟨next, hkey, hvalue⟩ := exists_readMember c hmember hhas (hafter.ends (.inr rfl) rest).follows hs
    cases hafter with
    | @close _ blanks hblanks =>
      have hsep : readSeparator (blanks ++ ['}'] ++ rest) = .ok (false, rest) :=
        readSeparator_end_iff.2 ⟨blanks, hblanks, by simp⟩
      rw [readFields, hkey]
      simp only [dif_pos (hunread field List.mem_cons_self), hvalue, hsep, filled_nil.1 hrest]
  | cons p given ih =>
    obtain ⟨hnew, hnodup⟩ := List.nodup_cons.1 hnodup
    obtain ⟨d, hhas, hfilled⟩ := (filled_cons hnew).1 hfilled
    obtain ⟨next, hkey, hvalue⟩ := exists_readMember c hmember hhas (hafter.ends (.inr rfl) rest).follows hs
    cases hafter with
    | @item _ _ _ lead member' after hlead hmember' hafter =>
      obtain ⟨tail, rfl⟩ := exists_of_writtenMember hmember'
      have hsep : readSeparator (lead ++ ('"' :: tail ++ after) ++ rest) = .ok (true, tail ++ (after ++ rest)) :=
        readSeparator_more_iff.2 ⟨lead, hlead, by simp⟩
      rw [readFields, hkey]
      simp only [dif_pos (hunread field List.mem_cons_self), hvalue, hsep]
      have htail : '"' :: (tail ++ (after ++ rest)) = '"' :: tail ++ (after ++ rest) := rfl
      refine ih hmember' hafter htail hnodup (fun f hf => ?_) hfilled
      refine (List.mem_erase_of_ne ?_).2 (hunread f (List.mem_cons_of_mem field hf))
      rintro rfl
      exact hnew hf

theorem readObject_eq_ok_iff : readObject s = .ok (c', rest) ↔
    ∃ given text, Items WrittenMember '}' true (members given) text ∧ s = text ++ rest ∧
      (given.map Prod.fst).Nodup ∧ Filled id standard given c' := by
  constructor
  · intro h
    unfold readObject at h
    split at h
    · cases h
    · rename_i hs
      obtain ⟨rfl, rfl⟩ := Prod.mk.inj (Except.ok.inj h)
      obtain ⟨blanks, hblanks, rfl⟩ := exists_of_skipBlank hs
      exact ⟨[], _, .close hblanks, by simp, .nil, filled_nil.2 rfl⟩
    · rename_i hs
      obtain ⟨blanks, hblanks, rfl⟩ := exists_of_skipBlank hs
      obtain ⟨field, value, given, member, after, hmember, hafter, hs, hnodup, -, hfilled⟩ :=
        exists_of_readFields h Field.nodup_all
      exact ⟨(field, value) :: given, _, .item hblanks hmember hafter, by rw [hs]; simp, hnodup, hfilled⟩
    · cases h
  · rintro ⟨given, text, hitems, rfl, hnodup, hfilled⟩
    cases given with
    | nil =>
      obtain rfl := filled_nil.1 hfilled
      cases hitems with
      | close hblanks =>
        rw [readObject, List.append_assoc, skipBlank_append hblanks]
        rfl
    | cons p given =>
      cases hitems with
      | item hblanks hmember hafter =>
        obtain ⟨tail, rfl⟩ := exists_of_writtenMember hmember
        have hall (field : Field) : field ∈ Field.all := by cases field <;> decide
        rw [readObject, List.append_assoc, skipBlank_append hblanks]
        simp only [List.cons_append, skipBlank_of_not (show isBlank '"' = false by decide), List.append_assoc]
        exact readFields_append hmember hafter rfl hnodup (fun f _ => hall f) hfilled

end Object

section Document

/-- A document is an array or an object, with blanks around it or without. -/
theorem readDocument_cases : readDocument s = .ok c ↔ ∃ blanks inner tail, Blanks blanks ∧ Blanks tail ∧
    (s = blanks ++ '[' :: inner ∧ readInOrder true standard Field.all inner = .ok (c, tail) ∨
      s = blanks ++ '{' :: inner ∧ readObject inner = .ok (c, tail)) := by
  constructor
  · intro h
    simp only [readDocument, bind, Except.bind] at h
    split at h
    · cases h
    · rename_i hs
      obtain ⟨blanks, hblanks, rfl⟩ := exists_of_skipBlank hs
      split at h
      · cases h
      · rename_i hread
        split at h
        · rename_i htail
          obtain rfl := Except.ok.inj h
          exact ⟨blanks, _, _, hblanks, blanks_of_skipBlank htail, .inl ⟨rfl, hread⟩⟩
        · cases h
    · rename_i hs
      obtain ⟨blanks, hblanks, rfl⟩ := exists_of_skipBlank hs
      split at h
      · cases h
      · rename_i hread
        split at h
        · rename_i htail
          obtain rfl := Except.ok.inj h
          exact ⟨blanks, _, _, hblanks, blanks_of_skipBlank htail, .inr ⟨rfl, hread⟩⟩
        · cases h
    · cases h
  · rintro ⟨blanks, inner, tail, hblanks, htail, ⟨rfl, hread⟩ | ⟨rfl, hread⟩⟩
    · have hskip : skipBlank (blanks ++ '[' :: inner) = '[' :: inner := by
        rw [skipBlank_append hblanks, skipBlank_of_not (by decide)]
      simp only [readDocument, hskip, hread, bind, Except.bind, skipBlank_of_blanks htail]
    · have hskip : skipBlank (blanks ++ '{' :: inner) = '{' :: inner := by
        rw [skipBlank_append hblanks, skipBlank_of_not (by decide)]
      simp only [readDocument, hskip, hread, bind, Except.bind, skipBlank_of_blanks htail]

theorem readDocument_eq_ok_iff :
    readDocument s = .ok c ↔ ∃ value given, Document value s ∧ Gives value given ∧ Filled id standard given c := by
  rw [readDocument_cases]
  constructor
  · rintro ⟨blanks, inner, tail, hblanks, htail, ⟨rfl, hread⟩ | ⟨rfl, hread⟩⟩
    · obtain ⟨given, text, hitems, rfl, hfields, hfilled⟩ := (readInOrder_eq_ok_iff Field.nodup_all).1 hread
      exact ⟨_, given, ⟨blanks, _, tail, hblanks, .list hitems, htail, rfl⟩, ⟨rfl, hfields⟩, hfilled⟩
    · obtain ⟨given, text, hitems, rfl, hnodup, hfilled⟩ := readObject_eq_ok_iff.1 hread
      exact ⟨_, given, ⟨blanks, _, tail, hblanks, .object hitems, htail, rfl⟩, ⟨rfl, hnodup⟩, hfilled⟩
  · rintro ⟨value, given, ⟨blanks, inner, tail, hblanks, hwritten, htail, rfl⟩, hgives, hfilled⟩
    cases hwritten with
    | null | yes | no | number | text => exact hgives.elim
    | list hitems =>
      obtain ⟨rfl, hfields⟩ := hgives
      refine ⟨blanks, _, tail, hblanks, htail, .inl ⟨rfl, ?_⟩⟩
      exact (readInOrder_eq_ok_iff Field.nodup_all).2 ⟨given, _, hitems, rfl, hfields, hfilled⟩
    | object hitems =>
      obtain ⟨rfl, hnodup⟩ := hgives
      refine ⟨blanks, _, tail, hblanks, htail, .inr ⟨rfl, ?_⟩⟩
      exact readObject_eq_ok_iff.2 ⟨given, _, hitems, rfl, hnodup, hfilled⟩

theorem ofJson_eq_ok_iff_filled {text : String} : ofJson text = .ok c ↔
    ∃ value given, Document value text.toList ∧ Gives value given ∧ Filled normalizeExtension standard given c := by
  have hread : ofJson text = .ok c ↔ ∃ read, readDocument text.toList = .ok read ∧ c = read.normalized := by
    unfold ofJson
    cases readDocument text.toList with
    | error fault => simp
    | ok read => simp [eq_comm]
  rw [hread]
  constructor
  · rintro ⟨read, h, hc⟩
    obtain ⟨value, given, hdocument, hgives, hfilled⟩ := readDocument_eq_ok_iff.1 h
    refine ⟨value, given, hdocument, hgives, ?_⟩
    rw [← isNormal_standard.normalized_eq]
    exact (filled_normalized_iff hgives.nodup).2 ⟨read, hfilled, hc⟩
  · rintro ⟨value, given, hdocument, hgives, hfilled⟩
    rw [← isNormal_standard.normalized_eq] at hfilled
    obtain ⟨read, hread, hc⟩ := (filled_normalized_iff hgives.nodup).1 hfilled
    exact ⟨read, readDocument_eq_ok_iff.2 ⟨value, given, hdocument, hgives, hread⟩, hc⟩

/-- A text is read as a configuration just if it is one JSON document, with blanks around it or without, that gives some
fields, each by a value of its type: an object whose keys are different names of fields, or an array with the first few
fields in order. The configuration then has every field that is given as it is given, arrays as sets and extensions in
normal form, and every other field as in the standard one. So two texts that give the same values for the same fields
are read as the same configuration, or neither is read, however the fields are ordered and the texts are written. -/
theorem ofJson_eq_ok_iff (text : String) :
    ((∃ c, ofJson text = .ok c) ↔
      ∃ value given, Document value text.toList ∧ Gives value given ∧ ∀ p ∈ given, p.1.Admits p.2) ∧
    (∀ value given, Document value text.toList → Gives value given →
      ∀ c, ofJson text = .ok c ↔ Filled normalizeExtension standard given c) ∧
    ∀ other value value' given given', Document value text.toList → Gives value given →
      Document value' other.toList → Gives value' given' → given.Perm given' →
      ∀ c, ofJson text = .ok c ↔ ofJson other = .ok c := by
  have hmeaning {text : String} {value : Value} {given : List (Field × Value)} (hdocument : Document value text.toList)
      (hgives : Gives value given) (c : Config) :
      ofJson text = .ok c ↔ Filled normalizeExtension standard given c := by
    rw [ofJson_eq_ok_iff_filled]
    constructor
    · rintro ⟨value', given', hdocument', hgives', hfilled⟩
      obtain rfl := hdocument.unique hdocument'
      rwa [hgives.unique hgives']
    · intro hfilled
      exact ⟨value, given, hdocument, hgives, hfilled⟩
  refine ⟨?_, fun value given => hmeaning, ?_⟩
  · simp only [ofJson_eq_ok_iff_filled]
    constructor
    · rintro ⟨c, value, given, hdocument, hgives, hfilled⟩
      exact ⟨value, given, hdocument, hgives, (exists_filled_iff hgives.nodup).1 ⟨c, hfilled⟩⟩
    · rintro ⟨value, given, hdocument, hgives, hadmits⟩
      obtain ⟨c, hfilled⟩ := (exists_filled_iff hgives.nodup).2 hadmits
      exact ⟨c, value, given, hdocument, hgives, hfilled⟩
  · intro other value value' given given' hdocument hgives hdocument' hgives' hperm c
    rw [hmeaning hdocument hgives, hmeaning hdocument' hgives']
    exact ⟨fun h => h.perm hperm, fun h => h.perm hperm.symm⟩

/-- With two fields in either order, and blanks around every part or none. -/
theorem ofJson_eq_ok_iff_reordered :
    ofJson "\x7b\"max_depth\":null,\"respect_gitignore\":true\x7d" = .ok { respectGitignore := true } ∧
    ofJson "\x7b \"respect_gitignore\" : true , \"max_depth\" : null \x7d" = .ok { respectGitignore := true } := by
  have hplain (field : Field) : field.key.toList.all fun c => ' ' ≤ c ∧ c ≠ '"' ∧ c ≠ '\\' := by
    cases field <;> decide
  have hkey (field : Field) : Quoted field.key ('"' :: (field.key.toList ++ ['"'])) :=
    ⟨_, spelled_plain fun c hc => of_decide_eq_true (List.all_eq_true.1 (hplain field) c hc), rfl⟩
  have hpair (field field' : Field) {value value' : Value} {text text' b : List Char} (hb : Blanks b)
      (h : Written value text) (h' : Written value' text') :
      Document (.object (members [(field, value), (field', value')]))
        ([] ++ ('{' :: (b ++ ('"' :: (field.key.toList ++ ['"']) ++ (b ++ ':' :: (b ++ text)) ++ (b ++ ',' :: b ++
          ('"' :: (field'.key.toList ++ ['"']) ++ (b ++ ':' :: (b ++ text')) ++ (b ++ ['}']))))) ++ [])) :=
    ⟨[], _, [], List.forall_mem_nil _, .object (.item hb (.member (hkey field) hb hb h)
      (.item ⟨b, b, hb, hb, rfl⟩ (.member (hkey field') hb hb h') (.close hb))), List.forall_mem_nil _, rfl⟩
  have hdocument := hpair .maxDepth .respectGitignore (List.forall_mem_nil _) .null .yes
  have hdocument' := hpair .respectGitignore .maxDepth (b := [' ']) (List.forall_mem_singleton.2 rfl) .yes .null
  have hfilled : Filled normalizeExtension standard [(.maxDepth, .null), (.respectGitignore, .flag true)]
      { respectGitignore := true } := by
    refine ⟨?_, ?_⟩
    · simp [Has]
    · intro field hfield
      cases field <;> first | rfl | simp at hfield
  have hgives : Gives (.object (members [(.maxDepth, .null), (.respectGitignore, .flag true)])) _ :=
    ⟨rfl, by decide⟩
  have hgives' : Gives (.object (members [(.respectGitignore, .flag true), (.maxDepth, .null)])) _ :=
    ⟨rfl, by decide⟩
  obtain ⟨-, hmeaning, halike⟩ := ofJson_eq_ok_iff "\x7b\"max_depth\":null,\"respect_gitignore\":true\x7d"
  have hread := (hmeaning _ _ hdocument hgives _).2 hfilled
  exact ⟨hread, (halike _ _ _ _ _ hdocument hgives hdocument' hgives' (.swap _ _ _) _).1 hread⟩

end Document

end SourceSnapshot.Config
