import SourceSnapshot.Config.Printer
import SourceSnapshot.Proofs.Config.Normal
import SourceSnapshot.Proofs.Json.Recognition

/-! Configurations that are printed and read. The fields are read in the order in which they were printed, each
value with all that was printed of it, so the reader comes to the configuration that was printed; what it gives
is that with its extensions in normal form. -/
namespace SourceSnapshot.Config
open Json
variable {rest : List Char}

theorem readText_quote (s : String) (rest : List Char) : readText (quote s ++ rest) = .ok (s, rest) := by
  rw [quote_append]
  exact stringBody_quote s rest

theorem readMoreNames_of_end {before : List String} {s : List Char} (h : skipBlank s = ']' :: rest) :
    readMoreNames before s = .ok (before.reverse, rest) := by
  rw [readMoreNames]
  split
  · rename_i hs
    cases h.symm.trans hs
  · rename_i hs
    obtain ⟨-, rfl⟩ := List.cons.inj (h.symm.trans hs)
    rfl
  · rename_i hs
    cases h.symm.trans hs
  · rename_i hclose _ hs
    exact absurd (List.cons.inj (hs.symm.trans h)).1 hclose

theorem readMoreNames_of_comma {before : List String} {s after more : List Char} {name : String} {c : Char}
    (h : skipBlank s = ',' :: after) (hafter : skipBlank after = c :: more) (hc : c ≠ ']')
    (hname : readText (c :: more) = .ok (name, rest)) :
    readMoreNames before s = readMoreNames (name :: before) rest := by
  rw [readMoreNames]
  split
  · rename_i hs
    cases h.symm.trans hs
  · rename_i hs
    cases h.symm.trans hs
  · rename_i hs
    obtain ⟨-, rfl⟩ := List.cons.inj (h.symm.trans hs)
    split
    · rename_i hs
      cases hafter.symm.trans hs
    · rename_i hs
      exact absurd (List.cons.inj (hafter.symm.trans hs)).1 hc
    · rename_i hs
      obtain ⟨rfl, rfl⟩ := List.cons.inj (hafter.symm.trans hs)
      split
      · rename_i hx
        cases hname.symm.trans hx
      · rename_i hx
        obtain ⟨rfl, rfl⟩ := Prod.mk.inj (Except.ok.inj (hname.symm.trans hx))
        rfl
  · rename_i _ hcomma hs
    exact absurd (List.cons.inj (hs.symm.trans h)).1 hcomma

theorem readMoreNames_itemsAfter (before names : List String) (level : Nat) (rest : List Char) :
    readMoreNames before (itemsAfter ']' level (names.map quote) rest) = .ok (before.reverse ++ names, rest) := by
  induction names generalizing before with
  | nil =>
    rw [List.append_nil]
    exact readMoreNames_of_end (skipBlank_itemsAfter_nil rfl)
  | cons name names ih =>
    rw [List.map_cons, itemsAfter_cons, readMoreNames_of_comma (skipBlank_of_not rfl) _ _ (readText_quote name _), ih,
      List.reverse_cons, List.append_assoc, List.singleton_append]
    · rw [skipBlank_line]
      exact skipBlank_quote name
    · decide

theorem readNames_of_text {s more : List Char} {name : String} {c : Char} (h : skipBlank s = c :: more) (hc : c ≠ ']')
    (hname : readText (c :: more) = .ok (name, rest)) :
    readNames ('[' :: s) = (readMoreNames [name] rest).map fun (names, rest) => (.ofList names, rest) := by
  rw [readNames, h]
  split
  · rename_i hs
    cases hs
  · rename_i hs
    exact absurd (List.cons.inj hs).1 hc
  · rw [hname]

/-- A list of names is read as the set of them. -/
theorem readNames_print (names : List String) (level : Nat) (rest : List Char) :
    readNames ((Printable.texts names).print level ++ rest) = .ok (.ofList names, rest) := by
  cases names with
  | nil => rfl
  | cons name names =>
    rw [Printable.print, List.map_cons, bracketed_cons, readNames_of_text _ _ (readText_quote name _),
      readMoreNames_itemsAfter [name] names level rest]
    · rfl
    · rw [skipBlank_line]
      exact skipBlank_quote name
    · decide

theorem readWord_digits (n : UInt64) (hrest : Follows rest) :
    readWord (Numeral.digits n.toNat ++ rest) = .ok (n, rest) := by
  have hnumber := number_append (counts_digits n.toNat) (toNat_le_maxWord n) hrest
  obtain ⟨c, more, hdigits, hdigit, -⟩ := exists_digits_eq_cons n.toNat
  rw [hdigits, List.cons_append] at hnumber ⊢
  rw [readWord, if_pos hdigit, hnumber]
  · simp
  · rintro rfl
    cases hdigit

theorem readLimit_print (c : Config) (level : Nat) (hrest : Follows rest) :
    readLimit ((c.fieldValue .maxDepth).print level ++ rest) = .ok (c.maxDepth, rest) := by
  unfold fieldValue
  cases c.maxDepth with
  | none => rfl
  | some n =>
    have hword := readWord_digits n hrest
    obtain ⟨d, more, hdigits, hdigit, -⟩ := exists_digits_eq_cons n.toNat
    simp only [Printable.print]
    rw [hdigits, List.cons_append] at hword ⊢
    rw [readLimit, hword]
    · rfl
    · intro rest' h
      obtain ⟨rfl, -⟩ := List.cons.inj h
      cases hdigit

theorem readFlag_print (b : Bool) (level : Nat) (rest : List Char) :
    readFlag ((Printable.flag b).print level ++ rest) = .ok (b, rest) := by
  cases b
  · rfl
  · rfl

def withFieldOf (other c : Config) : Field → Config
  | .excludedDirs => { c with excludedDirs := other.excludedDirs }
  | .excludedFiles => { c with excludedFiles := other.excludedFiles }
  | .includedExtensions => { c with includedExtensions := other.includedExtensions }
  | .structureDepth => { c with structureDepth := other.structureDepth }
  | .maxDepth => { c with maxDepth := other.maxDepth }
  | .respectGitignore => { c with respectGitignore := other.respectGitignore }

/-- A configuration that takes every field from another is that other one. -/
theorem foldl_withFieldOf_all (other c : Config) : Field.all.foldl other.withFieldOf c = other := rfl

theorem readValue_print (other c : Config) (field : Field) (hrest : Follows rest) :
    readValue c field ((other.fieldValue field).print 1 ++ rest) = .ok (other.withFieldOf c field, rest) := by
  cases field with
  | excludedDirs | excludedFiles | includedExtensions =>
    rw [readValue, fieldValue, readNames_print, NameSet.ofList_toList]
    rfl
  | structureDepth =>
    rw [readValue, fieldValue, Printable.print, readWord_digits _ hrest]
    rfl
  | maxDepth =>
    rw [readValue, readLimit_print _ _ hrest]
    rfl
  | respectGitignore =>
    rw [readValue, fieldValue, readFlag_print]
    rfl

theorem Field.ofKey?_key (field : Field) : Field.ofKey? field.key = some field := by
  cases field <;> rfl

/-- What is printed of a field, after the opening quote of its key. -/
def printedField (c : Config) (field : Field) : List Char :=
  field.key.toList.flatMap escapeChar ++ '"' :: ':' :: ' ' :: (c.fieldValue field).print 1

theorem readKey_printedField (c : Config) (field : Field) (rest : List Char) :
    readKey (c.printedField field ++ rest) = .ok (field, ':' :: ' ' :: ((c.fieldValue field).print 1 ++ rest)) := by
  simp only [readKey, printedField, List.append_assoc, List.cons_append, stringBody_quote, Field.ofKey?_key]

theorem readColon_print (value : Printable) (level : Nat) (rest : List Char) :
    readColon (':' :: ' ' :: (value.print level ++ rest)) = .ok (value.print level ++ rest) := by
  have hcolon : readColon (':' :: ' ' :: (value.print level ++ rest)) =
      .ok (skipBlank (value.print level ++ rest)) := rfl
  rw [hcolon, skipBlank_print]

/-- What follows a field: the other fields and the end of the object. -/
def fieldsAfter (c : Config) (fields : List Field) (rest : List Char) : List Char :=
  itemsAfter '}' 0 (fields.map fun field => '"' :: c.printedField field) rest

theorem readSeparator_fieldsAfter_nil (c : Config) (rest : List Char) :
    readSeparator (c.fieldsAfter [] rest) = .ok (false, rest) := by
  rw [fieldsAfter, List.map_nil, readSeparator, skipBlank_itemsAfter_nil rfl]
  rfl

theorem readSeparator_fieldsAfter_cons (c : Config) (field : Field) (fields : List Field) (rest : List Char) :
    readSeparator (c.fieldsAfter (field :: fields) rest) =
      .ok (true, c.printedField field ++ c.fieldsAfter fields rest) := by
  have hskip (rest : List Char) : skipBlank ('\n' :: (indent 1 ++ '"' :: rest)) = '"' :: rest := by
    rw [skipBlank_line, skipBlank_of_not rfl]
  rw [fieldsAfter, List.map_cons, itemsAfter_cons, readSeparator, skipBlank_of_not rfl]
  simp only [List.cons_append, hskip]
  rfl

/-- The fields are read in the order in which they were printed. -/
theorem readFields_printedField (other c : Config) (unread : List Field) (field : Field) (fields : List Field)
    (rest : List Char) (hunread : ∀ f ∈ field :: fields, f ∈ unread) (hnodup : (field :: fields).Nodup) :
    readFields unread c (other.printedField field ++ other.fieldsAfter fields rest) =
      .ok ((field :: fields).foldl other.withFieldOf c, rest) := by
  have hvalue (c : Config) (field : Field) (fields : List Field) :
      (readColon (':' :: ' ' :: ((other.fieldValue field).print 1 ++ other.fieldsAfter fields rest))).bind
        (readValue c field) = .ok (other.withFieldOf c field, other.fieldsAfter fields rest) := by
    rw [readColon_print]
    exact readValue_print other c field (follows_itemsAfter _)
  -- the fields still to come are among those not read yet, which lose one field at each step
  induction fields generalizing field unread c with
  | nil =>
    rw [readFields, readKey_printedField]
    simp only [dif_pos (hunread field List.mem_cons_self), hvalue, readSeparator_fieldsAfter_nil]
    rfl
  | cons next fields ih =>
    rw [readFields, readKey_printedField]
    simp only [dif_pos (hunread field List.mem_cons_self), hvalue, readSeparator_fieldsAfter_cons]
    rw [ih]
    · rfl
    · intro f hf
      have hne : f ≠ field := by
        rintro rfl
        exact (List.nodup_cons.1 hnodup).1 hf
      exact (List.mem_erase_of_ne hne).2 (hunread f (List.mem_cons_of_mem field hf))
    · exact (List.nodup_cons.1 hnodup).2

theorem toList_toJson (c : Config) (rest : List Char) : c.toJson.toList ++ rest =
    '{' :: '\n' :: (indent 1 ++ ('"' :: (c.printedField .excludedDirs ++ c.fieldsAfter Field.all.tail rest))) := by
  have hmember (field : Field) : quote field.key ++ ':' :: ' ' :: (c.fieldValue field).print 1 =
      '"' :: c.printedField field := by
    rw [quote_append]
    rfl
  rw [toJson, printObject, String.toList_ofList, List.map_map]
  simp only [Function.comp_def, hmember]
  exact bracketed_cons _ _ rest

theorem readDocument_of_object {c : Config} {s : List Char} (h : readObject s = .ok (c, rest))
    (hrest : skipBlank rest = []) : readDocument ('{' :: s) = .ok c := by
  have hbrace : skipBlank ('{' :: s) = '{' :: s := skipBlank_of_not rfl
  simp only [readDocument, hbrace, h, bind, Except.bind, hrest]

/-- The text of a configuration, with blanks behind it or without, is read as that configuration. -/
theorem readDocument_toJson (c : Config) {tail : List Char} (htail : ∀ x ∈ tail, isBlank x) :
    readDocument (c.toJson.toList ++ tail) = .ok c := by
  have hall : Field.excludedDirs :: Field.all.tail = Field.all := rfl
  have hread := readFields_printedField c standard Field.all .excludedDirs Field.all.tail tail
    (fun _ hfield => hfield) (by decide)
  rw [hall, foldl_withFieldOf_all] at hread
  have hend : skipBlank tail = [] := by
    rw [← List.append_nil tail]
    exact skipBlank_append htail []
  rw [toList_toJson]
  refine readDocument_of_object ?_ hend
  rw [readObject, skipBlank_line, skipBlank_of_not rfl]
  exact hread

theorem ofJson_append_toJson (c : Config) {tail : String} (htail : ∀ x ∈ tail.toList, isBlank x) :
    ofJson (c.toJson ++ tail) = .ok c.normalized := by
  rw [ofJson, String.toList_append, readDocument_toJson c htail]

/-- What a text gives is in normal form. -/
theorem isNormal_ofJson {c : Config} {text : String} (h : ofJson text = .ok c) : c.IsNormal := by
  rw [ofJson] at h
  split at h
  · rename_i read _
    obtain rfl : read.normalized = c := Except.ok.inj h
    exact isNormal_normalized read
  · cases h

theorem IsNormal.ofJson_append_toJson {c : Config} (h : c.IsNormal) {tail : String}
    (htail : ∀ x ∈ tail.toList, isBlank x) : ofJson (c.toJson ++ tail) = .ok c := by
  rw [Config.ofJson_append_toJson c htail, h.normalized_eq]

/-- A configuration that is printed, with blanks behind its text or without, is read back with each of its extensions
in normal form. What was read is read back as it is, and so is the standard configuration after any changes; reading,
printing and reading again is no more than reading. -/
theorem ofJson_toJson (tail : String) (htail : ∀ x ∈ tail.toList, isBlank x) :
    (∀ c : Config, ofJson (c.toJson ++ tail) =
      .ok { c with includedExtensions := c.includedExtensions.map normalizeExtension }) ∧
    (∀ (text : String) (c : Config), ofJson text = .ok c → ofJson (c.toJson ++ tail) = .ok c) ∧
    (∀ text : String, ((ofJson text).bind fun c => ofJson (c.toJson ++ tail)) = ofJson text) ∧
    ∀ changes : List Change, ofJson ((changed changes).toJson ++ tail) = .ok (changed changes) := by
  refine ⟨?_, ?_, ?_, ?_⟩
  · intro c
    exact ofJson_append_toJson c htail
  · intro text c h
    exact (isNormal_ofJson h).ofJson_append_toJson htail
  · intro text
    cases h : ofJson text with
    | error message => rfl
    | ok c =>
      rw [Except.bind]
      exact (isNormal_ofJson h).ofJson_append_toJson htail
  · intro changes
    exact (isNormal_changed changes).ofJson_append_toJson htail

/-- With the line feed that ends a printed line: the extension `GO` comes back as `.go`. -/
theorem ofJson_toJson_line : (∀ x ∈ "\n".toList, isBlank x) ∧
    ofJson (({ includedExtensions := .ofList ["GO"] } : Config).toJson ++ "\n") =
      .ok { includedExtensions := .ofList [".go"] } := by
  have hline : ∀ x ∈ "\n".toList, isBlank x := by
    intro x hx
    obtain rfl : x = '\n' := List.mem_singleton.1 hx
    rfl
  have hmap : (NameSet.ofList ["GO"]).map normalizeExtension = .ofList [".go"] := by decide +kernel
  refine ⟨hline, ((ofJson_toJson "\n" hline).1 _).trans ?_⟩
  simp only [hmap]

end SourceSnapshot.Config
