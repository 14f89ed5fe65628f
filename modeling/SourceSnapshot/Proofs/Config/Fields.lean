import SourceSnapshot.Proofs.Config.RoundTrip
import SourceSnapshot.Proofs.Json.Grammar

/-! What a JSON value says of the fields of a configuration. An object names the fields that it gives, an array gives
the first few of them; a field that is given has the value that is given, and every other one stays as it was. -/
namespace SourceSnapshot.Config
open Json
variable {form : String → String} {base c d : Config} {field other : Field} {value : Value}
  {given : List (Field × Value)}

def Field.Admits (field : Field) (value : Value) : Prop :=
  match field with
  | .excludedDirs | .excludedFiles | .includedExtensions => ∃ names : List String, value = .list (names.map .text)
  | .structureDepth => ∃ literal n, value = .number literal ∧ Counts literal n ∧ n ≤ maxWord
  | .maxDepth => value = .null ∨ ∃ literal n, value = .number literal ∧ Counts literal n ∧ n ≤ maxWord
  | .respectGitignore => ∃ b, value = .flag b

/-- A set has the strings of a list for its members, each in a certain form. -/
def IsSetOf (form : String → String) (value : Value) (set : NameSet) : Prop :=
  ∃ names : List String, value = .list (names.map .text) ∧ ∀ x, x ∈ set ↔ ∃ name ∈ names, form name = x

/-- A configuration has for a field what a value says, its extensions in a certain form. -/
def Has (form : String → String) (c : Config) (field : Field) (value : Value) : Prop :=
  match field with
  | .excludedDirs => IsSetOf id value c.excludedDirs
  | .excludedFiles => IsSetOf id value c.excludedFiles
  | .includedExtensions => IsSetOf form value c.includedExtensions
  | .structureDepth => ∃ literal, value = .number literal ∧ Counts literal c.structureDepth.toNat
  | .maxDepth =>
    value = .null ∧ c.maxDepth = none ∨
      ∃ literal n, value = .number literal ∧ Counts literal n.toNat ∧ c.maxDepth = some n
  | .respectGitignore => value = .flag c.respectGitignore

def SameIn (c d : Config) (field : Field) : Prop :=
  match field with
  | .excludedDirs => c.excludedDirs = d.excludedDirs
  | .excludedFiles => c.excludedFiles = d.excludedFiles
  | .includedExtensions => c.includedExtensions = d.includedExtensions
  | .structureDepth => c.structureDepth = d.structureDepth
  | .maxDepth => c.maxDepth = d.maxDepth
  | .respectGitignore => c.respectGitignore = d.respectGitignore

/-- A configuration has what is given for some fields, and is as another one in every other field. -/
structure Filled (form : String → String) (base : Config) (given : List (Field × Value)) (c : Config) : Prop where
  has : ∀ p ∈ given, c.Has form p.1 p.2
  same : ∀ field ∉ given.map Prod.fst, c.SameIn base field

def members (given : List (Field × Value)) : List (String × Value) := given.map fun p => (p.1.key, p.2)

/-- What a JSON value gives for which fields: an object names each field that it gives, and none twice; an array gives
the first few fields in order, all six at most. -/
def Gives (value : Value) (given : List (Field × Value)) : Prop :=
  match value with
  | .object items => items = members given ∧ (given.map Prod.fst).Nodup
  | .list items => items = given.map Prod.snd ∧ given.map Prod.fst <+: Field.all
  | _ => False

theorem Field.nodup_all : Field.all.Nodup := by decide

theorem Gives.nodup (h : Gives value given) : (given.map Prod.fst).Nodup := by
  cases value with
  | object items => exact h.2
  | list items => exact h.2.sublist.nodup Field.nodup_all
  | null | flag | number | text => exact h.elim

theorem Field.key_injective : Function.Injective Field.key := by
  intro field other h
  have hof : Field.ofKey? field.key = Field.ofKey? other.key := congrArg _ h
  rw [Field.ofKey?_key, Field.ofKey?_key] at hof
  exact Option.some.inj hof

theorem Gives.unique {given' : List (Field × Value)} (h : Gives value given) (h' : Gives value given') :
    given = given' := by
  cases value with
  | object items =>
    have hinj : Function.Injective fun p : Field × Value => (p.1.key, p.2) := by
      rintro ⟨field, value⟩ ⟨field', value'⟩ h
      obtain ⟨hkey, rfl⟩ := Prod.mk.inj h
      exact congrArg (·, _) (Field.key_injective hkey)
    exact List.map_injective_iff.2 hinj (h.1.symm.trans h'.1)
  | list items =>
    obtain ⟨hitems, hfields⟩ := h
    obtain ⟨hitems', hfields'⟩ := h'
    have hlength : given.length = given'.length := by
      rw [← List.length_map Prod.snd, ← hitems, hitems', List.length_map]
    have hfirst : given.map Prod.fst = given'.map Prod.fst := by
      rw [List.prefix_iff_eq_take.1 hfields, List.prefix_iff_eq_take.1 hfields', List.length_map, List.length_map,
        hlength]
    rw [List.zip_of_prod hfirst (hitems.symm.trans hitems'), ← List.zip_of_prod rfl rfl]
  | null | flag | number | text => exact h.elim

theorem Has.of_sameIn (h : d.Has form field value) (hsame : c.SameIn d field) : c.Has form field value := by
  cases field with
  | excludedDirs | excludedFiles | includedExtensions | structureDepth | maxDepth | respectGitignore =>
    simp only [SameIn] at hsame
    simpa only [Has, hsame] using h

theorem SameIn.refl (c : Config) (field : Field) : c.SameIn c field := by
  cases field <;> rfl

theorem SameIn.symm (h : c.SameIn d field) : d.SameIn c field := by
  cases field <;> exact Eq.symm h

theorem SameIn.trans (h : c.SameIn d field) (h' : d.SameIn base field) : c.SameIn base field := by
  cases field <;> exact Eq.trans h h'

theorem eq_of_sameIn (h : ∀ field, c.SameIn d field) : c = d := by
  obtain ⟨dirs, files, extensions, depth, limit, flag⟩ := c
  obtain ⟨dirs', files', extensions', depth', limit', flag'⟩ := d
  obtain rfl : dirs = dirs' := h .excludedDirs
  obtain rfl : files = files' := h .excludedFiles
  obtain rfl : extensions = extensions' := h .includedExtensions
  obtain rfl : depth = depth' := h .structureDepth
  obtain rfl : limit = limit' := h .maxDepth
  obtain rfl : flag = flag' := h .respectGitignore
  rfl

theorem sameIn_withFieldOf (c base : Config) (field : Field) : (c.withFieldOf base field).SameIn c field := by
  cases field <;> rfl

theorem withFieldOf_of_sameIn (h : c.SameIn d field) : c.withFieldOf base field = d.withFieldOf base field := by
  cases field with
  | excludedDirs | excludedFiles | includedExtensions | structureDepth | maxDepth | respectGitignore =>
    simp only [SameIn] at h
    simp only [withFieldOf, h]

/-- In every field but the one that is taken nothing changes. -/
theorem sameIn_withFieldOf_iff (h : other ≠ field) :
    c.SameIn (d.withFieldOf base field) other ↔ c.SameIn base other := by
  cases field <;> cases other <;> first | exact absurd rfl h | rfl

section Filling

theorem filled_nil : Filled form base [] c ↔ c = base := by
  constructor
  · intro h
    exact eq_of_sameIn fun field => h.same field List.not_mem_nil
  · rintro rfl
    exact ⟨nofun, fun field _ => .refl c field⟩

/-- Fields are filled in one after another. -/
theorem filled_cons (hfield : field ∉ given.map Prod.fst) : Filled form base ((field, value) :: given) c ↔
    ∃ d : Config, d.Has form field value ∧ Filled form (d.withFieldOf base field) given c := by
  constructor
  · intro h
    refine ⟨c, h.has _ List.mem_cons_self, fun p hp => h.has p (List.mem_cons_of_mem _ hp), fun other hother => ?_⟩
    by_cases heq : other = field
    · rw [heq]
      exact (sameIn_withFieldOf c base field).symm
    · exact (sameIn_withFieldOf_iff heq).2 (h.same other (List.not_mem_cons_of_ne_of_not_mem heq hother))
  · rintro ⟨d, hhas, h⟩
    have hsame : c.SameIn d field := (h.same field hfield).trans (sameIn_withFieldOf d base field)
    refine ⟨List.forall_mem_cons.2 ⟨hhas.of_sameIn hsame, h.has⟩, fun other hother => ?_⟩
    rw [List.map_cons, List.mem_cons, not_or] at hother
    exact (sameIn_withFieldOf_iff hother.1).1 (h.same other hother.2)

/-- The order in which fields are given makes no difference. -/
theorem Filled.perm {given' : List (Field × Value)} (h : Filled form base given c) (hperm : given.Perm given') :
    Filled form base given' c where
  has p hp := h.has p (hperm.mem_iff.2 hp)
  same field hfield := h.same field fun hmem => hfield ((hperm.map Prod.fst).mem_iff.1 hmem)

end Filling

/-- A list of strings gives a set, whatever form they are brought to. -/
theorem exists_isSetOf_iff :
    (∃ set, IsSetOf form value set) ↔ ∃ names : List String, value = .list (names.map .text) := by
  constructor
  · rintro ⟨set, names, hvalue, -⟩
    exact ⟨names, hvalue⟩
  · rintro ⟨names, rfl⟩
    refine ⟨.ofList (names.map form), names, rfl, fun x => ?_⟩
    rw [NameSet.mem_ofList, List.mem_map]

theorem exists_counts_iff : (∃ literal, ∃ n : UInt64, value = .number literal ∧ Counts literal n.toNat) ↔
    ∃ literal n, value = .number literal ∧ Counts literal n ∧ n ≤ maxWord := by
  constructor
  · rintro ⟨literal, n, rfl, hcounts⟩
    exact ⟨literal, n.toNat, rfl, hcounts, toNat_le_maxWord n⟩
  · rintro ⟨literal, n, rfl, hcounts, hn⟩
    refine ⟨literal, .ofNat n, rfl, ?_⟩
    rwa [toNat_ofNat_of_le_maxWord hn]

/-- A value is of a field's type if a configuration can have it there. -/
theorem admits_iff (form : String → String) : field.Admits value ↔ ∃ c : Config, c.Has form field value := by
  cases field with
  | excludedDirs =>
    refine exists_isSetOf_iff.symm.trans ⟨fun ⟨set, h⟩ => ?_, fun ⟨c, h⟩ => ⟨_, h⟩⟩
    exact ⟨{ excludedDirs := set }, h⟩
  | excludedFiles =>
    refine exists_isSetOf_iff.symm.trans ⟨fun ⟨set, h⟩ => ?_, fun ⟨c, h⟩ => ⟨_, h⟩⟩
    exact ⟨{ excludedFiles := set }, h⟩
  | includedExtensions =>
    refine exists_isSetOf_iff.symm.trans ⟨fun ⟨set, h⟩ => ?_, fun ⟨c, h⟩ => ⟨_, h⟩⟩
    exact ⟨{ includedExtensions := set }, h⟩
  | structureDepth =>
    refine exists_counts_iff.symm.trans ⟨fun ⟨literal, n, h⟩ => ?_, fun ⟨c, literal, h⟩ => ⟨literal, _, h⟩⟩
    exact ⟨{ structureDepth := n }, literal, h⟩
  | maxDepth =>
    rw [Field.Admits, ← exists_counts_iff]
    constructor
    · rintro (hnull | ⟨literal, n, hvalue, hcounts⟩)
      · exact ⟨{ maxDepth := none }, .inl ⟨hnull, rfl⟩⟩
      · exact ⟨{ maxDepth := some n }, .inr ⟨literal, n, hvalue, hcounts, rfl⟩⟩
    · rintro ⟨c, ⟨hnull, -⟩ | ⟨literal, n, hvalue, hcounts, -⟩⟩
      · exact .inl hnull
      · exact .inr ⟨literal, n, hvalue, hcounts⟩
  | respectGitignore =>
    exact ⟨fun ⟨b, h⟩ => ⟨{ respectGitignore := b }, h⟩, fun ⟨c, h⟩ => ⟨_, h⟩⟩

theorem exists_filled_iff (hnodup : (given.map Prod.fst).Nodup) :
    (∃ c, Filled form base given c) ↔ ∀ p ∈ given, p.1.Admits p.2 := by
  induction given generalizing base with
  | nil => simp [filled_nil]
  | cons p given ih =>
    obtain ⟨field, value⟩ := p
    obtain ⟨hfield, hnodup⟩ := List.nodup_cons.1 hnodup
    rw [List.forall_mem_cons, admits_iff form]
    constructor
    · rintro ⟨c, h⟩
      obtain ⟨d, hhas, hrest⟩ := (filled_cons hfield).1 h
      exact ⟨⟨d, hhas⟩, (ih hnodup).1 ⟨c, hrest⟩⟩
    · rintro ⟨⟨d, hhas⟩, hrest⟩
      obtain ⟨c, h⟩ := (ih hnodup).2 hrest
      exact ⟨c, (filled_cons hfield).2 ⟨d, hhas, h⟩⟩

/-- Only extensions are brought to a form. -/
theorem has_congr (h : field ≠ .includedExtensions) (form' : String → String) :
    c.Has form field value ↔ c.Has form' field value := by
  cases field with
  | includedExtensions => exact absurd rfl h
  | excludedDirs | excludedFiles | structureDepth | maxDepth | respectGitignore => exact Iff.rfl

theorem sameIn_normalized (h : field ≠ .includedExtensions) : c.SameIn c.normalized field := by
  cases field with
  | includedExtensions => exact absurd rfl h
  | excludedDirs | excludedFiles | structureDepth | maxDepth | respectGitignore => exact Eq.refl _

/-- Extensions in normal form are those that were given, brought to normal form. -/
theorem has_normalizeExtension_iff : c.Has normalizeExtension field value ↔
    ∃ d : Config, d.Has id field value ∧ c.SameIn d.normalized field := by
  by_cases hfield : field = .includedExtensions
  · subst hfield
    constructor
    · rintro ⟨names, hvalue, hmem⟩
      refine ⟨{ includedExtensions := .ofList names }, ⟨names, hvalue, fun x => ?_⟩, NameSet.ext_mem fun x => ?_⟩
      · rw [NameSet.mem_ofList]
        simp
      · rw [hmem, normalized, NameSet.mem_map]
        simp only [NameSet.mem_ofList]
    · rintro ⟨d, ⟨names, hvalue, hmem⟩, hsame⟩
      refine ⟨names, hvalue, fun x => ?_⟩
      have hset : c.includedExtensions = d.includedExtensions.map normalizeExtension := hsame
      simp only [hset, NameSet.mem_map, hmem, id, exists_eq_right]
  · constructor
    · intro h
      exact ⟨c, (has_congr hfield id).1 h, sameIn_normalized hfield⟩
    · rintro ⟨d, h, hsame⟩
      exact ((has_congr hfield normalizeExtension).1 h).of_sameIn (hsame.trans (sameIn_normalized hfield).symm)

theorem normalized_withFieldOf (c base : Config) (field : Field) :
    (c.withFieldOf base field).normalized = c.normalized.withFieldOf base.normalized field := by
  cases field <;> rfl

theorem filled_normalized_iff (hnodup : (given.map Prod.fst).Nodup) :
    Filled normalizeExtension base.normalized given c ↔ ∃ read, Filled id base given read ∧ c = read.normalized := by
  induction given generalizing base with
  | nil => simp [filled_nil]
  | cons p given ih =>
    obtain ⟨field, value⟩ := p
    obtain ⟨hfield, hnodup⟩ := List.nodup_cons.1 hnodup
    have hnext (d : Config) : Filled normalizeExtension (d.normalized.withFieldOf base.normalized field) given c ↔
        ∃ read, Filled id (d.withFieldOf base field) given read ∧ c = read.normalized := by
      rw [← normalized_withFieldOf]
      exact ih hnodup
    constructor
    · intro h
      obtain ⟨d, hhas, hrest⟩ := (filled_cons hfield).1 h
      obtain ⟨d', hhas', hsame⟩ := has_normalizeExtension_iff.1 hhas
      rw [withFieldOf_of_sameIn hsame] at hrest
      obtain ⟨read, hread, hc⟩ := (hnext d').1 hrest
      exact ⟨read, (filled_cons hfield).2 ⟨d', hhas', hread⟩, hc⟩
    · rintro ⟨read, hread, hc⟩
      obtain ⟨d, hhas, hrest⟩ := (filled_cons hfield).1 hread
      refine (filled_cons hfield).2 ⟨d.normalized, ?_, (hnext d).2 ⟨read, hrest, hc⟩⟩
      exact has_normalizeExtension_iff.2 ⟨d, hhas, .refl _ field⟩

end SourceSnapshot.Config
