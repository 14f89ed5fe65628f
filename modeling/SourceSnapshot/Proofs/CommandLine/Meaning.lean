import SourceSnapshot.Proofs.CommandLine.Acceptance

/-! What the options hold of what occurs on a command line. An argument that adds up its values holds those that
occur, and one that may be given once holds the value that occurs; neither changes what the other holds. -/
namespace SourceSnapshot.CommandLine
variable {o o' : Options} {x y : Occurrence} {met met' : List Occurrence} {a b : Argument} {value : Bytes} {text : String}
  {β : Type} {field : Options → Option β} {judge : Bytes → Reading β}

/-- The options without what an argument says. -/
def Options.forget (o : Options) : Argument → Options
  | .path => { o with path := ({} : Options).path }
  | .output => { o with output := none }
  | .config => { o with config := none }
  | .ext => { o with extensions := [] }
  | .excludeDir => { o with excludeDirs := [] }
  | .excludeFile => { o with excludeFiles := [] }
  | .level => { o with level := none }
  | .maxDepth => { o with maxDepth := none }
  | .gitignore => { o with gitignore := false }
  | .drawing => { o with drawing := .external }
  | .json => { o with json := false }
  | .color => { o with color := .auto }
  | .verbose => { o with verbosity := 0 }
  | .help | .version => o

/-- An occurrence changes nothing but what its argument says. -/
theorem forget_set (h : o.set x = .ok o') : o'.forget x.1 = o.forget x.1 := by
  obtain ⟨a, value⟩ := x
  cases value with
  | none => cases a <;> cases h <;> rfl
  | some value =>
    cases a <;> try (cases h; rfl)
    all_goals
      obtain ⟨given, -, h⟩ := exists_of_bind h
      cases h
      rfl

/-- What does not look at an argument is not changed by it. -/
theorem eq_of_forget {γ : Type} (look : Options → γ) (hlook : ∀ o, look (o.forget x.1) = look o)
    (h : o.set x = .ok o') : look o' = look o := by
  rw [← hlook o', forget_set h, hlook o]

/-- Whether an occurrence can be set does not depend on what was set before. -/
theorem exists_set (h : o.set x = .ok o') (before : Options) : ∃ after, before.set x = .ok after := by
  obtain ⟨a, value⟩ := x
  cases value with
  | none => cases a <;> exact ⟨_, rfl⟩
  | some value =>
    cases a <;> try exact ⟨_, rfl⟩
    all_goals
      obtain ⟨given, hgiven, -⟩ := exists_of_bind h
      rw [Options.set, setValue, hgiven]
      exact ⟨_, rfl⟩

theorem exists_foldlM_set_iff :
    (∃ o', met.foldlM Options.set o = .ok o') ↔ ∀ x ∈ met, ∃ o', ({} : Options).set x = .ok o' := by
  induction met generalizing o with
  | nil => exact ⟨fun _ => nofun, fun _ => ⟨o, rfl⟩⟩
  | cons x met ih =>
    rw [List.forall_mem_cons]
    constructor
    · rintro ⟨o', h⟩
      obtain ⟨between, hx, h⟩ := exists_of_bind h
      exact ⟨exists_set hx {}, ih.1 ⟨o', h⟩⟩
    · rintro ⟨⟨_, hx⟩, hmet⟩
      obtain ⟨between, hx⟩ := exists_set hx o
      rw [List.foldlM_cons, hx]
      exact ih.2 hmet

/-- What holds of the options after an occurrence if it held before or if the occurrence is a certain one, holds after
a command line if that one is on it. -/
theorem holds_iff_of_foldlM {Holds : Options → Prop}
    (hset : ∀ o o' x, o.set x = .ok o' → (Holds o' ↔ Holds o ∨ x = y)) (h : met.foldlM Options.set o = .ok o') :
    Holds o' ↔ Holds o ∨ y ∈ met := by
  induction met generalizing o with
  | nil =>
    cases h
    simp
  | cons x met ih =>
    obtain ⟨between, hx, h⟩ := exists_of_bind h
    rw [ih h, hset o between x hx, List.mem_cons, or_assoc, eq_comm]

def added : List Argument := [.ext, .excludeDir, .excludeFile]

def Options.texts (o : Options) : Argument → List String
  | .ext => o.extensions
  | .excludeDir => o.excludeDirs
  | .excludeFile => o.excludeFiles
  | _ => []

theorem textValue_eq_ok_iff : textValue value = .ok text ↔ value = Utf8.encode text := by
  rw [textValue, ← Utf8.decode?_eq_some_iff]
  cases Utf8.decode? value with
  | none => exact ⟨nofun, nofun⟩
  | some other => simp

theorem texts_forget (o : Options) (h : b ≠ a) : (o.forget b).texts a = o.texts a := by
  cases a <;> cases b <;> first | rfl | exact absurd rfl h

theorem texts_set_some (ha : a ∈ added) (h : o.set (a, some value) = .ok o') :
    ∃ text, value = Utf8.encode text ∧ o'.texts a = o.texts a ++ [text] := by
  simp only [added, List.mem_cons, List.not_mem_nil, or_false] at ha
  rcases ha with rfl | rfl | rfl
  all_goals
    obtain ⟨text, htext, h⟩ := exists_of_bind h
    cases h
    exact ⟨text, textValue_eq_ok_iff.1 htext, rfl⟩

theorem texts_set_none (ha : a ∈ added) (h : o.set (a, none) = .ok o') : o'.texts a = o.texts a := by
  simp only [added, List.mem_cons, List.not_mem_nil, or_false] at ha
  rcases ha with rfl | rfl | rfl
  all_goals
    cases h
    rfl

theorem mem_texts_set (ha : a ∈ added) (h : o.set x = .ok o') :
    text ∈ o'.texts a ↔ text ∈ o.texts a ∨ x = (a, some (Utf8.encode text)) := by
  by_cases hx : x.1 = a
  · subst hx
    obtain ⟨a, value⟩ := x
    cases value with
    | none =>
      rw [texts_set_none ha h]
      simp
    | some value =>
      obtain ⟨other, rfl, h⟩ := texts_set_some ha h
      rw [h, List.mem_append, List.mem_singleton, eq_comm (a := text), ← Utf8.encode_inj]
      simp
  · rw [eq_of_forget (·.texts a) (texts_forget · hx) h]
    refine (or_iff_left ?_).symm
    rintro rfl
    exact hx rfl

theorem mem_texts_iff (ha : a ∈ added) (h : met.foldlM Options.set o = .ok o') :
    text ∈ o'.texts a ↔ text ∈ o.texts a ∨ (a, some (Utf8.encode text)) ∈ met :=
  holds_iff_of_foldlM (fun _ _ _ => mem_texts_set ha) h

theorem exists_encode_of_mem (ha : a ∈ added) (h : met.foldlM Options.set o = .ok o') (hmem : (a, some value) ∈ met) :
    ∃ text, value = Utf8.encode text := by
  obtain ⟨_, hset⟩ := exists_foldlM_set_iff.1 ⟨o', h⟩ _ hmem
  obtain ⟨text, htext, -⟩ := texts_set_some ha hset
  exact ⟨text, htext⟩

theorem gitignore_set (h : o.set x = .ok o') : o'.gitignore ↔ o.gitignore ∨ x = (.gitignore, none) := by
  obtain ⟨a, value⟩ := x
  by_cases ha : a = .gitignore
  · subst ha
    cases value <;> cases h <;> simp
  · have hforget (o : Options) : (o.forget a).gitignore = o.gitignore := by
      cases a <;> first | rfl | exact absurd rfl ha
    rw [eq_of_forget Options.gitignore hforget h]
    simp [ha]

theorem gitignore_iff (h : met.foldlM Options.set o = .ok o') :
    o'.gitignore ↔ o.gitignore ∨ (.gitignore, none) ∈ met :=
  holds_iff_of_foldlM (fun _ _ _ => gitignore_set) h

theorem mem_once : a ∈ once met ↔ a.isRepeatable = false ∧ ∃ value, (a, value) ∈ met := by
  simp [once, and_comm]

/-- A setting is what is said of it where an argument occurs, and without it what it was before. -/
structure Settled (met : List Occurrence) (a : Argument) (Says : Bytes → β → Prop) (before after : β) : Prop where
  given : ∀ value, (a, some value) ∈ met → Says value after
  kept : (∀ value, (a, some value) ∉ met) → after = before

namespace Settled
variable {Says : Bytes → β → Prop} {before after after' : β}

theorem unique (hmeans : ∀ value u v, Says value u → Says value v → u = v)
    (h : Settled met a Says before after) (h' : Settled met a Says before after') : after = after' := by
  by_cases hmet : ∃ value, (a, some value) ∈ met
  · obtain ⟨value, hvalue⟩ := hmet
    exact hmeans value after after' (h.given value hvalue) (h'.given value hvalue)
  · have hnone (value : Bytes) : (a, some value) ∉ met := fun hvalue => hmet ⟨value, hvalue⟩
    rw [h.kept hnone, h'.kept hnone]

theorem of_mem (h : Settled met a Says before after) (hmem : ∀ x, x ∈ met ↔ x ∈ met') :
    Settled met' a Says before after where
  given value hvalue := h.given value ((hmem _).2 hvalue)
  kept hnone := h.kept fun value hvalue => hnone value ((hmem _).1 hvalue)

theorem map {γ : Type} {Says' : Bytes → γ → Prop} (f : β → γ) (h : Settled met a Says before after)
    (hmeans : ∀ value, Says value after → Says' value (f after)) : Settled met a Says' (f before) (f after) where
  given value hvalue := hmeans value (h.given value hvalue)
  kept hmet := congrArg f (h.kept hmet)

end Settled

/-- A field of the options is settled by an argument that may be given once: it is what the value is judged to be. -/
structure Settles (field : Options → Option β) (a : Argument) (judge : Bytes → Reading β) : Prop where
  once : a.isRepeatable = false
  forget : ∀ {b : Argument} (o : Options), b ≠ a → field (o.forget b) = field o
  given : ∀ (o : Options) (value : Bytes), (o.set (a, some value)).map field = (judge value).map some
  idle : ∀ (o : Options), o.set (a, none) = .ok o

namespace Settles

theorem set_eq (hfield : Settles field a judge) (h : o.set x = .ok o') (hx : ∀ value, x ≠ (a, some value)) :
    field o' = field o := by
  obtain ⟨b, value⟩ := x
  by_cases hb : b = a
  · subst hb
    cases value with
    | none => rw [Except.ok.inj ((hfield.idle o).symm.trans h)]
    | some value => exact absurd rfl (hx value)
  · exact eq_of_forget field (hfield.forget · hb) h

theorem exists_of_set (hfield : Settles field a judge) (h : o.set (a, some value) = .ok o') :
    ∃ v, judge value = .ok v ∧ field o' = some v := by
  have hgiven := hfield.given o value
  rw [h] at hgiven
  cases hjudge : judge value with
  | error stop =>
    rw [hjudge] at hgiven
    cases hgiven
  | ok v =>
    rw [hjudge] at hgiven
    exact ⟨v, rfl, Except.ok.inj hgiven⟩

/-- Without a value the field is left as it is. -/
theorem foldlM_eq (hfield : Settles field a judge) (h : met.foldlM Options.set o = .ok o')
    (hmet : ∀ value, (a, some value) ∉ met) : field o' = field o := by
  induction met generalizing o with
  | nil =>
    cases h
    rfl
  | cons x met ih =>
    obtain ⟨between, hx, h⟩ := exists_of_bind h
    rw [ih h fun value hvalue => hmet value (.tail _ hvalue)]
    apply hfield.set_eq hx
    rintro value rfl
    exact hmet value (.head _)

/-- What comes behind the value says nothing more of the field. -/
theorem exists_of_mem (hfield : Settles field a judge) (h : met.foldlM Options.set o = .ok o')
    (honce : (CommandLine.once met).Nodup) (hmem : (a, some value) ∈ met) :
    ∃ v, judge value = .ok v ∧ field o' = some v := by
  induction met generalizing o with
  | nil => cases hmem
  | cons x met ih =>
    obtain ⟨between, hx, hrest⟩ := exists_of_bind h
    rw [once_cons] at honce
    cases hmem with
    | head =>
      rw [hfield.once, if_neg Bool.false_ne_true, List.nodup_cons] at honce
      obtain ⟨v, hv, hbetween⟩ := hfield.exists_of_set hx
      have hgone (other : Bytes) : (a, some other) ∉ met := fun hother => honce.1 (mem_once.2 ⟨hfield.once, _, hother⟩)
      exact ⟨v, hv, (hfield.foldlM_eq hrest hgone).trans hbetween⟩
    | tail _ hmem =>
      apply ih hrest _ hmem
      split at honce
      · exact honce
      · exact (List.nodup_cons.1 honce).2

theorem settled (hfield : Settles field a judge) (h : met.foldlM Options.set o = .ok o')
    (honce : (CommandLine.once met).Nodup) :
    Settled met a (fun value found => ∃ v, judge value = .ok v ∧ found = some v) (field o) (field o') where
  given _ hvalue := hfield.exists_of_mem h honce hvalue
  kept hmet := hfield.foldlM_eq h hmet

end Settles

theorem settles_level : Settles Options.level .level (numberValue .level 1) where
  once := rfl
  forget {b} o h := by
    cases b <;> first | rfl | exact absurd rfl h
  given o value := by
    rw [Options.set, setValue]
    cases numberValue .level 1 value <;> rfl
  idle o := rfl

theorem settles_maxDepth : Settles Options.maxDepth .maxDepth (numberValue .maxDepth 0) where
  once := rfl
  forget {b} o h := by
    cases b <;> first | rfl | exact absurd rfl h
  given o value := by
    rw [Options.set, setValue]
    cases numberValue .maxDepth 0 value <;> rfl
  idle o := rfl

theorem settles_config : Settles Options.config .config (pathValue .config) where
  once := rfl
  forget {b} o h := by
    cases b <;> first | rfl | exact absurd rfl h
  given o value := by
    rw [Options.set, setValue]
    cases pathValue .config value <;> rfl
  idle o := rfl

end SourceSnapshot.CommandLine
