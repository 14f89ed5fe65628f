import SourceSnapshot.Config.Basic
import SourceSnapshot.Proofs.Text.Blank
import SourceSnapshot.Proofs.Text.Lowercase

/-! Configurations in normal form. An extension in normal form is left as it is, and whatever changes a
configuration keeps its extensions in normal form; so the standard configuration stays in it, changed in any
way and any number of times. -/
namespace SourceSnapshot

/-- A text in lower case behind one dot, which neither begins with another nor ends with a blank, is an extension in
normal form. -/
theorem normalizeExtension_of_lower {s : List Char} (hlower : Lowercase.lower s = s) (hdot : s.head? ≠ some '.')
    (hlast : ∀ x, s.getLast? = some x → Blank.isBlank x = false) :
    normalizeExtension (String.ofList ('.' :: s)) = String.ofList ('.' :: s) := by
  have htrim : Blank.trim ('.' :: s) = '.' :: s := by
    apply Blank.IsTrimmed.trim_eq
    constructor
    · rintro x ⟨rfl⟩
      rfl
    · intro x hx
      cases s with
      | nil =>
        obtain rfl : '.' = x := Option.some.inj hx
        rfl
      | cons c rest => exact hlast x (by rwa [List.getLast?_cons_cons] at hx)
  have hdrop : ('.' :: s).dropWhile (· == '.') = s := by
    rw [List.dropWhile_cons_of_pos (by rfl)]
    cases s with
    | nil => rfl
    | cons c rest =>
      apply List.dropWhile_cons_of_neg
      rintro hc
      exact hdot (congrArg some (eq_of_beq hc))
  rw [normalizeExtension, String.toList_ofList, htrim, hdrop, dotted, String.toList_ofList, hlower]

/-- What counts of an extension as it is asked for: its text without blanks around it and dots in front. -/
def bareText (extension : String) : List Char := (Blank.trim extension.toList).dropWhile (· == '.')

theorem normalizeExtension_eq (extension : String) :
    normalizeExtension extension = dotted (String.ofList (bareText extension)) := rfl

theorem head?_bareText (extension : String) : (bareText extension).head? ≠ some '.' := by
  intro hdot
  have hfirst := List.head?_dropWhile_not (· == '.') (Blank.trim extension.toList)
  rw [show (List.dropWhile _ _).head? = some '.' from hdot] at hfirst
  simp at hfirst

theorem getLast?_bareText (extension : String) :
    ∀ x, (bareText extension).getLast? = some x → Blank.isBlank x = false := by
  intro x hx
  have hsplit := List.takeWhile_append_dropWhile (p := (· == '.')) (l := Blank.trim extension.toList)
  apply (Blank.isTrimmed_trim extension.toList).last
  rw [← hsplit, List.getLast?_append, show (List.dropWhile _ _).getLast? = some x from hx, Option.some_or]

theorem normalizeExtension_normalizeExtension (extension : String) :
    normalizeExtension (normalizeExtension extension) = normalizeExtension extension := by
  rw [normalizeExtension_eq extension, dotted, String.toList_ofList]
  apply normalizeExtension_of_lower
  · exact Lowercase.lower_lower (bareText extension)
  · exact Lowercase.head?_lowerAfter (head?_bareText extension)
  · exact Lowercase.getLast?_lowerAfter (getLast?_bareText extension)

namespace NameSet
variable {s t : NameSet} {f : String → String}

/-- A set is settled by its members. -/
theorem ext_mem (h : ∀ x, x ∈ s ↔ x ∈ t) : s = t := by
  have hnodup (s : NameSet) : s.toList.Nodup := s.increasing.imp fun hlt => String.ne_of_lt hlt
  have hperm := (List.perm_ext_iff_of_nodup (hnodup s) (hnodup t)).2 h
  apply ext_toList
  apply hperm.eq_of_pairwise _ s.increasing t.increasing
  intro a b _ _ hab hba
  exact absurd hba (String.lt_asymm hab)

@[simp] theorem mem_ofList {names : List String} {x : String} : x ∈ ofList names ↔ x ∈ names := by
  have hempty : x ∉ empty := List.not_mem_nil
  simp [ofList, hempty]

theorem ofList_toList (s : NameSet) : ofList s.toList = s := by
  apply ext_mem
  intro x
  exact mem_ofList

theorem mem_map {x : String} : x ∈ s.map f ↔ ∃ y ∈ s, f y = x := by
  rw [map, mem_ofList, List.mem_map]
  rfl

/-- Names that a function leaves alone make up a set that it leaves alone. -/
theorem map_eq_self (h : ∀ x ∈ s, f x = x) : s.map f = s := by
  apply ext_mem
  intro x
  rw [mem_map]
  constructor
  · rintro ⟨y, hy, rfl⟩
    rwa [h y hy]
  · intro hx
    exact ⟨x, hx, h x hx⟩

end NameSet

/-- One change to a configuration. -/
inductive Change
  | withExtensions (extensions : List String)
  | excludeDirs (names : List String)
  | excludeFiles (names : List String)

namespace Config

def change (c : Config) : Change → Config
  | .withExtensions extensions => c.withExtensions extensions
  | .excludeDirs names => c.excludeDirs names
  | .excludeFiles names => c.excludeFiles names

/-- The standard configuration after some changes, one after another. -/
def changed (changes : List Change) : Config := changes.foldl change standard

def IsNormal (c : Config) : Prop := ∀ extension ∈ c.includedExtensions, normalizeExtension extension = extension

theorem IsNormal.normalized_eq {c : Config} (h : c.IsNormal) : c.normalized = c := by
  rw [normalized, NameSet.map_eq_self h]

theorem isNormal_normalized (c : Config) : c.normalized.IsNormal := by
  intro extension hextension
  obtain ⟨other, -, rfl⟩ := NameSet.mem_map.1 hextension
  exact normalizeExtension_normalizeExtension other

theorem isNormal_standard : standard.IsNormal := by
  have hall : standard.includedExtensions.toList.all (fun name => normalizeExtension name == name) = true := by
    decide +kernel
  intro extension hextension
  exact eq_of_beq (List.all_eq_true.1 hall extension hextension)

theorem IsNormal.change {c : Config} (h : c.IsNormal) (change : Change) : (c.change change).IsNormal := by
  cases change with
  | withExtensions extensions =>
    intro extension hextension
    obtain ⟨other, -, rfl⟩ := List.mem_map.1 (NameSet.mem_ofList.1 hextension)
    exact normalizeExtension_normalizeExtension other
  | excludeDirs names => exact h
  | excludeFiles names => exact h

theorem IsNormal.foldl {c : Config} (h : c.IsNormal) (changes : List Change) :
    (changes.foldl Config.change c).IsNormal := by
  induction changes generalizing c with
  | nil => exact h
  | cons change changes ih => exact ih (h.change change)

theorem isNormal_changed (changes : List Change) : (changed changes).IsNormal := isNormal_standard.foldl changes

end Config
end SourceSnapshot
