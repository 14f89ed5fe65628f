import SourceSnapshot.Filter
import SourceSnapshot.Proofs.Config.Extensions
import SourceSnapshot.Proofs.Search.Restriction
import SourceSnapshot.Proofs.Search.Walk

/-! What is decided of a file. The name and the extension are read from its path apart from each other, and both are
settled by the final name: paths that end in one name are decided alike, and one that ends in none is never included. -/
namespace SourceSnapshot.Config
variable {c : Config} {p q : Path} {name : Bytes} {decision : Decision}

/-- A name has an extension that is included: the lower-case text behind its last dot, if that dot is not its first
byte, with a dot in front. -/
def IncludesName (c : Config) (name : Bytes) : Prop := ∃ stem ext, name = stem ++ dot :: ext ∧ stem ≠ [] ∧ dot ∉ ext ∧
  String.ofList ('.' :: Lowercase.lower (Utf8.decodeLossy ext).toList) ∈ c.includedExtensions

inductive Decides (c : Config) (name : Bytes) : Decision → Prop
  | skippedName : Utf8.decodeLossy name ∈ c.excludedFiles → Decides c name .skippedName
  | included : Utf8.decodeLossy name ∉ c.excludedFiles → c.IncludesName name → Decides c name .included
  | skippedExtension :
      Utf8.decodeLossy name ∉ c.excludedFiles → ¬ c.IncludesName name → Decides c name .skippedExtension

/-- What is decided on a file depends on its last name alone. -/
theorem decide_congr (h : p.fileName? = q.fileName?) : c.decide p = c.decide q := by
  have hname : p.fileNameLossy = q.fileNameLossy := by rw [Path.fileNameLossy, Path.fileNameLossy, h]
  have hextension : p.dottedExtension? = q.dottedExtension? := by
    rw [Path.dottedExtension?, Path.dottedExtension?, h]
  rw [decide, decide, hname, includesExtension, includesExtension, hextension]

theorem includesExtension_iff_of_endsIn (h : p.EndsIn name) : c.includesExtension p ↔ c.IncludesName name := by
  rw [includesExtension_iff]
  constructor
  · rintro ⟨ext, ⟨stem, hstem, hext, hname⟩, hmem⟩
    exact ⟨stem, ext, h.unique hname, hstem, hext, hmem⟩
  · rintro ⟨stem, ext, rfl, hstem, hext, hmem⟩
    exact ⟨ext, ⟨stem, hstem, hext, h⟩, hmem⟩

theorem isExcludedFile_iff_of_endsIn (h : p.EndsIn name) :
    c.isExcludedFile p.fileNameLossy ↔ Utf8.decodeLossy name ∈ c.excludedFiles := by
  rw [Path.fileNameLossy, Path.fileName?_eq_some_iff.2 h, isExcludedFile, NameSet.contains_iff]
  rfl

theorem decide_eq_iff_of_endsIn (h : p.EndsIn name) : c.decide p = decision ↔ c.Decides name decision := by
  have hname := isExcludedFile_iff_of_endsIn (c := c) h
  have hextension := includesExtension_iff_of_endsIn (c := c) h
  constructor
  · rintro rfl
    unfold decide
    split
    · exact .skippedName (hname.1 ‹_›)
    · split
      · exact .included (mt hname.2 ‹_›) (hextension.1 ‹_›)
      · exact .skippedExtension (mt hname.2 ‹_›) (mt hextension.2 ‹_›)
  · intro hdecides
    cases hdecides with
    | skippedName hexcluded => rw [decide, if_pos (hname.2 hexcluded)]
    | included hkept hincluded => rw [decide, if_neg (mt hname.1 hkept), if_pos (hextension.2 hincluded)]
    | skippedExtension hkept hleft => rw [decide, if_neg (mt hname.1 hkept), if_neg (mt hextension.1 hleft)]

theorem decide_ne_included (h : ∀ name, ¬ p.EndsIn name) : c.decide p ≠ .included := by
  have hextension : ¬ c.includesExtension p := by
    rw [includesExtension_iff]
    rintro ⟨ext, ⟨stem, -, -, hname⟩, -⟩
    exact h _ hname
  rw [decide, if_neg hextension]
  split <;> simp

/-- What is found is decided of by its path just as by what it is called from the root. -/
theorem decide_relative {s : Search} {file : FoundFile} (hfile : file ∈ s.files) :
    c.decide file.path = c.decide file.relative := by
  obtain ⟨hroot, -⟩ := Search.exists_entry_of_mem_files hfile
  obtain ⟨front, last, rfl, -⟩ := Search.exists_keeps_of_mem_files hfile
  have hne := List.concat_ne_nil last front
  apply decide_congr
  rw [Search.fileAt, Path.fileName?_under hroot hne, Path.fileName?_ofNames hne]

/-- Of a path with a final name just that is decided which is decided of the name: so of all paths with that name the
same, and of a file that is found the same by its path and by what it is called from the root. A path without a final
name is not included. -/
theorem decide_by_finalName (c : Config) :
    (∀ p name, p.EndsIn name → ∀ decision, c.decide p = decision ↔ c.Decides name decision) ∧
    (∀ p q name, p.EndsIn name → q.EndsIn name → c.decide p = c.decide q) ∧
    (∀ (s : Search), ∀ file ∈ s.files, c.decide file.path = c.decide file.relative) ∧
    ∀ p, (∀ name, ¬ p.EndsIn name) → c.decide p ≠ .included := by
  refine ⟨fun p name h decision => decide_eq_iff_of_endsIn h, fun p q name hp hq => ?_,
    fun s file => decide_relative, fun p => decide_ne_included⟩
  apply decide_congr
  rw [Path.fileName?_eq_some_iff.2 hp, Path.fileName?_eq_some_iff.2 hq]

/-- A name in capitals with a directory to leave before it and idle parts after it, a file that is found, and a root. -/
theorem decide_by_finalName_spelled :
    standard.decide (.ofString "a/../M.GO/./") = .included ∧
    standard.decide (.ofString "a/../M.GO/./") = standard.decide (.ofString "M.GO") ∧
    standard.decide (.ofString "./-/a") = standard.decide (.ofString "a") ∧
    standard.decide (.ofString "/") ≠ .included := by
  have hlong : Path.EndsIn (.ofString "a/../M.GO/./") (Utf8.encode "M.GO") :=
    ⟨by decide, by decide, by decide, by decide, Utf8.encode "a/../", [[dot], []], rfl,
      .inr ⟨Utf8.encode "a/..", rfl⟩, by decide⟩
  have hshort : Path.EndsIn (.ofString "M.GO") (Utf8.encode "M.GO") :=
    ⟨by decide, by decide, by decide, by decide, [], [], rfl, .inl rfl, by decide⟩
  have hincluded : standard.Decides (Utf8.encode "M.GO") .included :=
    .included (by decide +kernel) ⟨Utf8.encode "M", Utf8.encode "GO", rfl, by decide, by decide, by decide +kernel⟩
  have hfound : ⟨.ofString "./-/a", .ofString "a"⟩ ∈
      Search.files { fs := Search.dashProject, config := standard, root := .ofString "./-" } := by decide +kernel
  obtain ⟨hdecides, halike, hrelative, hnever⟩ := decide_by_finalName standard
  refine ⟨(hdecides _ _ hlong _).2 hincluded, halike _ _ _ hlong hshort, hrelative _ _ hfound, hnever _ ?_⟩
  intro name hname
  cases Path.fileName?_eq_some_iff.2 hname

end SourceSnapshot.Config
