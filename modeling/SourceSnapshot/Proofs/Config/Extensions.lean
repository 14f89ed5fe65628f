import SourceSnapshot.Proofs.Config.Normal
import SourceSnapshot.Proofs.Path.FinalName
import SourceSnapshot.Proofs.Text.Utf8

/-! Extensions as they are asked for and as files have them. Both are brought to one form, the first by trimming blanks
and dots and the second by cutting a name at its last dot; they meet exactly if what is left of them is the same in
lower case. -/
namespace SourceSnapshot

theorem dotted_inj {s t : String} : dotted s = dotted t ↔ Lowercase.lower s.toList = Lowercase.lower t.toList := by
  rw [dotted, dotted, String.ofList_inj, List.cons_inj_right]

/-- A dot is read only where one stands. -/
theorem dot_notMem_decodeLossy {ext : Bytes} (h : dot ∉ ext) : '.' ∉ (Utf8.decodeLossy ext).toList := by
  intro hmem
  obtain ⟨b, hb, hdot⟩ := Utf8.mem_of_mem_decodeLossy (by decide) hmem
  obtain rfl : b = dot := UInt8.toNat_inj.1 hdot
  exact h hb

/-- A text without dots, asked for as an extension, keeps its lower-case form unless it has blanks at an end. -/
theorem lower_bareText_eq_iff {x : String} (h : '.' ∉ x.toList) :
    Lowercase.lower (bareText x) = Lowercase.lower x.toList ↔ Blank.IsTrimmed x.toList := by
  have hbare : bareText x = Blank.trim x.toList := by
    have hnone : '.' ∉ Blank.trim x.toList := fun hmem => h ((Blank.trim_sublist x.toList).mem hmem)
    rw [bareText]
    cases htrim : Blank.trim x.toList with
    | nil => rfl
    | cons c rest =>
      rw [htrim, List.mem_cons, not_or] at hnone
      exact List.dropWhile_cons_of_neg (by simpa using Ne.symm hnone.1)
  rw [hbare, ← Blank.trim_eq_self_iff]
  constructor
  · exact Lowercase.eq_of_sublist_of_lower (Blank.trim_sublist x.toList)
  · intro htrim
    rw [htrim]

namespace Config
variable {c : Config} {p : Path} {ext : Bytes}

/-- What is taken in by its extension has one, and that is included. -/
theorem includesExtension_iff : c.includesExtension p ↔
    ∃ ext, p.HasExtension ext ∧ dotted (Utf8.decodeLossy ext) ∈ c.includedExtensions := by
  simp only [← Path.bind_nameExtension?_eq_some_iff]
  rw [includesExtension, Path.dottedExtension?]
  cases p.fileName?.bind nameExtension? with
  | none => simp
  | some ext => simp [NameSet.contains_iff]

theorem includesExtension_of_hasExtension (h : p.HasExtension ext) : c.includesExtension p ↔
    dotted (Utf8.decodeLossy ext) ∈ c.includedExtensions := by
  rw [includesExtension_iff]
  constructor
  · rintro ⟨other, hother, hmem⟩
    exact h.unique hother ▸ hmem
  · intro hmem
    exact ⟨ext, h, hmem⟩

/-- A file is taken in exactly if an extension that was asked for is bare the same in lower case as its own. -/
theorem includesExtension_withExtensions_iff (h : p.HasExtension ext) (extensions : List String) :
    (c.withExtensions extensions).includesExtension p ↔ ∃ extension ∈ extensions,
      Lowercase.lower (bareText extension) = Lowercase.lower (Utf8.decodeLossy ext).toList := by
  rw [includesExtension_of_hasExtension h, withExtensions, NameSet.mem_ofList, List.mem_map]
  simp only [normalizeExtension_eq, dotted_inj, String.toList_ofList]

end Config

/-- The two ways to the form of an extension agree. The form of one that is asked for is kept when it is asked for
again; a file is taken in by its own extension unless that has blanks at an end, and by a list exactly if one of it is
bare the same in lower case; and a file without an extension is taken in by none. -/
theorem extensions_agree :
    (∀ extension, normalizeExtension (normalizeExtension extension) = normalizeExtension extension) ∧
    ∀ (c : Config) (p : Path),
      (∀ ext, p.HasExtension ext →
        ((c.withExtensions [Utf8.decodeLossy ext]).includesExtension p ↔
          Blank.IsTrimmed (Utf8.decodeLossy ext).toList) ∧
        ∀ extensions, (c.withExtensions extensions).includesExtension p ↔ ∃ extension ∈ extensions,
          Lowercase.lower (bareText extension) = Lowercase.lower (Utf8.decodeLossy ext).toList) ∧
      ((∀ name, p.EndsIn name → dot ∉ name.tail) →
        ∀ extensions, (c.withExtensions extensions).includesExtension p = false) := by
  refine ⟨normalizeExtension_normalizeExtension, fun c p => ⟨fun ext hext => ?_, fun hnone extensions => ?_⟩⟩
  · have hlist := Config.includesExtension_withExtensions_iff (c := c) hext
    obtain ⟨stem, -, hdot, -⟩ := hext
    refine ⟨?_, hlist⟩
    rw [hlist]
    simpa using lower_bareText_eq_iff (dot_notMem_decodeLossy hdot)
  · rw [← Bool.not_eq_true, Config.includesExtension_iff]
    rintro ⟨ext, ⟨stem, hstem, -, hname⟩, -⟩
    apply hnone _ hname
    rw [List.tail_append_of_ne_nil hstem]
    exact List.mem_append_right _ List.mem_cons_self

/-- A file whose extension ends in a capital sigma, under a path with idle parts at its end. -/
theorem extensions_agree_sigma :
    Path.HasExtension (.ofString "s/x.ΑΣ/.") (Utf8.encode "ΑΣ") ∧
    (Config.standard.withExtensions [Utf8.decodeLossy (Utf8.encode "ΑΣ")]).includesExtension
      (.ofString "s/x.ΑΣ/.") = true ∧
    (Config.standard.withExtensions ["md", " ..αΣ "]).includesExtension (.ofString "s/x.ΑΣ/.") = true ∧
    (Config.standard.withExtensions ["go"]).includesExtension (.ofString ".go") = false := by
  have hext : Path.HasExtension (.ofString "s/x.ΑΣ/.") (Utf8.encode "ΑΣ") :=
    ⟨Utf8.encode "x", by decide, by decide, by decide, by decide, by decide, by decide, Utf8.encode "s/", [[dot]],
      rfl, .inr ⟨Utf8.encode "s", rfl⟩, by decide⟩
  obtain ⟨hown, hlist⟩ := (extensions_agree.2 Config.standard _).1 _ hext
  refine ⟨hext, hown.2 (Blank.trim_eq_self_iff.1 (by decide +kernel)), (hlist ["md", " ..αΣ "]).2 ?_, ?_⟩
  · exact ⟨" ..αΣ ", by decide, by decide +kernel⟩
  · apply (extensions_agree.2 Config.standard _).2
    intro name hname
    obtain rfl : Utf8.encode ".go" = name := Option.some.inj (Path.fileName?_eq_some_iff.2 hname)
    decide

end SourceSnapshot
