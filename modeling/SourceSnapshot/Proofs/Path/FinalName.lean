import SourceSnapshot.Proofs.Path.Steps

/-! The final name of a path and its extension, as they stand in the bytes. A name is final if nothing follows it but
slashes and single dots, and its extension is what follows its last dot, unless that dot comes first; so two paths that
end alike have one final name, whatever stands before it. -/
namespace SourceSnapshot

theorem intercalate_cons_eq_flatMap (part : Bytes) (parts : List Bytes) :
    [slash].intercalate (part :: parts) = part ++ parts.flatMap (slash :: ·) := by
  induction parts generalizing part with
  | nil => simp
  | cons next parts ih => rw [List.intercalate_cons_cons, ih, List.flatMap_cons, List.append_assoc]; rfl

namespace Path
variable {p q : Path} {name ext : Bytes}

/-- A path ends in a name: a part between slashes that is neither `.` nor `..`, and after which there are only empty
parts and single dots. -/
structure EndsIn (p : Path) (name : Bytes) : Prop where
  ne_nil : name ≠ []
  ne_here : name ≠ [dot]
  ne_parent : name ≠ [dot, dot]
  slash_notMem : SourceSnapshot.slash ∉ name
  last : ∃ (front : Bytes) (idle : List Bytes),
    p.bytes = front ++ name ++ idle.flatMap (SourceSnapshot.slash :: ·) ∧
      (front = [] ∨ ∃ before, front = before ++ [SourceSnapshot.slash]) ∧ ∀ part ∈ idle, part = [] ∨ part = [dot]

/-- A path has an extension: the text after the last dot of its final name, before which the name has more. -/
def HasExtension (p : Path) (ext : Bytes) : Prop :=
  ∃ stem, stem ≠ [] ∧ dot ∉ ext ∧ p.EndsIn (stem ++ dot :: ext)

theorem isIdle_iff {part : Bytes} : isIdle part ↔ part = [] ∨ part = [dot] := by
  simp [isIdle]

/-- The parts of a path that mean something are those of its text. -/
theorem names_eq (p : Path) : p.names = (cutWhere (· == SourceSnapshot.slash) p.bytes).filter (!isIdle ·) := by
  rw [names, segments_eq, afterStart]
  cases hstart : p.start with
  | plain => rfl
  | root =>
    obtain ⟨rest, hrest⟩ := exists_of_start_root hstart
    have hcut := cutWhere_append_slash [] rest
    rw [List.nil_append] at hcut
    rw [hrest, hcut]
    rfl
  | here =>
    obtain ⟨rest, hrest, rfl | ⟨more, rfl⟩⟩ := exists_of_start_here hstart
    · rw [hrest]
      rfl
    · have hcut := cutWhere_append_slash [] more
      have hcut' := cutWhere_append_slash [dot] more
      rw [List.nil_append] at hcut
      rw [List.singleton_append] at hcut'
      rw [hrest, hcut', if_neg (by decide), List.drop_one, List.tail_cons, hcut]
      rfl

/-- The last part that means something, and the idle parts after it. -/
theorem getLast?_names_eq_some_iff : p.names.getLast? = some name ↔ ∃ front idle,
    cutWhere (· == SourceSnapshot.slash) p.bytes = front ++ name :: idle ∧ isIdle name = false ∧
      ∀ part ∈ idle, isIdle part := by
  rw [names_eq, List.getLast?_eq_some_iff]
  constructor
  · rintro ⟨names, hnames⟩
    obtain ⟨front, back, hcut, -, hback⟩ := List.filter_eq_append_iff.1 hnames
    obtain ⟨skipped, idle, rfl, -, hname, hidle⟩ := List.filter_eq_cons_iff.1 hback
    refine ⟨front ++ skipped, idle, ?_, by simpa using hname, fun part hpart => ?_⟩
    · rw [hcut, List.append_assoc]
    · simpa using List.filter_eq_nil_iff.1 hidle part hpart
  · rintro ⟨front, idle, hcut, hname, hidle⟩
    have hnone : idle.filter (!isIdle ·) = [] := List.filter_eq_nil_iff.2 fun part hpart => by simp [hidle part hpart]
    refine ⟨front.filter (!isIdle ·), ?_⟩
    rw [hcut, List.filter_append, List.filter_cons_of_pos (by simp [hname]), hnone]

theorem fileName?_eq_some_iff : p.fileName? = some name ↔ p.EndsIn name := by
  have hlast : p.fileName? = some name ↔ p.names.getLast? = some name ∧ name ≠ [dot, dot] := by
    unfold fileName?
    grind
  rw [hlast, getLast?_names_eq_some_iff]
  constructor
  · rintro ⟨⟨front, idle, hcut, hname, hidle⟩, hparent⟩
    have hbytes : p.bytes = [SourceSnapshot.slash].intercalate (front ++ name :: idle) := by
      rw [← hcut, cutWhere_eq_splitOnP, ← List.splitOn_eq_splitOnP, List.intercalate_splitOn]
    have hnot : name ≠ [] ∧ name ≠ [dot] := not_or.1 fun h => by simp [isIdle_iff.2 h] at hname
    have hslash := slash_notMem_of_mem_cutWhere (hcut ▸ List.mem_append_right front List.mem_cons_self)
    refine ⟨hnot.1, hnot.2, hparent, hslash, ?_⟩
    cases front with
    | nil =>
      refine ⟨[], idle, ?_, .inl rfl, fun part hpart => isIdle_iff.1 (hidle part hpart)⟩
      rw [hbytes, List.nil_append, intercalate_cons_eq_flatMap, List.nil_append]
    | cons first front =>
      refine ⟨first ++ front.flatMap (SourceSnapshot.slash :: ·) ++ [SourceSnapshot.slash], idle, ?_, .inr ⟨_, rfl⟩,
        fun part hpart => isIdle_iff.1 (hidle part hpart)⟩
      rw [hbytes, List.cons_append, intercalate_cons_eq_flatMap, List.flatMap_append, List.flatMap_cons]
      simp
  · rintro ⟨hnil, hhere, hparent, hslash, front, idle, hbytes, hfront, hidle⟩
    have hback : cutWhere (· == SourceSnapshot.slash) (name ++ idle.flatMap (SourceSnapshot.slash :: ·)) =
        name :: idle := by
      rw [← intercalate_cons_eq_flatMap]
      apply cutWhere_intercalate (List.cons_ne_nil name idle)
      intro part hpart
      rcases List.mem_cons.1 hpart with rfl | hpart
      · exact hslash
      · rcases hidle part hpart with rfl | rfl <;> decide
    have hname : isIdle name = false := Bool.eq_false_iff.2 fun h => not_or.2 ⟨hnil, hhere⟩ (isIdle_iff.1 h)
    refine ⟨?_, hparent⟩
    rcases hfront with rfl | ⟨before, rfl⟩
    · exact ⟨[], idle, by rw [hbytes, List.nil_append, hback, List.nil_append], hname,
        fun part hpart => isIdle_iff.2 (hidle part hpart)⟩
    · refine ⟨cutWhere (· == SourceSnapshot.slash) before, idle, ?_, hname,
        fun part hpart => isIdle_iff.2 (hidle part hpart)⟩
      rw [hbytes, List.append_assoc, List.append_assoc, List.singleton_append, cutWhere_append_slash, hback]

theorem EndsIn.unique {other : Bytes} (h : p.EndsIn name) (hother : p.EndsIn other) : name = other :=
  Option.some.inj ((fileName?_eq_some_iff.2 h).symm.trans (fileName?_eq_some_iff.2 hother))

end Path

/-- The extension of a name stands after its last dot, and that dot is not the first byte of the name. -/
theorem nameExtension?_eq_some_iff {name ext : Bytes} :
    nameExtension? name = some ext ↔ ∃ stem, name = stem ++ dot :: ext ∧ stem ≠ [] ∧ dot ∉ ext := by
  have hsplit := List.takeWhile_append_dropWhile (p := (· != dot)) (l := name.reverse)
  constructor
  · intro h
    unfold nameExtension? at h
    split at h
    · cases h
    · rename_i b before hdrop
      split at h
      · cases h
      · rename_i hbefore
        obtain rfl := Option.some.inj h
        obtain rfl : b = dot := by
          have hhead := List.head?_dropWhile_not (· != dot) name.reverse
          rw [hdrop] at hhead
          simpa using hhead
        refine ⟨before.reverse, ?_, by simpa using hbefore, fun hmem => ?_⟩
        · calc name = name.reverse.reverse := (List.reverse_reverse name).symm
            _ = (name.reverse.takeWhile (· != dot) ++ dot :: before).reverse := by rw [← hdrop, hsplit]
            _ = before.reverse ++ dot :: (name.reverse.takeWhile (· != dot)).reverse := by simp
        · have hne := List.all_eq_true.1 List.all_takeWhile dot (List.mem_reverse.1 hmem)
          simp at hne
  · rintro ⟨stem, rfl, hstem, hext⟩
    have hkeep : ∀ b ∈ ext.reverse, (b != dot) = true := fun b hb =>
      bne_iff_ne.2 fun heq => hext (heq ▸ List.mem_reverse.1 hb)
    have hreverse : (stem ++ dot :: ext).reverse = ext.reverse ++ dot :: stem.reverse := by simp
    rw [nameExtension?, hreverse, List.dropWhile_append_of_pos hkeep, List.takeWhile_append_of_pos hkeep]
    simp [hstem]

namespace Path
variable {p : Path} {ext : Bytes}

theorem bind_nameExtension?_eq_some_iff : p.fileName?.bind nameExtension? = some ext ↔ p.HasExtension ext := by
  simp only [Option.bind_eq_some_iff, fileName?_eq_some_iff, nameExtension?_eq_some_iff, HasExtension]
  constructor
  · rintro ⟨name, hname, stem, rfl, hstem, hext⟩
    exact ⟨stem, hstem, hext, hname⟩
  · rintro ⟨stem, hstem, hext, hname⟩
    exact ⟨_, hname, stem, rfl, hstem, hext⟩

theorem HasExtension.unique {other : Bytes} (h : p.HasExtension ext) (hother : p.HasExtension other) : ext = other :=
  Option.some.inj ((bind_nameExtension?_eq_some_iff.2 h).symm.trans (bind_nameExtension?_eq_some_iff.2 hother))

end Path
end SourceSnapshot
