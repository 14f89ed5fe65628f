import SourceSnapshot.FileSystem.Name

/-! Paths below a directory, and how they look from it. Names of entries have no slash and mean what
they say, so the path of an entry is read back as the parts of the directory and its names; the names
are what is left when the directory is taken off. -/
namespace SourceSnapshot

theorem cutWhere_eq_splitOnP {α : Type} (sep : α → Bool) (xs : List α) :
    cutWhere sep xs = xs.splitOnP sep := by
  induction xs with
  | nil => rfl
  | cons x xs ih =>
    rw [cutWhere] at ih ⊢
    rw [List.foldr_cons, ih, List.splitOnP_cons_eq_if_modifyHead]
    split
    · rfl
    · cases hparts : xs.splitOnP sep with
      | nil => exact absurd hparts (List.splitOnP_ne_nil sep xs)
      | cons part rest => rfl

/-- What stands on the two sides of a slash is cut each by itself. -/
theorem cutWhere_append_slash (before after : Bytes) :
    cutWhere (· == slash) (before ++ slash :: after) =
      cutWhere (· == slash) before ++ cutWhere (· == slash) after := by
  simp only [cutWhere_eq_splitOnP]
  exact List.splitOnP_append_cons before after (by decide)

theorem cutWhere_cons_of_ne {b : UInt8} (h : b ≠ slash) (rest : Bytes) :
    ∃ part later, cutWhere (· == slash) rest = part :: later ∧
      cutWhere (· == slash) (b :: rest) = (b :: part) :: later := by
  simp only [cutWhere_eq_splitOnP]
  obtain ⟨part, later, hparts⟩ := List.exists_cons_of_ne_nil (List.splitOnP_ne_nil (· == slash) rest)
  refine ⟨part, later, hparts, ?_⟩
  rw [List.splitOnP_cons_eq_if_modifyHead, if_neg (by simpa using h), hparts, List.modifyHead_cons]

theorem cutWhere_intercalate {parts : List Bytes} (hne : parts ≠ []) (h : ∀ part ∈ parts, slash ∉ part) :
    cutWhere (· == slash) ([slash].intercalate parts) = parts := by
  rw [cutWhere_eq_splitOnP, ← List.splitOn_eq_splitOnP]
  exact List.splitOn_intercalate slash h hne

namespace Name

theorem bytes_ne_nil (n : Name) : n.bytes ≠ [] := by
  have h := n.valid
  rintro he
  simp [isEntryName, he] at h

theorem slash_notMem (n : Name) : slash ∉ n.bytes := by
  have h := n.valid
  simp only [isEntryName, Bool.and_eq_true, Bool.not_eq_true', List.contains_eq_mem,
    decide_eq_false_iff_not] at h
  exact h.1.1.2

theorem not_isIdle (n : Name) : Path.isIdle n.bytes = false := by
  have h := n.valid
  simp only [isEntryName, Bool.and_eq_true, Bool.not_eq_true', bne_iff_ne] at h
  simp only [Path.isIdle, Bool.or_eq_false_iff, beq_eq_false_iff_ne]
  exact ⟨h.1.1.1.1.1, h.1.1.1.1.2⟩

theorem ne_dots (n : Name) : n.bytes ≠ [dot, dot] := by
  have h := n.valid
  simp only [isEntryName, Bool.and_eq_true, bne_iff_ne] at h
  exact h.1.1.1.2

/-- A name begins with a byte that is no slash, and is not a dot alone. -/
theorem exists_cons (n : Name) :
    ∃ b rest, n.bytes = b :: rest ∧ b ≠ slash ∧ (b = dot → ∃ c more, rest = c :: more ∧ c ≠ slash) := by
  obtain ⟨b, rest, hb⟩ := List.exists_cons_of_ne_nil n.bytes_ne_nil
  have hslash := n.slash_notMem
  have hidle := n.not_isIdle
  rw [hb] at hslash hidle
  refine ⟨b, rest, hb, fun h => hslash (h ▸ List.mem_cons_self), fun hdot => ?_⟩
  cases rest with
  | nil =>
    subst hdot
    exact absurd hidle (by decide)
  | cons c more =>
    exact ⟨c, more, rfl, fun h => hslash (h ▸ List.mem_cons_of_mem _ List.mem_cons_self)⟩

end Name

namespace Path

/-- The path of what these names lead to from the directory at `dir`. -/
def under (dir : Path) (names : List Name) : Path := names.foldl entry dir

def ofNames (names : List Name) : Path := ⟨[SourceSnapshot.slash].intercalate (names.map Name.bytes)⟩

theorem under_append (dir : Path) (names more : List Name) :
    dir.under (names ++ more) = (dir.under names).under more := List.foldl_append

theorem under_concat (dir : Path) (names : List Name) (name : Name) :
    dir.under (names ++ [name]) = (dir.under names).entry name := under_append dir names [name]

/-- What stands between a path and the name of an entry below it. -/
def gap (p : Path) : Bytes :=
  if p.bytes.getLast? = some SourceSnapshot.slash then [] else [SourceSnapshot.slash]

theorem bytes_entry {dir : Path} (h : dir.bytes ≠ []) (name : Name) :
    (dir.entry name).bytes = dir.bytes ++ dir.gap ++ name.bytes := by
  obtain ⟨b, rest, hb, hslash, -⟩ := name.exists_cons
  have habs : Path.isAbsolute ⟨name.bytes⟩ = false := by
    simp [isAbsolute, hb, hslash]
  simp only [entry, join, habs, Bool.false_eq_true, if_false, gap]
  by_cases hlast : dir.bytes.getLast? = some SourceSnapshot.slash
  · simp [hlast]
  · simp [hlast, h]

theorem gap_entry {dir : Path} (h : dir.bytes ≠ []) (name : Name) :
    (dir.entry name).gap = [SourceSnapshot.slash] := by
  have hlast : (dir.entry name).bytes.getLast? ≠ some SourceSnapshot.slash := by
    have hlast : name.bytes.getLast? = some (name.bytes.getLast name.bytes_ne_nil) :=
      List.getLast?_eq_some_getLast name.bytes_ne_nil
    rw [bytes_entry h, List.getLast?_append, hlast, Option.some_or, ← hlast]
    exact fun h => name.slash_notMem (List.mem_of_getLast? h)
  rw [gap, if_neg hlast]

/-- The names stand behind the path of the directory, with one slash between. -/
theorem bytes_under {dir : Path} (h : dir.bytes ≠ []) {names : List Name} (hne : names ≠ []) :
    (dir.under names).bytes = dir.bytes ++ dir.gap ++ (ofNames names).bytes := by
  induction names generalizing dir with
  | nil => exact absurd rfl hne
  | cons name rest ih =>
    cases rest with
    | nil => simp [under, ofNames, bytes_entry h]
    | cons next rest =>
      have hentry : (dir.entry name).bytes ≠ [] := by
        rw [bytes_entry h]
        simp [h]
      have hstep : dir.under (name :: next :: rest) = (dir.entry name).under (next :: rest) := rfl
      rw [hstep, ih hentry (List.cons_ne_nil next rest), gap_entry h, bytes_entry h]
      simp [ofNames, List.append_assoc]

def afterStart (p : Path) : Bytes := if p.start = .plain then p.bytes else p.bytes.drop 1

theorem segments_eq (p : Path) : p.segments = cutWhere (· == SourceSnapshot.slash) p.afterStart := rfl

theorem start_ofNames {names : List Name} (hne : names ≠ []) : (ofNames names).start = .plain := by
  cases names with
  | nil => exact absurd rfl hne
  | cons name rest =>
    obtain ⟨b, tail, hb, hslash, hdot⟩ := name.exists_cons
    have hbytes : ∃ later, (ofNames (name :: rest)).bytes = b :: later ∧
        (b = dot → ∃ c more, later = c :: more ∧ c ≠ SourceSnapshot.slash) := by
      refine ⟨[SourceSnapshot.slash].intercalate (tail :: rest.map Name.bytes), ?_, fun h => ?_⟩
      · simp [ofNames, hb]
      · obtain ⟨c, more, rfl, hc⟩ := hdot h
        exact ⟨c, _, List.intercalate_cons_cons_left, hc⟩
    obtain ⟨later, hlater, hfirst⟩ := hbytes
    rw [start, hlater]
    simp only [if_neg hslash]
    by_cases h : b = dot
    · obtain ⟨c, more, rfl, hc⟩ := hfirst h
      simp [hc]
    · simp [h]

theorem segments_ofNames {names : List Name} (hne : names ≠ []) :
    (ofNames names).segments = names.map Name.bytes := by
  rw [segments_eq, afterStart, if_pos (start_ofNames hne), ofNames]
  refine cutWhere_intercalate (by simpa using hne) fun part hpart => ?_
  obtain ⟨name, -, rfl⟩ := List.mem_map.1 hpart
  exact name.slash_notMem

private theorem filter_names (names : List Name) :
    (names.map Name.bytes).filter (!isIdle ·) = names.map Name.bytes := by
  rw [List.filter_eq_self]
  intro part hpart
  obtain ⟨name, -, rfl⟩ := List.mem_map.1 hpart
  rw [name.not_isIdle]
  rfl

theorem names_ofNames (names : List Name) : (ofNames names).names = names.map Name.bytes := by
  cases names with
  | nil => rfl
  | cons name rest => rw [Path.names, segments_ofNames (List.cons_ne_nil name rest), filter_names]

theorem ofNames_inj {names others : List Name} (h : ofNames names = ofNames others) : names = others := by
  have hbytes : names.map Name.bytes = others.map Name.bytes := by
    rw [← names_ofNames, ← names_ofNames, h]
  exact List.map_inj_right (fun _ _ => Name.ext_bytes) |>.1 hbytes

theorem isAbsolute_ofNames (names : List Name) : (ofNames names).isAbsolute = false := by
  cases names with
  | nil => rfl
  | cons name rest =>
    obtain ⟨b, tail, hb, hslash, -⟩ := name.exists_cons
    simp [isAbsolute, ofNames, hb, hslash]

/-- Names mean what they say. -/
theorem components_ofNames {names : List Name} (hne : names ≠ []) :
    (ofNames names).components = names.map fun name => .name name.bytes := by
  rw [components, start_ofNames hne, names_ofNames, List.map_map, List.nil_append]
  apply List.map_congr_left
  intro name _
  exact if_neg name.ne_dots

theorem start_under {dir : Path} (h : dir.bytes ≠ []) {names : List Name} (hne : names ≠ []) :
    (dir.under names).start = dir.start := by
  have hbytes := bytes_under h hne
  obtain ⟨b, rest, hb⟩ := List.exists_cons_of_ne_nil h
  cases rest with
  | nil =>
    by_cases hslash : b = SourceSnapshot.slash
    · simp [start, hbytes, hb, hslash]
    · have hgap : dir.gap = [SourceSnapshot.slash] := by simp [gap, hb, hslash]
      simp [start, hbytes, hb, hgap]
  | cons c rest => simp [start, hbytes, hb]

/-- Below a directory the parts of its path come first, idle ones perhaps left out, and then the
names. -/
theorem segments_under {dir : Path} (h : dir.bytes ≠ []) {names : List Name} (hne : names ≠ []) :
    ∃ front, (dir.under names).segments = front ++ names.map Name.bytes ∧
      front.filter (!isIdle ·) = dir.names := by
  have hnames : cutWhere (· == SourceSnapshot.slash) (ofNames names).bytes = names.map Name.bytes := by
    have := segments_ofNames hne
    rwa [segments_eq, afterStart, if_pos (start_ofNames hne)] at this
  have hafter : (dir.under names).afterStart = dir.afterStart ++ dir.gap ++ (ofNames names).bytes := by
    obtain ⟨b, rest, hb⟩ := List.exists_cons_of_ne_nil h
    rw [afterStart, afterStart, start_under h hne, bytes_under h hne, hb]
    split <;> simp
  rw [segments_eq, hafter]
  by_cases hlast : dir.bytes.getLast? = some SourceSnapshot.slash
  · obtain ⟨before, hbefore⟩ := List.getLast?_eq_some_iff.1 hlast
    rw [gap, if_pos hlast, List.append_nil]
    cases hb : before with
    | nil =>
      have hdir : dir = ⟨[SourceSnapshot.slash]⟩ := by
        cases dir
        simpa [hb] using hbefore
      subst hdir
      exact ⟨[], hnames, rfl⟩
    | cons b rest =>
      obtain ⟨kept, hkept⟩ : ∃ kept, dir.afterStart = kept ++ [SourceSnapshot.slash] := by
        rw [afterStart, hbefore, hb]
        split
        · exact ⟨b :: rest, rfl⟩
        · exact ⟨rest, rfl⟩
      refine ⟨cutWhere (· == SourceSnapshot.slash) kept, ?_, ?_⟩
      · rw [hkept, List.append_assoc, List.singleton_append, cutWhere_append_slash, hnames]
      · rw [Path.names, segments_eq, hkept, cutWhere_append_slash, List.filter_append]
        exact (List.append_nil _).symm
  · rw [gap, if_neg hlast, List.append_assoc, List.singleton_append, cutWhere_append_slash, hnames]
    exact ⟨dir.segments, rfl, rfl⟩

/-- A path whose parts end with names is called, at the end, by the last of them. -/
theorem fileName?_of_names {p : Path} {front : List Bytes} {names : List Name} (hne : names ≠ [])
    (h : p.names = front ++ names.map Name.bytes) : p.fileName? = names.getLast?.map Name.bytes := by
  have hlast : p.names.getLast? = some (names.getLast hne).bytes := by
    rw [h, List.getLast?_append, List.getLast?_map, List.getLast?_eq_some_getLast hne, Option.map_some,
      Option.some_or]
  rw [fileName?, hlast, List.getLast?_eq_some_getLast hne, Option.map_some]
  exact if_neg (names.getLast hne).ne_dots

theorem fileName?_ofNames {names : List Name} (hne : names ≠ []) :
    (ofNames names).fileName? = names.getLast?.map Name.bytes := by
  have hnames : (ofNames names).names = [] ++ names.map Name.bytes := names_ofNames names
  exact fileName?_of_names hne hnames

theorem fileName?_under {dir : Path} (h : dir.bytes ≠ []) {names : List Name} (hne : names ≠ []) :
    (dir.under names).fileName? = names.getLast?.map Name.bytes := by
  obtain ⟨front, hsegments, -⟩ := segments_under h hne
  apply fileName?_of_names hne
  rw [Path.names, hsegments, List.filter_append, filter_names]

/-- Names are taken off the parts that hold them; only idle parts are left before the rest. -/
theorem takeNames_append (front back : List Bytes) :
    ∃ left, takeNames (front.filter (!isIdle ·)) (front ++ back) = some (left ++ back) ∧
      ∀ part ∈ left, isIdle part := by
  induction front with
  | nil => exact ⟨[], rfl, fun part hpart => absurd hpart List.not_mem_nil⟩
  | cons part front ih =>
    obtain ⟨left, htake, hleft⟩ := ih
    by_cases hidle : isIdle part
    · rw [List.filter_cons_of_neg (by simpa using hidle)]
      cases hnames : front.filter (!isIdle ·) with
      | nil =>
        refine ⟨part :: front, rfl, fun other hother => ?_⟩
        rcases List.mem_cons.1 hother with rfl | hother
        · exact hidle
        · simpa using List.filter_eq_nil_iff.1 hnames other hother
      | cons name names =>
        rw [hnames] at htake
        refine ⟨left, ?_, hleft⟩
        rw [← htake, takeNames, takeNames, List.cons_append, List.dropWhile_cons_of_pos hidle]
    · rw [List.filter_cons_of_pos (by simpa using hidle), List.cons_append, takeNames,
        List.dropWhile_cons_of_neg hidle]
      exact ⟨left, by simpa using htake, hleft⟩

/-- A path that is not empty and starts with its first part has a part that means something. -/
theorem names_ne_nil {p : Path} (h : p.bytes ≠ []) (hstart : p.start = .plain) : p.names ≠ [] := by
  obtain ⟨b, rest, hb⟩ := List.exists_cons_of_ne_nil h
  have hslash : b ≠ SourceSnapshot.slash := by
    rintro rfl
    simp [start, hb] at hstart
  obtain ⟨part, later, hrest, hcut⟩ := cutWhere_cons_of_ne hslash rest
  have hidle : isIdle (b :: part) = false := by
    simp only [isIdle, List.isEmpty_cons, Bool.false_or, beq_eq_false_iff_ne]
    intro he
    obtain ⟨rfl, rfl⟩ := List.cons.inj he
    cases rest with
    | nil => simp [start, hb, hslash] at hstart
    | cons c more =>
      by_cases hc : c = SourceSnapshot.slash
      · simp [start, hb, hslash, hc] at hstart
      · obtain ⟨_, _, -, hcons⟩ := cutWhere_cons_of_ne hc more
        rw [hcons] at hrest
        cases hrest
  rw [Path.names, segments_eq, afterStart, if_pos hstart, hb, hcut,
    List.filter_cons_of_pos (by rw [hidle]; rfl)]
  exact List.cons_ne_nil _ _

/-- From the path of what lies below a directory the directory can be taken off; its names are left. -/
theorem stripPrefix?_under {dir : Path} (h : dir.bytes ≠ []) {names : List Name} (hne : names ≠ []) :
    (dir.under names).stripPrefix? dir = some (ofNames names) := by
  obtain ⟨front, hsegments, hfront⟩ := segments_under h hne
  obtain ⟨left, htake, hleft⟩ := takeNames_append front (names.map Name.bytes)
  have hplain : ¬ (dir.start = .plain ∧ dir.names = []) := fun hp => names_ne_nil h hp.1 hp.2
  rw [stripPrefix?, if_neg hplain, if_pos (start_under h hne).symm, hsegments, ← hfront, htake]
  have hkeep {parts : List Bytes} (hparts : ∀ part ∈ parts, isIdle part = false) :
      parts.dropWhile isIdle = parts := by
    cases parts with
    | nil => rfl
    | cons part parts => exact List.dropWhile_cons_of_neg (by simp [hparts])
  have hnames : ∀ part ∈ names.map Name.bytes, isIdle part = false := by
    intro part hpart
    obtain ⟨name, -, rfl⟩ := List.mem_map.1 hpart
    exact name.not_isIdle
  have hend : dropWhileEnd isIdle (names.map Name.bytes) = names.map Name.bytes := by
    rw [dropWhileEnd, hkeep fun part hpart => hnames part (List.mem_reverse.1 hpart),
      List.reverse_reverse]
  rw [Option.map_some, List.dropWhile_append_of_pos hleft, hkeep hnames, hend]
  rfl

/-- Seen from a directory, what lies below it is called by its names. -/
theorem relativeTo_under {dir : Path} (h : dir.bytes ≠ []) {names : List Name} (hne : names ≠ []) :
    (dir.under names).relativeTo dir = ofNames names := by
  rw [relativeTo, stripPrefix?_under h hne, Option.getD_some]

end Path
end SourceSnapshot
