import SourceSnapshot.FileSystem.Basic
import SourceSnapshot.Proofs.Path.Relative

/-! The steps of a path, beside those of other paths. A path goes where its parent goes and then takes one
step more, and some that lead nowhere; what lies below a directory is reached by the steps of the directory
and then by the names. -/
namespace SourceSnapshot

theorem exists_dropWhileEnd {α : Type} (p : α → Bool) (xs : List α) :
    ∃ dropped, xs = dropWhileEnd p xs ++ dropped ∧ (∀ x ∈ dropped, p x) ∧
      ∀ x, (dropWhileEnd p xs).getLast? = some x → p x = false := by
  refine ⟨(xs.reverse.takeWhile p).reverse, ?_, fun x hx => ?_, fun x hx => ?_⟩
  · rw [dropWhileEnd, ← List.reverse_append, List.takeWhile_append_dropWhile, List.reverse_reverse]
  · exact List.all_eq_true.1 List.all_takeWhile x (List.mem_reverse.1 hx)
  · rw [dropWhileEnd, List.getLast?_reverse] at hx
    have := List.head?_dropWhile_not p xs.reverse
    rw [hx] at this
    simpa using this

private theorem intercalate_append {α : Type} (sep : List α) {front more : List (List α)} (hfront : front ≠ [])
    (hmore : more ≠ []) :
    sep.intercalate (front ++ more) = sep.intercalate front ++ sep ++ sep.intercalate more := by
  induction front with
  | nil => exact absurd rfl hfront
  | cons part front ih =>
    cases front with
    | nil => rw [List.singleton_append, List.intercalate_cons_of_ne_nil hmore, List.intercalate_singleton]
    | cons next front =>
      have hnext := ih (List.cons_ne_nil next front)
      rw [List.cons_append, List.intercalate_cons_of_ne_nil (by simp), hnext, List.intercalate_cons_cons]
      simp only [List.append_assoc]

private theorem getLast?_intercalate {α : Type} (sep : List α) (front : List (List α)) {last : List α}
    (h : last ≠ []) : (sep.intercalate (front ++ [last])).getLast? = last.getLast? := by
  cases front with
  | nil => rw [List.nil_append, List.intercalate_singleton]
  | cons part front =>
    rw [intercalate_append sep (List.cons_ne_nil part front) (List.cons_ne_nil last []),
      List.intercalate_singleton, List.getLast?_append, List.getLast?_eq_some_getLast h, Option.some_or]

theorem slash_notMem_of_mem_cutWhere {bytes part : Bytes} (h : part ∈ cutWhere (· == slash) bytes) :
    slash ∉ part := by
  induction bytes generalizing part with
  | nil =>
    obtain rfl := List.mem_singleton.1 h
    exact List.not_mem_nil
  | cons b rest ih =>
    by_cases hb : b = slash
    · subst hb
      have hcut : cutWhere (· == slash) (slash :: rest) = [] :: cutWhere (· == slash) rest :=
        cutWhere_append_slash [] rest
      rw [hcut] at h
      rcases List.mem_cons.1 h with rfl | h
      · exact List.not_mem_nil
      · exact ih h
    · obtain ⟨first, later, hrest, hcut⟩ := cutWhere_cons_of_ne hb rest
      rw [hrest] at ih
      rw [hcut] at h
      rcases List.mem_cons.1 h with rfl | h
      · rw [List.mem_cons, not_or]
        exact ⟨Ne.symm hb, ih List.mem_cons_self⟩
      · exact ih (List.mem_cons_of_mem first h)

namespace Path
variable {p dir : Path} {steps : List PathStep}

/-- The steps of a path without what a slash at its end asks for. -/
def bareSteps (p : Path) : List PathStep :=
  ((cutWhere (· == SourceSnapshot.slash) p.bytes).filter (!·.isEmpty)).map stepOf

theorem bareSteps_append_slash (bytes : Bytes) :
    bareSteps ⟨bytes ++ [SourceSnapshot.slash]⟩ = bareSteps ⟨bytes⟩ := by
  rw [bareSteps, cutWhere_append_slash, List.filter_append, List.map_append]
  exact List.append_nil _

theorem steps_eq_ok_iff : p.steps = .ok steps ↔ (0 ∉ p.bytes ∧ p.bytes ≠ []) ∧
    steps = if p.bytes.getLast? = some SourceSnapshot.slash then p.bareSteps ++ [.slash]
      else p.bareSteps := by
  unfold Path.steps
  by_cases hzero : 0 ∈ p.bytes
  · rw [if_pos (by simpa using hzero)]
    exact ⟨nofun, fun h => absurd hzero h.1.1⟩
  · rw [if_neg (by simpa using hzero)]
    by_cases hempty : p.bytes = []
    · rw [if_pos (by simpa using hempty)]
      exact ⟨nofun, fun h => absurd hempty h.1.2⟩
    · rw [if_neg (by simpa using hempty), Except.ok.injEq, eq_comm, bareSteps]
      simp only [hzero, hempty, beq_iff_eq, not_false_eq_true, ne_eq, true_and, and_self]

theorem stepsWithin_eq_ok_iff :
    p.stepsWithin = .ok steps ↔ p.steps = .ok steps ∧ p.isTooLong = false := by
  unfold stepsWithin
  cases p.steps with
  | error e => simp [Bind.bind, Except.bind]
  | ok found => cases p.isTooLong <;> simp [Bind.bind, Except.bind]

theorem stepOf_ne_slash (segment : Bytes) : stepOf segment ≠ .slash := by
  unfold stepOf
  split
  · exact nofun
  · split
    · exact nofun
    · split <;> exact nofun

theorem slash_notMem_bareSteps (p : Path) : .slash ∉ p.bareSteps := by
  intro h
  obtain ⟨segment, -, hslash⟩ := List.mem_map.1 h
  exact stepOf_ne_slash segment hslash

/-- The only slash among the steps of a path is the last. -/
theorem stepsWithin_cases (h : p.stepsWithin = .ok steps) :
    steps.filter (· != .slash) = p.bareSteps ∧ (steps = p.bareSteps ∨ steps = p.bareSteps ++ [.slash]) := by
  have hbare : p.bareSteps.filter (· != .slash) = p.bareSteps := List.filter_eq_self.2 fun step hstep =>
    bne_iff_ne.2 fun hslash => slash_notMem_bareSteps p (hslash ▸ hstep)
  obtain ⟨-, rfl⟩ := steps_eq_ok_iff.1 (stepsWithin_eq_ok_iff.1 h).1
  split
  · refine ⟨?_, .inr rfl⟩
    rw [List.filter_append, hbare]
    exact List.append_nil _
  · exact ⟨hbare, .inl rfl⟩

theorem exists_of_start_root (h : p.start = .root) : ∃ rest, p.bytes = SourceSnapshot.slash :: rest := by
  unfold start at h
  split at h
  · cases h
  · rename_i b rest hb
    split at h
    · rename_i hroot
      exact ⟨rest, hroot ▸ hb⟩
    · split at h <;> cases h

theorem exists_of_start_here (h : p.start = .here) : ∃ rest, p.bytes = dot :: rest ∧
    (rest = [] ∨ ∃ more, rest = SourceSnapshot.slash :: more) := by
  unfold start at h
  split at h
  · cases h
  · rename_i b rest hb
    split at h
    · cases h
    · split at h
      · rename_i hdot
        simp only [Bool.and_eq_true, decide_eq_true_eq, Bool.or_eq_true, List.isEmpty_iff,
          beq_iff_eq] at hdot
        refine ⟨rest, by rw [hb, hdot.1], hdot.2.imp_right fun hslash => ?_⟩
        cases rest with
        | nil => cases hslash
        | cons c more => exact ⟨more, by rw [Option.some.inj hslash]⟩
      · cases h

theorem build_segments (p : Path) : build p.start p.segments = p := by
  have hbytes : Start.text p.start ++ p.afterStart = p.bytes := by
    unfold afterStart
    cases hstart : p.start with
    | plain => simp [Start.text]
    | root =>
      obtain ⟨rest, hb⟩ := exists_of_start_root hstart
      simp [Start.text, hb]
    | here =>
      obtain ⟨rest, hb, -⟩ := exists_of_start_here hstart
      simp [Start.text, hb]
  cases p
  simp only [build, segments_eq, cutWhere_eq_splitOnP, ← List.splitOn_eq_splitOnP,
    List.intercalate_splitOn, hbytes]

/-- What is not the root has its parent and a slash in front of its last part. -/
theorem exists_tail_of_parent? (h : p.parent? = some dir) (hne : dir.bytes ≠ [])
    (hroot : dir.bytes ≠ [SourceSnapshot.slash]) : ∃ idle last more,
    p.bytes = dir.bytes ++ SourceSnapshot.slash :: [SourceSnapshot.slash].intercalate (idle ++ last :: more) ∧
      (∀ part ∈ idle ++ more, isIdle part) ∧ isIdle last = false ∧
      (∀ part ∈ idle ++ last :: more, SourceSnapshot.slash ∉ part) ∧
      dir.bytes.getLast? ≠ some SourceSnapshot.slash := by
  obtain ⟨more, hsegments, hmore, hlast⟩ := exists_dropWhileEnd isIdle p.segments
  unfold parent? at h
  extract_lets kept at h
  change p.segments = kept ++ more at hsegments
  change ∀ part, kept.getLast? = some part → isIdle part = false at hlast
  rcases List.eq_nil_or_concat kept with hkept | ⟨upper, last, hkept⟩
  · rw [hkept, if_pos List.isEmpty_nil] at h
    split at h
    · obtain rfl := Option.some.inj h
      exact absurd rfl hne
    · cases h
  rw [List.concat_eq_append] at hkept
  obtain ⟨idle, hupper, hidle, hfront⟩ := exists_dropWhileEnd isIdle upper
  rw [hkept, if_neg (by simp), List.dropLast_concat, Option.some.injEq] at h
  generalize dropWhileEnd isIdle upper = front at h hupper hfront
  have hlast' : isIdle last = false := hlast last (by rw [hkept, List.getLast?_concat])
  have hparts : p.segments = front ++ (idle ++ last :: more) := by
    rw [hsegments, hkept, hupper]
    simp only [List.append_assoc, List.singleton_append]
  have hslash : ∀ part ∈ front ++ (idle ++ last :: more), SourceSnapshot.slash ∉ part := fun part hpart =>
    slash_notMem_of_mem_cutWhere (segments_eq p ▸ hparts ▸ hpart)
  have hidles : ∀ part ∈ idle ++ more, isIdle part := fun part hpart =>
    (List.mem_append.1 hpart).elim (hidle part) (hmore part)
  have hbytes : p.bytes = Start.text p.start ++
      [SourceSnapshot.slash].intercalate (front ++ (idle ++ last :: more)) := by
    rw [← hparts]
    exact congrArg Path.bytes (build_segments p).symm
  subst h
  rcases List.eq_nil_or_concat front with hnil | ⟨init, final, hconcat⟩
  · -- only a dot of its own is in front of the last part
    subst hnil
    cases hstart : p.start with
    | plain => simp [build, hstart, Start.text] at hne
    | root => simp [build, hstart, Start.text] at hroot
    | here =>
      obtain ⟨rest, hrest, hfirst⟩ := exists_of_start_here hstart
      have hcut : cutWhere (· == SourceSnapshot.slash) rest = idle ++ last :: more := by
        rw [← List.nil_append (idle ++ last :: more), ← hparts, segments_eq, afterStart, if_neg (by simp [hstart]),
          hrest]
        rfl
      have hempty : ∃ later, cutWhere (· == SourceSnapshot.slash) rest = [] :: later := by
        rcases hfirst with rfl | ⟨after, rfl⟩
        · exact ⟨[], rfl⟩
        · exact ⟨_, cutWhere_append_slash [] after⟩
      obtain ⟨later, hlater⟩ := hempty
      rw [hlater] at hcut
      have hidle : ∃ idle', idle = [] :: idle' := by
        cases idle with
        | nil =>
          rw [← (List.cons.inj hcut).1] at hlast'
          cases hlast'
        | cons first idle' => exact ⟨idle', by rw [(List.cons.inj hcut).1]⟩
      obtain ⟨idle', rfl⟩ := hidle
      refine ⟨idle', last, more, ?_, fun part hpart => hidles part (List.mem_cons_of_mem [] hpart), hlast',
        fun part hpart => hslash part (List.mem_cons_of_mem [] hpart), ?_⟩
      · rw [hbytes, hstart, List.nil_append, List.cons_append, List.intercalate_cons_of_ne_nil (by simp)]
        simp [build, Start.text]
      · simp [build, Start.text, dot, SourceSnapshot.slash]
  · rw [List.concat_eq_append] at hconcat
    have hfinal : final ≠ [] := by
      rintro rfl
      have := hfront [] (by rw [hconcat, List.getLast?_concat])
      cases this
    refine ⟨idle, last, more, ?_, hidles, hlast', fun part hpart =>
      hslash part (List.mem_append_right _ hpart), ?_⟩
    · rw [hbytes, intercalate_append _ (by simp [hconcat]) (by simp), build]
      simp only [List.append_assoc, List.singleton_append]
    · rw [build, List.getLast?_append, hconcat, getLast?_intercalate _ _ hfinal,
        List.getLast?_eq_some_getLast hfinal, Option.some_or, ← List.getLast?_eq_some_getLast hfinal]
      exact fun h => hslash final (by simp [hconcat]) (List.mem_of_getLast? h)

theorem stepOf_idle {part : Bytes} (hidle : isIdle part) (hne : part ≠ []) : stepOf part = .here := by
  unfold isIdle at hidle
  rw [Bool.or_eq_true, List.isEmpty_iff] at hidle
  rw [stepOf, if_pos (hidle.resolve_left hne)]

theorem stepOf_ne_here {part : Bytes} (h : isIdle part = false) : stepOf part ≠ .here := by
  unfold isIdle at h
  unfold stepOf
  rw [if_neg (by simpa using (Bool.or_eq_false_iff.1 h).2)]
  split
  · exact nofun
  · split <;> exact nofun

/-- A path goes where its parent goes, and from there by one step and by others that lead nowhere. -/
theorem exists_step_of_parent? (h : p.parent? = some dir) (hne : dir.bytes ≠ [])
    (hroot : dir.bytes ≠ [SourceSnapshot.slash]) (hsteps : p.stepsWithin = .ok steps) :
    ∃ before step after, dir.stepsWithin = .ok dir.bareSteps ∧
      p.isAbsolute = dir.isAbsolute ∧ steps = dir.bareSteps ++ (before ++ step :: after) ∧
      (∀ idle ∈ before ++ after, idle = .here ∨ idle = .slash) ∧ step ≠ .here ∧ step ≠ .slash := by
  obtain ⟨idle, last, more, hbytes, hidles, hlast, hslash, hend⟩ := exists_tail_of_parent? h hne hroot
  obtain ⟨hsteps, hlong⟩ := stepsWithin_eq_ok_iff.1 hsteps
  obtain ⟨⟨hzero, -⟩, rfl⟩ := steps_eq_ok_iff.1 hsteps
  have hdir : dir.stepsWithin = .ok dir.bareSteps := by
    refine stepsWithin_eq_ok_iff.2 ⟨steps_eq_ok_iff.2 ⟨⟨fun h => hzero ?_, hne⟩, (if_neg hend).symm⟩, ?_⟩
    · rw [hbytes]
      exact List.mem_append_left _ h
    · simp only [isTooLong, decide_eq_false_iff_not, hbytes, List.length_append] at hlong ⊢
      omega
  have habsolute : p.isAbsolute = dir.isAbsolute := by
    obtain ⟨b, rest, hb⟩ := List.exists_cons_of_ne_nil hne
    rw [isAbsolute, isAbsolute, hbytes, hb, List.cons_append, List.head?_cons, List.head?_cons]
  let before := (idle.filter (!·.isEmpty)).map stepOf
  let after := (more.filter (!·.isEmpty)).map stepOf
  have hcut : p.bareSteps = dir.bareSteps ++ (before ++ stepOf last :: after) := by
    have hlast' : (!last.isEmpty) = true := by
      cases last with
      | nil => cases hlast
      | cons b rest => rfl
    rw [bareSteps, hbytes, cutWhere_append_slash, cutWhere_intercalate (by simp) hslash, List.filter_append,
      List.map_append, List.filter_append, List.map_append, List.filter_cons, if_pos hlast', List.map_cons]
    rfl
  have hhere {parts : List Bytes} (hparts : ∀ part ∈ parts, isIdle part) :
      ∀ idle ∈ (parts.filter (!·.isEmpty)).map stepOf, idle = .here ∨ idle = .slash := by
    intro idle hidle
    obtain ⟨part, hpart, rfl⟩ := List.mem_map.1 hidle
    obtain ⟨hmem, hempty⟩ := List.mem_filter.1 hpart
    exact .inl (stepOf_idle (hparts part hmem) (by simpa using hempty))
  have hbefore := hhere fun part hpart => hidles part (List.mem_append_left _ hpart)
  have hafter := hhere fun part hpart => hidles part (List.mem_append_right _ hpart)
  rw [hcut]
  split
  · refine ⟨before, stepOf last, after ++ [.slash], hdir, habsolute, ?_, fun idle hidle => ?_,
      stepOf_ne_here hlast, stepOf_ne_slash last⟩
    · simp only [List.append_assoc, List.cons_append]
    · simp only [List.mem_append, List.mem_singleton] at hidle
      rcases hidle with hidle | hidle | rfl
      · exact hbefore idle hidle
      · exact hafter idle hidle
      · exact .inr rfl
  · exact ⟨before, stepOf last, after, hdir, habsolute, rfl, fun idle hidle =>
      (List.mem_append.1 hidle).elim (hbefore idle) (hafter idle), stepOf_ne_here hlast, stepOf_ne_slash last⟩

variable {root : Path} {names : List Name}

theorem stepOf_name (name : Name) : stepOf name.bytes = .into name := by
  have hvalid := name.valid
  simp only [isEntryName, Bool.and_eq_true, bne_iff_ne] at hvalid
  have hname : Name.ofBytes? name.bytes = some name := dif_pos name.valid
  rw [stepOf, if_neg (by simpa using hvalid.1.1.1.1.2), if_neg (by simpa using hvalid.1.1.1.2), hname]

/-- What lies below a directory is reached by its steps and then by the names. -/
theorem bareSteps_under (hne : root.bytes ≠ []) (hnames : names ≠ []) :
    (root.under names).bareSteps = root.bareSteps ++ names.map .into := by
  have hslash : ∀ part ∈ names.map Name.bytes, SourceSnapshot.slash ∉ part := by
    intro part hpart
    obtain ⟨name, -, rfl⟩ := List.mem_map.1 hpart
    exact name.slash_notMem
  have hfull : (names.map Name.bytes).filter (!·.isEmpty) = names.map Name.bytes := by
    refine List.filter_eq_self.2 fun part hpart => ?_
    obtain ⟨name, -, rfl⟩ := List.mem_map.1 hpart
    simpa using name.bytes_ne_nil
  have hbelow : ((cutWhere (· == SourceSnapshot.slash) (ofNames names).bytes).filter (!·.isEmpty)).map stepOf =
      names.map .into := by
    rw [ofNames, cutWhere_intercalate (by simpa using hnames) hslash, hfull, List.map_map]
    exact List.map_congr_left fun name _ => stepOf_name name
  rw [bareSteps, bytes_under hne hnames, bareSteps]
  by_cases hlast : root.bytes.getLast? = some SourceSnapshot.slash
  · obtain ⟨before, hbefore⟩ := List.getLast?_eq_some_iff.1 hlast
    have hfront := bareSteps_append_slash before
    rw [bareSteps, bareSteps] at hfront
    rw [gap, if_pos hlast, List.append_nil, hbefore, hfront, List.append_assoc, List.singleton_append,
      cutWhere_append_slash, List.filter_append, List.map_append, hbelow]
  · rw [gap, if_neg hlast, List.append_assoc, List.singleton_append, cutWhere_append_slash,
      List.filter_append, List.map_append, hbelow]

theorem zero_notMem_ofNames (names : List Name) : 0 ∉ (ofNames names).bytes := by
  have hname (name : Name) : 0 ∉ name.bytes := by
    have hvalid := name.valid
    simp only [isEntryName, Bool.and_eq_true] at hvalid
    simpa using hvalid.1.2
  unfold ofNames
  induction names with
  | nil => exact List.not_mem_nil
  | cons name rest ih =>
    cases rest with
    | nil => simpa using hname name
    | cons next rest =>
      rw [List.map_cons, List.intercalate_cons_of_ne_nil (by simp), List.mem_append, List.mem_append, not_or,
        not_or]
      exact ⟨⟨hname name, by decide⟩, ih⟩

/-- Whatever its length, a path below a directory has the steps of the directory and then the names. -/
theorem steps_under (hroot : root.stepsWithin = .ok steps) (hnames : names ≠ []) :
    (root.under names).steps = .ok (root.bareSteps ++ names.map .into) := by
  obtain ⟨⟨hzero, hne⟩, -⟩ := steps_eq_ok_iff.1 (stepsWithin_eq_ok_iff.1 hroot).1
  have hbytes := bytes_under hne hnames
  have hend : (root.under names).bytes.getLast? ≠ some SourceSnapshot.slash := by
    obtain ⟨front, last, rfl⟩ : ∃ front last, names = front ++ [last] :=
      ⟨names.dropLast, names.getLast hnames, (List.dropLast_concat_getLast hnames).symm⟩
    rw [hbytes, ofNames, List.map_append, List.map_singleton, List.getLast?_append,
      getLast?_intercalate _ _ last.bytes_ne_nil, List.getLast?_eq_some_getLast last.bytes_ne_nil,
      Option.some_or, ← List.getLast?_eq_some_getLast last.bytes_ne_nil]
    exact fun h => last.slash_notMem (List.mem_of_getLast? h)
  have hzero' : 0 ∉ (root.under names).bytes := by
    rw [hbytes, List.mem_append, List.mem_append, not_or, not_or]
    refine ⟨⟨hzero, ?_⟩, zero_notMem_ofNames names⟩
    unfold gap
    split <;> decide
  refine steps_eq_ok_iff.2 ⟨⟨hzero', by simp [hbytes, hne]⟩, ?_⟩
  rw [if_neg hend, bareSteps_under hne hnames]

theorem stepsWithin_under (hroot : root.stepsWithin = .ok steps) (hnames : names ≠ [])
    (hshort : (root.under names).isTooLong = false) :
    (root.under names).stepsWithin = .ok (root.bareSteps ++ names.map .into) ∧
      (root.under names).isAbsolute = root.isAbsolute := by
  obtain ⟨⟨-, hne⟩, -⟩ := steps_eq_ok_iff.1 (stepsWithin_eq_ok_iff.1 hroot).1
  obtain ⟨b, rest, hb⟩ := List.exists_cons_of_ne_nil hne
  refine ⟨stepsWithin_eq_ok_iff.2 ⟨steps_under hroot hnames, hshort⟩, ?_⟩
  rw [isAbsolute, isAbsolute, bytes_under hne hnames, hb]
  rfl

end Path
end SourceSnapshot
