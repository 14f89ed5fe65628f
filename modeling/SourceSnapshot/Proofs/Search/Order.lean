import SourceSnapshot.Proofs.FileSystem.Resolve
import SourceSnapshot.Proofs.Path.Relative
import SourceSnapshot.Search

/-! The order of a search. What is found below an entry is called by the names that lead to the entry
and then by its own, so the entries of a directory, taken by name, are found one after another, and
no file is found twice. -/
namespace SourceSnapshot

/-- What is made of the elements of two lists agrees if their keys do, and it agrees for each key. -/
theorem map_congr_of_keys {α β γ κ : Type} {xs : List α} {ys : List β} {key : α → κ} {key' : β → κ}
    {f : α → γ} {g : β → γ} (hkeys : xs.map key = ys.map key')
    (h : ∀ x ∈ xs, ∀ y ∈ ys, key x = key' y → f x = g y) : xs.map f = ys.map g := by
  induction xs generalizing ys with
  | nil =>
    obtain rfl := List.map_eq_nil_iff.1 hkeys.symm
    rfl
  | cons x xs ih =>
    cases ys with
    | nil => cases hkeys
    | cons y ys =>
      obtain ⟨hkey, hrest⟩ := List.cons.inj hkeys
      rw [List.map_cons, List.map_cons, h x List.mem_cons_self y List.mem_cons_self hkey, ih hrest]
      intro x hx y hy
      exact h x (List.mem_cons_of_mem _ hx) y (List.mem_cons_of_mem _ hy)

theorem sortByName_map {α β : Type} (f : Name × α → β) (found : List (Name × α)) :
    sortByName (found.map fun entry => (entry.1, f entry)) =
      (sortByName found).map fun entry => (entry.1, f entry) := by
  rw [sortByName, sortByName, List.map_mergeSort]
  exact fun _ _ _ _ => rfl

theorem mem_sortByName {α : Type} {found : List (Name × α)} {entry : Name × α} :
    entry ∈ sortByName found ↔ entry ∈ found := List.mem_mergeSort

/-- Sorting puts distinct names in strict order. -/
theorem pairwise_sortByName {α : Type} {found : List (Name × α)} (h : (found.map Prod.fst).Nodup) :
    (sortByName found).Pairwise fun a b => a.1.bytes < b.1.bytes := by
  have hsorted : (sortByName found).Pairwise fun a b => a.1.notAfter b.1 := by
    refine List.pairwise_mergeSort (fun a b c hab hbc => ?_) (fun a b => ?_) found
    · simp only [Name.notAfter, Bool.not_eq_true', decide_eq_false_iff_not] at *
      exact List.le_trans hab hbc
    · simp only [Name.notAfter, Bool.or_eq_true, Bool.not_eq_true', decide_eq_false_iff_not]
      exact List.le_total a.1.bytes b.1.bytes
  have hdistinct : (sortByName found).Pairwise fun a b => a.1 ≠ b.1 := by
    have hperm : ((sortByName found).map Prod.fst).Perm (found.map Prod.fst) :=
      (List.mergeSort_perm found _).map Prod.fst
    exact List.pairwise_map.1 (hperm.nodup_iff.2 h)
  refine (hsorted.and hdistinct).imp fun ⟨hle, hne⟩ => ?_
  simp only [Name.notAfter, Bool.not_eq_true', decide_eq_false_iff_not] at hle
  rcases List.le_iff_lt_or_eq.1 hle with hlt | he
  · exact hlt
  · exact absurd (Name.ext_bytes he) hne

section
variable {α β γ : Type} {found : List (Name × α)} {other : List (Name × β)}
  (hfound : (found.map Prod.fst).Nodup) (hother : (other.map Prod.fst).Nodup)
  (hnames : ∀ name, name ∈ found.map Prod.fst ↔ name ∈ other.map Prod.fst)
include hfound hother hnames

/-- The order of names is settled by which names there are. -/
theorem map_fst_sortByName : (sortByName found).map Prod.fst = (sortByName other).map Prod.fst := by
  have hperm : ((sortByName found).map Prod.fst).Perm ((sortByName other).map Prod.fst) :=
    ((List.mergeSort_perm found _).map Prod.fst).trans
      (((List.perm_ext_iff_of_nodup hfound hother).2 hnames).trans
        ((List.mergeSort_perm other _).map Prod.fst).symm)
  have hsorted {α : Type} {found : List (Name × α)} (h : (found.map Prod.fst).Nodup) :
      ((sortByName found).map Prod.fst).Pairwise fun a b => a.bytes < b.bytes :=
    List.pairwise_map.2 (pairwise_sortByName h)
  exact hperm.eq_of_pairwise (fun a b _ _ hab hba => absurd hba (List.lt_asymm hab)) (hsorted hfound)
    (hsorted hother)

/-- What is made of entries in order agrees if it agrees name by name. -/
theorem map_sortByName_congr (f : Name × α → γ) (g : Name × β → γ)
    (h : ∀ name a b, (name, a) ∈ found → (name, b) ∈ other → f (name, a) = g (name, b)) :
    (sortByName found).map f = (sortByName other).map g := by
  apply map_congr_of_keys (map_fst_sortByName hfound hother hnames)
  rintro ⟨name, a⟩ ha ⟨name', b⟩ hb hkey
  obtain rfl : name = name' := hkey
  exact h name a b (mem_sortByName.1 ha) (mem_sortByName.1 hb)

end

namespace Search

def filesIn (events : List Event) : List FoundFile := events.filterMap fileOf?

theorem mem_filesIn {events : List Event} {file : FoundFile} :
    file ∈ filesIn events ↔ .file file ∈ events := by
  rw [filesIn, List.mem_filterMap]
  constructor
  · rintro ⟨event, hevent, hfile⟩
    cases event with
    | file other => exact Option.some.inj hfile ▸ hevent
    | notice _ => cases hfile
  · exact fun h => ⟨_, h, rfl⟩

theorem filesIn_append (events more : List Event) :
    filesIn (events ++ more) = filesIn events ++ filesIn more := List.filterMap_append

@[simp] theorem filesIn_notices {α : Type} (found : List α) (notice : α → Notice) :
    filesIn (found.map fun x => .notice (notice x)) = [] :=
  List.filterMap_eq_nil_iff.2 fun event hevent => by
    obtain ⟨x, -, rfl⟩ := List.mem_map.1 hevent
    rfl

variable {s : Search} {rules : Option Ignore.Stack} {depth : Nat}

private theorem filesIn_judged (path : Path) (verdict : Option Ignore.Verdict) :
    filesIn (verdict.map fun verdict => Event.notice (.judged path verdict)).toList = [] := by
  cases verdict <;> rfl

theorem filesIn_findDir (path : Path) (name : Name) :
    filesIn (s.findDir rules depth path name).events = [] := by
  have hopened (level : Option Ignore.Level) : filesIn ((level.map noticesOf).getD []) = [] := by
    cases level with
    | none => rfl
    | some level => exact filesIn_notices level.files .opened
  unfold findDir
  extract_lets verdict judged level opened
  have hjudged : filesIn (judged ++ opened) = [] := by
    rw [filesIn_append, filesIn_judged, hopened, List.append_nil]
  by_cases hignored : verdict.any (·.ignores)
  · rw [if_pos hignored]
    exact hjudged
  · rw [if_neg hignored]
    split
    · rw [filesIn_append, filesIn_judged]
      exact hopened level
    · split
      · rw [filesIn_append, hjudged]
        split <;> rfl
      · exact hjudged

def found (s : Search) (path : Path) : FoundFile := ⟨path, path.relativeTo s.root⟩

/-- At an entry that is no directory its file is met, unless it is ignored, leads to a directory or is
the one to be left out. -/
theorem filesIn_findOther (path : Path) (isLink : Bool) :
    filesIn (s.findOther rules path isLink) =
      if (rules.bind (·.judge path false)).any (·.ignores) || isLink && s.fs.isDir path ||
        s.isSkipped path then [] else [s.found path] := by
  unfold findOther
  extract_lets verdict judged
  have hjudged : filesIn judged = [] := filesIn_judged path verdict
  change _ = if verdict.any (·.ignores) || _ || _ then _ else _
  by_cases hignored : verdict.any (·.ignores)
  · rw [if_pos hignored, hignored, hjudged]
    rfl
  · rw [if_neg hignored, Bool.eq_false_iff.2 hignored, Bool.false_or]
    cases isLink && s.fs.isDir path with
    | true =>
      rw [if_pos rfl, filesIn_append, hjudged]
      rfl
    | false =>
      rw [Bool.false_or, if_neg Bool.false_ne_true]
      cases s.isSkipped path with
      | true => exact hjudged
      | false =>
        rw [if_neg Bool.false_ne_true, filesIn_append, hjudged]
        rfl

def eventsInside (s : Search) (rules : Option Ignore.Stack) (depth : Nat) (dir : Path)
    (entries : List (Name × Node)) : List Event :=
  (sortByName (eventsBelow s rules depth dir entries)).flatMap Prod.snd

theorem eventsBelow_eq_map (dir : Path) (entries : List (Name × Node)) :
    eventsBelow s rules depth dir entries = entries.map fun entry => (entry.1,
      if s.reaches depth then eventsAt s rules depth (dir.entry entry.1) entry.1 entry.2 else []) := by
  induction entries with
  | nil => rfl
  | cons entry rest ih => rw [eventsBelow, ih, List.map_cons]

theorem eventsInside_eq (dir : Path) (entries : List (Name × Node)) :
    eventsInside s rules depth dir entries = (sortByName entries).flatMap fun entry =>
      if s.reaches depth then eventsAt s rules depth (dir.entry entry.1) entry.1 entry.2 else [] := by
  rw [eventsInside, eventsBelow_eq_map, sortByName_map, List.flatMap_map]

theorem mem_eventsInside {dir : Path} {entries : List (Name × Node)} {event : Event} :
    event ∈ eventsInside s rules depth dir entries ↔ s.reaches depth ∧
      ∃ entry ∈ entries, event ∈ eventsAt s rules depth (dir.entry entry.1) entry.1 entry.2 := by
  simp only [eventsInside_eq, List.mem_flatMap, mem_sortByName]
  by_cases hreaches : s.reaches depth
  · simp [hreaches]
  · simp [hreaches]

theorem filesIn_eventsAt_dir (path : Path) (name : Name) (entries : List (Name × Node)) :
    filesIn (eventsAt s rules depth path name (.dir entries)) =
      match (s.findDir rules depth path name).inside with
      | none => []
      | some inside => filesIn (eventsInside s inside.rules (depth + 1) path entries) := by
  rw [eventsAt, filesIn_append, filesIn_findDir, List.nil_append]
  cases (s.findDir rules depth path name).inside <;> rfl

theorem eventsAt_of_not_dir {path : Path} {name : Name} {node : Node} (h : node.isDir = false) :
    eventsAt s rules depth path name node = s.findOther rules path (isLink node) := by
  cases node with
  | dir entries => cases h
  | _ => rfl

def fileAt (s : Search) (names : List Name) : FoundFile := ⟨s.root.under names, .ofNames names⟩

/-- Whether a file comes before another, by the names that lead to them. -/
def Precedes (a b : FoundFile) : Prop := a.relative.names < b.relative.names

theorem precedes_fileAt {above below further : List Name} {a b : Name} (h : a.bytes < b.bytes) :
    Precedes (s.fileAt (above ++ a :: below)) (s.fileAt (above ++ b :: further)) := by
  simp only [Precedes, fileAt, Path.names_ofNames, List.map_append, List.map_cons]
  exact List.append_left_lt (List.cons_lt_cons_iff.2 (.inl h))

section
variable (hroot : s.root.bytes ≠ [])
include hroot

/-- A file met at an entry or below it is called by the names of the entry and then by more. -/
theorem eq_fileAt_of_mem {names : List Name} (hne : names ≠ []) {name : Name} {node : Node}
    {file : FoundFile} (h : file ∈ filesIn (eventsAt s rules depth (s.root.under names) name node)) :
    ∃ below, file = s.fileAt (names ++ below) := by
  induction node using Node.nodeInduction generalizing rules depth names name with
  | other node hnode =>
    rw [eventsAt_of_not_dir hnode, filesIn_findOther] at h
    split at h
    · cases h
    · rw [List.mem_singleton] at h
      exact ⟨[], by rw [h, found, Path.relativeTo_under hroot hne, List.append_nil, fileAt]⟩
  | dir entries ih =>
    rw [filesIn_eventsAt_dir] at h
    split at h
    · cases h
    · rw [mem_filesIn, mem_eventsInside] at h
      obtain ⟨-, entry, hentry, hfile⟩ := h
      rw [← Path.under_concat, ← mem_filesIn] at hfile
      obtain ⟨below, hbelow⟩ := ih entry hentry (by simp) hfile
      exact ⟨entry.1 :: below, by rw [hbelow, List.append_assoc, List.singleton_append]⟩

/-- The files met inside a directory come in order if those met at each of its entries do. -/
theorem pairwise_eventsInside {above : List Name} {entries : List (Name × Node)}
    (hnames : (entries.map Prod.fst).Nodup)
    (h : ∀ entry ∈ entries, (filesIn
      (eventsAt s rules depth (s.root.under (above ++ [entry.1])) entry.1 entry.2)).Pairwise Precedes) :
    (filesIn (eventsInside s rules depth (s.root.under above) entries)).Pairwise Precedes := by
  rw [eventsInside_eq]
  by_cases hreaches : s.reaches depth
  · simp only [hreaches, if_true, ← Path.under_concat]
    rw [filesIn, List.filterMap_flatMap, List.pairwise_flatMap]
    refine ⟨fun entry hentry => h entry (mem_sortByName.1 hentry), ?_⟩
    refine (pairwise_sortByName hnames).imp fun {a b} hlt file hfile other hother => ?_
    obtain ⟨below, rfl⟩ := eq_fileAt_of_mem hroot (by simp) hfile
    obtain ⟨further, rfl⟩ := eq_fileAt_of_mem hroot (by simp) hother
    rw [List.append_assoc, List.append_assoc]
    exact precedes_fileAt hlt
  · simp only [hreaches, Bool.false_eq_true, if_false, List.flatMap_eq_nil_iff.2 fun _ _ => rfl]
    exact .nil

theorem pairwise_eventsAt {names : List Name} {name : Name} {node : Node} (hnode : node.Distinct) :
    (filesIn (eventsAt s rules depth (s.root.under names) name node)).Pairwise Precedes := by
  induction node using Node.nodeInduction generalizing rules depth names name with
  | other node hother =>
    rw [eventsAt_of_not_dir hother, filesIn_findOther]
    split
    · exact .nil
    · exact List.pairwise_singleton ..
  | dir entries ih =>
    rw [filesIn_eventsAt_dir]
    split
    · exact .nil
    · exact pairwise_eventsInside hroot hnode.1 fun entry hentry =>
        ih entry hentry (Node.allDistinct_iff.1 hnode.2 entry hentry)

end

private theorem filesIn_flatMap_noticesOf (levels : List Ignore.Level) :
    filesIn (levels.flatMap noticesOf) = [] := by
  rw [filesIn, List.filterMap_flatMap, List.flatMap_eq_nil_iff]
  exact fun level _ => filesIn_notices level.files .opened

theorem filesIn_rootEvents : filesIn (s.rootEvents rules) = [] := by
  unfold rootEvents
  split
  · cases rules with
    | none => rfl
    | some rules =>
      change filesIn (rulesNotices rules) = []
      rw [rulesNotices, filesIn_append, filesIn_append, filesIn_flatMap_noticesOf, filesIn_flatMap_noticesOf]
      split <;> rfl
  · split <;> rfl

theorem filesIn_startEvents : filesIn (s.startEvents rules) = [] := by
  unfold startEvents
  split
  · rfl
  · cases rules.bind (·.userRules) with
    | none => rfl
    | some user =>
      change filesIn (userNotices user) = []
      unfold userNotices
      split <;> rfl

theorem files_eq_nil (h : isStandardInput s.root = true) : s.files = [] := by
  rw [files, ← filesIn, events, h, filesIn_append, filesIn_startEvents]
  rfl

theorem files_eq (h : isStandardInput s.root = false) :
    s.files = filesIn (eventsInside s s.rules 1 s.root s.rootEntries) := by
  have hevents : s.events =
      s.startEvents s.rules ++ (s.rootEvents s.rules ++ eventsInside s s.rules 1 s.root s.rootEntries) := by
    rw [events, h]
    rfl
  rw [files, ← filesIn, hevents, filesIn_append, filesIn_append, filesIn_startEvents, filesIn_rootEvents,
    List.nil_append, List.nil_append]

/-- The files of a search come in the order of their names, whatever rules are obeyed and in whatever
order the entries of directories stand. -/
theorem pairwise_files (s : Search) : s.files.Pairwise Precedes := by
  cases hstandard : isStandardInput s.root with
  | true =>
    rw [files_eq_nil hstandard]
    exact .nil
  | false =>
    rw [files_eq hstandard]
    cases hresolve : s.fs.resolve s.root with
    | error e =>
      have hentries : s.rootEntries = [] := by rw [rootEntries, hresolve]
      simp [hentries, eventsInside, eventsBelow, sortByName, filesIn]
    | ok found =>
      obtain ⟨loc, node⟩ := found
      have hentries : s.rootEntries = node.entries := by rw [rootEntries, hresolve]
      have hroot := FileSystem.bytes_ne_nil_of_resolve hresolve
      have hdistinct : (Node.dir node.entries).Distinct := by
        have h := FileSystem.distinct_of_resolve hresolve
        cases node with
        | dir entries => exact h
        | _ => exact ⟨.nil, trivial⟩
      rw [hentries]
      have hentry : ∀ entry ∈ node.entries, (filesIn
          (eventsAt s s.rules 1 (s.root.under ([] ++ [entry.1])) entry.1 entry.2)).Pairwise Precedes :=
        fun entry h => pairwise_eventsAt hroot (Node.allDistinct_iff.1 hdistinct.2 entry h)
      exact pairwise_eventsInside hroot hdistinct.1 hentry

/-- No file is found twice, by whatever name. -/
theorem nodup_files (s : Search) : (s.files.map FoundFile.relative).Nodup :=
  List.pairwise_map.2 <| (pairwise_files s).imp fun {a b} h he => by
    rw [Precedes, he] at h
    exact List.lt_irrefl b.relative.names h

end Search
end SourceSnapshot
