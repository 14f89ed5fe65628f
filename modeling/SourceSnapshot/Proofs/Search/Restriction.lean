import SourceSnapshot.Filter
import SourceSnapshot.Proofs.Search.Likeness
import SourceSnapshot.Proofs.Search.Walk

/-! Searches under a configuration that asks for less. What such a search finds is found without the
restriction too, and in the same order: a directory is left out with all beneath it, and a rule of an ignore
file, even one that takes something back in, speaks only of what the search would come to anyway. -/
namespace SourceSnapshot

/-- The configuration `narrow` leaves out whatever `wide` does, takes in no other extensions, goes no deeper,
and obeys ignore files if `wide` does. -/
structure Config.Narrows (wide narrow : Config) : Prop where
  excludedDirs : ∀ name ∈ wide.excludedDirs, name ∈ narrow.excludedDirs
  excludedFiles : ∀ name ∈ wide.excludedFiles, name ∈ narrow.excludedFiles
  includedExtensions : ∀ extension ∈ narrow.includedExtensions, extension ∈ wide.includedExtensions
  maxDepth : ∀ limit, wide.maxDepth = some limit → ∃ lower, narrow.maxDepth = some lower ∧ lower ≤ limit
  respectGitignore : wide.respectGitignore → narrow.respectGitignore

namespace Config.Narrows
variable {wide narrow : Config} (h : wide.Narrows narrow)
include h

theorem isExcludedDir {name : String} (hname : wide.isExcludedDir name) : narrow.isExcludedDir name := by
  rw [Config.isExcludedDir, NameSet.contains_iff] at hname ⊢
  exact h.excludedDirs name hname

theorem isExcludedFile {name : String} (hname : wide.isExcludedFile name) : narrow.isExcludedFile name := by
  rw [Config.isExcludedFile, NameSet.contains_iff] at hname ⊢
  exact h.excludedFiles name hname

theorem includesExtension {path : Path} (hpath : narrow.includesExtension path) :
    wide.includesExtension path := by
  unfold Config.includesExtension at hpath ⊢
  split at hpath
  · rw [NameSet.contains_iff] at hpath ⊢
    exact h.includedExtensions _ hpath
  · cases hpath

/-- What is collected under the narrower configuration is collected under the other. -/
theorem decide_eq_included {path : Path} (hpath : narrow.decide path = .included) :
    wide.decide path = .included := by
  unfold Config.decide at hpath ⊢
  split at hpath
  · cases hpath
  · rename_i hname
    split at hpath
    · rename_i hextension
      rw [if_neg (mt h.isExcludedFile hname), if_pos (h.includesExtension hextension)]
    · cases hpath

end Config.Narrows

theorem sublist_flatMap {α β : Type} {found : List α} {fewer more : α → List β}
    (h : ∀ x ∈ found, (fewer x).Sublist (more x)) : (found.flatMap fewer).Sublist (found.flatMap more) := by
  induction found with
  | nil => exact List.Sublist.refl _
  | cons x found ih =>
    rw [List.flatMap_cons, List.flatMap_cons]
    apply List.Sublist.append (h x List.mem_cons_self)
    apply ih
    intro y hy
    exact h y (List.mem_cons_of_mem x hy)

namespace Search
variable {s : Search} {rules rules' : Option Ignore.Stack} {depth : Nat} {dir path : Path}
  {above : List Name} {name : Name} {node : Node}

/-- A directory is looked into if it is neither ignored nor left out and its path is not too long; its own
ignore files are then in force, if any are. -/
theorem inside_findDir_eq_some_iff {inside : Inside} : (s.findDir rules depth path name).inside = some inside ↔
    (rules.bind (·.judge path true)).any (·.ignores) = false ∧ s.config.isExcludedDir name.display = false ∧
      path.isTooLong = false ∧ inside.rules = rules.map (·.enter (.ofDir s.fs path)) := by
  obtain ⟨inner⟩ := inside
  unfold findDir
  extract_lets verdict judged level opened
  have hlevel : (rules.bind fun rules => level.map rules.enter) = rules.map (·.enter (.ofDir s.fs path)) := by
    cases rules <;> rfl
  rw [hlevel]
  cases verdict.any (·.ignores) with
  | true => simp
  | false =>
    cases s.config.isExcludedDir name.display with
    | true => simp
    | false =>
      cases path.isTooLong with
      | true => simp
      | false =>
        simp only [Bool.false_eq_true, if_false, Option.some.injEq, Inside.mk.injEq, true_and]
        exact eq_comm

/-- Where rules are in force under the one configuration, they are under the other. -/
def Stricter (rules rules' : Option Ignore.Stack) : Prop := rules = none ∨ rules' = rules

/-- What no rule takes away under the stricter rules, none takes away under the others. -/
theorem Stricter.ignores (h : Stricter rules rules') {isDir : Bool}
    (hkept : (rules'.bind (·.judge path isDir)).any (·.ignores) = false) :
    (rules.bind (·.judge path isDir)).any (·.ignores) = false := by
  rcases h with rfl | rfl
  · rfl
  · exact hkept

theorem Stricter.map (h : Stricter rules rules') (f : Ignore.Stack → Ignore.Stack) :
    Stricter (rules.map f) (rules'.map f) := by
  rcases h with rfl | rfl
  · exact .inl rfl
  · exact .inr rfl

/-- At an entry that is no directory the narrower search finds its file only if the other does. -/
theorem sublist_findOther {narrow : Config} (hrules : Stricter rules rules') (isLink : Bool) :
    (filesIn (findOther { s with config := narrow } rules' path isLink)).Sublist
      (filesIn (s.findOther rules path isLink)) := by
  have hskipped : isSkipped { s with config := narrow } path = s.isSkipped path := rfl
  rw [filesIn_findOther, filesIn_findOther, hskipped]
  split
  · exact List.nil_sublist _
  · rename_i hkept
    rw [Bool.not_eq_true, Bool.or_assoc, Bool.or_eq_false_iff] at hkept
    rw [Bool.or_assoc, hrules.ignores hkept.1, hkept.2, if_neg (by simp)]
    exact List.Sublist.refl _

section
variable {narrow : Config} (h : s.config.Narrows narrow)
include h

theorem stricter_rules : Stricter s.rules (Search.rules { s with config := narrow }) := by
  unfold Search.rules
  cases hrespect : s.config.respectGitignore with
  | false => exact .inl rfl
  | true => exact .inr (by rw [h.respectGitignore hrespect])

theorem reaches_of_narrows (hreaches : reaches { s with config := narrow } depth) : s.reaches depth := by
  rw [reaches_iff] at hreaches ⊢
  intro limit hlimit
  obtain ⟨lower, hlower, hle⟩ := h.maxDepth limit hlimit
  exact Nat.le_trans (hreaches lower hlower) (UInt64.le_iff_toNat_le.1 hle)

/-- A directory that the narrower search looks into is looked into by the other, under rules no stricter. -/
theorem exists_inside_of_narrows (hrules : Stricter rules rules') {inside' : Inside}
    (hinside : (findDir { s with config := narrow } rules' depth path name).inside = some inside') :
    ∃ inside, (s.findDir rules depth path name).inside = some inside ∧ Stricter inside.rules inside'.rules := by
  obtain ⟨hkept, hexcluded, hshort, hinner⟩ := inside_findDir_eq_some_iff.1 hinside
  refine ⟨⟨rules.map (·.enter (.ofDir s.fs path))⟩, inside_findDir_eq_some_iff.2 ⟨hrules.ignores hkept, ?_,
    hshort, rfl⟩, ?_⟩
  · apply Bool.eq_false_iff.2
    intro hname
    rw [h.isExcludedDir hname] at hexcluded
    cases hexcluded
  · rw [hinner]
    exact hrules.map _

private theorem sublist_eventsInside {entries : List (Name × Node)}
    (hentries : ∀ entry ∈ entries,
      (filesIn (eventsAt { s with config := narrow } rules' depth (dir.entry entry.1) entry.1 entry.2)).Sublist
        (filesIn (eventsAt s rules depth (dir.entry entry.1) entry.1 entry.2))) :
    (filesIn (eventsInside { s with config := narrow } rules' depth dir entries)).Sublist
      (filesIn (eventsInside s rules depth dir entries)) := by
  rw [eventsInside_eq, eventsInside_eq, filesIn, filesIn, List.filterMap_flatMap, List.filterMap_flatMap]
  apply sublist_flatMap
  intro entry hentry
  cases hreaches : reaches { s with config := narrow } depth with
  | false => exact List.nil_sublist _
  | true =>
    rw [reaches_of_narrows h hreaches]
    exact hentries entry (mem_sortByName.1 hentry)

/-- What the narrower search finds at an entry and below it, the other finds there too, in the same order. -/
theorem sublist_eventsAt (hrules : Stricter rules rules') :
    (filesIn (eventsAt { s with config := narrow } rules' depth path name node)).Sublist
      (filesIn (eventsAt s rules depth path name node)) := by
  induction node using Node.nodeInduction generalizing rules rules' depth path name with
  | other node hother =>
    rw [eventsAt_of_not_dir hother, eventsAt_of_not_dir hother]
    exact sublist_findOther hrules (isLink node)
  | dir entries ih =>
    rw [filesIn_eventsAt_dir, filesIn_eventsAt_dir]
    cases hinside' : (findDir { s with config := narrow } rules' depth path name).inside with
    | none => exact List.nil_sublist _
    | some inside' =>
      obtain ⟨inside, hinside, hinner⟩ := exists_inside_of_narrows h hrules hinside'
      rw [hinside]
      apply sublist_eventsInside h
      intro entry hentry
      exact ih entry hentry hinner

/-- A search under a narrower configuration finds no other files, and those that it finds in the same order. -/
theorem sublist_files : (files { s with config := narrow }).Sublist s.files := by
  cases hstandard : isStandardInput s.root with
  | true =>
    rw [files_eq_nil (s := { s with config := narrow }) hstandard]
    exact List.nil_sublist _
  | false =>
    rw [files_eq hstandard, files_eq (s := { s with config := narrow }) hstandard]
    apply sublist_eventsInside h
    intro entry hentry
    exact sublist_eventsAt h (stricter_rules h)

end

/-- No directory on the way to a file that is found is left out, whatever the ignore files say. -/
theorem exists_keeps_of_mem (hroot : s.root.bytes ≠ []) (habove : s.config.Keeps above) {file : FoundFile}
    (hfile : file ∈ filesIn (eventsAt s rules depth (s.root.under (above ++ [name])) name node)) :
    ∃ front last, file = s.fileAt (front ++ [last]) ∧ s.config.Keeps front := by
  induction node using Node.nodeInduction generalizing rules depth above name with
  | other node hother =>
    rw [eventsAt_of_not_dir hother, filesIn_findOther] at hfile
    split at hfile
    · cases hfile
    · obtain rfl := List.mem_singleton.1 hfile
      refine ⟨above, name, ?_, habove⟩
      rw [found, fileAt, Path.relativeTo_under hroot (List.concat_ne_nil name above)]
  | dir entries ih =>
    rw [filesIn_eventsAt_dir] at hfile
    split at hfile
    · cases hfile
    · rename_i inside hinside
      rw [mem_filesIn, mem_eventsInside] at hfile
      obtain ⟨-, entry, hentry, hfound⟩ := hfile
      rw [← Path.under_concat, ← mem_filesIn] at hfound
      exact ih entry hentry (habove.concat (of_inside_findDir hinside).1) hfound

/-- Each file is found at one of the entries of the root, which then has a path that leads somewhere. -/
theorem exists_entry_of_mem_files {file : FoundFile} (hfile : file ∈ s.files) : s.root.bytes ≠ [] ∧
    ∃ entry ∈ s.rootEntries, file ∈ filesIn (eventsAt s s.rules 1 (s.root.entry entry.1) entry.1 entry.2) := by
  cases hstandard : isStandardInput s.root with
  | true =>
    rw [files_eq_nil hstandard] at hfile
    cases hfile
  | false =>
    rw [files_eq hstandard, mem_filesIn, mem_eventsInside] at hfile
    obtain ⟨-, entry, hentry, hfound⟩ := hfile
    refine ⟨?_, entry, hentry, mem_filesIn.2 hfound⟩
    unfold rootEntries at hentry
    split at hentry
    · rename_i hresolve
      exact FileSystem.bytes_ne_nil_of_resolve hresolve
    · cases hentry

theorem exists_keeps_of_mem_files {file : FoundFile} (hfile : file ∈ s.files) :
    ∃ front last, file = s.fileAt (front ++ [last]) ∧ s.config.Keeps front := by
  obtain ⟨hroot, entry, hentry, hfound⟩ := exists_entry_of_mem_files hfile
  exact exists_keeps_of_mem hroot (.nil s.config) hfound

end Search
end SourceSnapshot
