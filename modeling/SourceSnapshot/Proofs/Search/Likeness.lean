import SourceSnapshot.Proofs.FileSystem.Shape

/-! Searches that go alike. What a search meets depends on the shape of what lies below its root, on where
links lead, and on the ignore files that it obeys; not on what files hold. So a visitor that does the same
with each file does the same along both searches. -/
namespace SourceSnapshot.Search

variable {β : Type} {s s' : Search} {visit visit' : Event → β} {node node' child child' : Node}
  {rules : Option Ignore.Stack} {depth : Nat} {path : Path} {above : List Name} {name : Name}

/-- In a search of the tree at the root, the directory that these names lead to is looked into: the search
comes to its entries, with these rules in force. -/
inductive Searched (s : Search) (node : Node) : List Name → Option Ignore.Stack → Prop
  | root (hreaches : s.reaches 1) : Searched s node [] s.rules
  | enter {above : List Name} {rules : Option Ignore.Stack} {name : Name} {entries : List (Name × Node)}
      {inside : Inside} (h : Searched s node above rules)
      (hdir : node.at? (above ++ [name]) = some (.dir entries))
      (hinside : (s.findDir rules (above.length + 1) (s.root.under (above ++ [name])) name).inside = some inside)
      (hreaches : s.reaches (above.length + 2)) : Searched s node (above ++ [name]) inside.rules

/-- Two searches of trees of one shape, and what is done at what each of them meets. -/
structure Alike (s s' : Search) (visit visit' : Event → β) (node node' : Node) : Prop where
  config : s'.config = s.config
  root : s'.root = s.root
  shape : SameShape s.config node node'
  links : ∀ above rules name target, s.Searched node above rules →
    node.at? (above ++ [name]) = some (.link target) →
    s'.fs.isDir (s.root.under (above ++ [name])) = s.fs.isDir (s.root.under (above ++ [name]))
  skipped : ∀ names, s'.isSkipped (s.root.under names) = s.isSkipped (s.root.under names)
  levels : ∀ above rules name entries, s.Searched node above rules → rules.isSome →
    node.at? (above ++ [name]) = some (.dir entries) →
    Ignore.Level.ofDir s'.fs (s.root.under (above ++ [name])) =
      Ignore.Level.ofDir s.fs (s.root.under (above ++ [name]))
  notices : ∀ notice, visit' (.notice notice) = visit (.notice notice)
  files : ∀ above rules name entry, s.Searched node above rules → node.at? (above ++ [name]) = some entry →
    entry.isDir = false → s.isSkipped (s.root.under (above ++ [name])) = false →
    visit' (.file (s.found (s.root.under (above ++ [name])))) =
      visit (.file (s.found (s.root.under (above ++ [name]))))

theorem map_notices (h : ∀ notice, visit' (.notice notice) = visit (.notice notice)) {events : List Event}
    (hevents : filesIn events = []) : events.map visit' = events.map visit := by
  refine List.map_congr_left fun event hevent => ?_
  cases event with
  | notice notice => exact h notice
  | file file =>
    have hfile := mem_filesIn.2 hevent
    rw [hevents] at hfile
    cases hfile

theorem findDir_eq (hconfig : s'.config = s.config)
    (hlevel : rules.isSome → Ignore.Level.ofDir s'.fs path = Ignore.Level.ofDir s.fs path) :
    s'.findDir rules depth path name = s.findDir rules depth path name := by
  have hlevels : (rules.map fun _ => Ignore.Level.ofDir s'.fs path) =
      rules.map fun _ => Ignore.Level.ofDir s.fs path := by
    cases rules with
    | none => rfl
    | some rules => rw [Option.map_some, Option.map_some, hlevel rfl]
  have hreaches : s'.reaches (depth + 1) = s.reaches (depth + 1) := by rw [reaches, reaches, hconfig]
  rw [findDir, findDir, hlevels, hreaches, hconfig]

theorem of_inside_findDir {inside : Inside} (h : (s.findDir rules depth path name).inside = some inside) :
    s.config.isExcludedDir name.display = false ∧ (inside.rules.isSome → rules.isSome) := by
  unfold findDir at h
  extract_lets verdict judged level opened at h
  split at h
  · cases h
  · split at h
    · cases h
    · rename_i hexcluded
      split at h
      · cases h
      · obtain rfl := Option.some.inj h
        refine ⟨Bool.eq_false_iff.2 hexcluded, fun hrules => ?_⟩
        cases rules with
        | none => cases hrules
        | some rules => rfl

theorem respects_of_rules (h : s.rules.isSome) : s.config.respectGitignore := by
  unfold Search.rules at h
  split at h
  · assumption
  · cases h

theorem Searched.keeps (h : s.Searched node above rules) : s.config.Keeps above := by
  induction h with
  | root hreaches => exact .nil s.config
  | enter h hdir hinside hreaches ih => exact ih.concat (of_inside_findDir hinside).1

theorem Searched.respects (h : s.Searched node above rules) (hrules : rules.isSome) :
    s.config.respectGitignore := by
  induction h with
  | root hreaches => exact respects_of_rules hrules
  | enter h hdir hinside hreaches ih => exact ih ((of_inside_findDir hinside).2 hrules)

/-- Both meet the same at an entry that is no directory, and do the same with it. -/
theorem Alike.map_findOther (h : Alike s s' visit visit' node node') (hsearched : s.Searched node above rules)
    (hchild : node.at? (above ++ [name]) = some child) (hdir : child.isDir = false) :
    (s'.findOther rules (s.root.under (above ++ [name])) (isLink child)).map visit' =
      (s.findOther rules (s.root.under (above ++ [name])) (isLink child)).map visit := by
  have hjudged (verdict : Option Ignore.Verdict) (path : Path) :
      ((verdict.map fun verdict => Event.notice (.judged path verdict)).toList).map visit' =
        ((verdict.map fun verdict => Event.notice (.judged path verdict)).toList).map visit := by
    cases verdict with
    | none => rfl
    | some verdict => exact congrArg (· :: []) (h.notices _)
  have hisDir : (isLink child && s'.fs.isDir (s.root.under (above ++ [name]))) =
      (isLink child && s.fs.isDir (s.root.under (above ++ [name]))) := by
    cases child with
    | link target => rw [h.links above rules name target hsearched hchild]
    | _ => rfl
  have hskipped := h.skipped (above ++ [name])
  have hfile := h.files above rules name child hsearched hchild hdir
  generalize s.root.under (above ++ [name]) = path at hisDir hskipped hfile ⊢
  unfold findOther
  extract_lets verdict judged
  have hverdict : judged.map visit' = judged.map visit := hjudged verdict path
  rw [hisDir, hskipped, h.root]
  split
  · exact hverdict
  · split
    · rw [List.map_append, List.map_append, hverdict, List.map_singleton, List.map_singleton, h.notices]
    · cases hkept : s.isSkipped path with
      | true => exact hverdict
      | false =>
        rw [if_neg Bool.false_ne_true, List.map_append, List.map_append, hverdict, List.map_singleton,
          List.map_singleton, ← found, hfile hkept]

/-- What is done at the entries of a directory, in order. -/
theorem map_eventsInside (dir : Path) (entries : List (Name × Node)) :
    (eventsInside s rules depth dir entries).map visit = ((sortByName entries).map fun entry =>
      (if s.reaches depth then eventsAt s rules depth (dir.entry entry.1) entry.1 entry.2 else []).map
        visit).flatten := by
  rw [eventsInside_eq, List.map_flatMap, List.flatMap_def]

theorem Alike.map_eventsInside (h : Alike s s' visit visit' node node') (habove : s.config.Keeps above)
    {entries entries' : List (Name × Node)} (hentries : node.at? above = some (.dir entries))
    (hentries' : node'.at? above = some (.dir entries'))
    (hsame : s.reaches depth → ∀ name child child', (name, child) ∈ entries →
      node.at? (above ++ [name]) = some child → node'.at? (above ++ [name]) = some child' →
      (eventsAt s' rules depth (s.root.under (above ++ [name])) name child').map visit' =
        (eventsAt s rules depth (s.root.under (above ++ [name])) name child).map visit) :
    (eventsInside s' rules depth (s.root.under above) entries').map visit' =
      (eventsInside s rules depth (s.root.under above) entries).map visit := by
  rw [Search.map_eventsInside, Search.map_eventsInside]
  refine congrArg List.flatten (h.shape.map_entries habove hentries hentries' _ _
    fun name child child' hentry hat hat' hkind => ?_)
  have hreaches : s'.reaches depth = s.reaches depth := by rw [reaches, reaches, h.config]
  rw [hreaches]
  split
  · rename_i hreached
    have hchild := hsame hreached name child child' hentry hat hat'
    rw [Path.under_concat] at hchild
    exact hchild
  · rfl

/-- Both meet the same at an entry and below it, and do the same with it. -/
theorem Alike.map_eventsAt (h : Alike s s' visit visit' node node') (hsearched : s.Searched node above rules)
    (hchild : node.at? (above ++ [name]) = some child) (hchild' : node'.at? (above ++ [name]) = some child') :
    (eventsAt s' rules (above.length + 1) (s.root.under (above ++ [name])) name child').map visit' =
      (eventsAt s rules (above.length + 1) (s.root.under (above ++ [name])) name child).map visit := by
  induction child using Node.nodeInduction generalizing above name child' rules with
  | other child hdir =>
    have hkind := h.shape.kind_eq hsearched.keeps hchild hchild'
    have hdir' : child'.isDir = false := by rw [Node.isDir_eq_of_kind hkind, hdir]
    have hlink : isLink child' = isLink child := by
      cases child <;> cases child' <;> first | rfl | cases hkind
    rw [eventsAt_of_not_dir hdir, eventsAt_of_not_dir hdir', hlink]
    exact h.map_findOther hsearched hchild hdir
  | dir entries ih =>
    have hkind := h.shape.kind_eq hsearched.keeps hchild hchild'
    cases child' with
    | dir entries' =>
      have hfinding : s'.findDir rules (above.length + 1) (s.root.under (above ++ [name])) name =
          s.findDir rules (above.length + 1) (s.root.under (above ++ [name])) name :=
        findDir_eq h.config fun hsome => h.levels above rules name entries hsearched hsome hchild
      have hnone : filesIn
          (s.findDir rules (above.length + 1) (s.root.under (above ++ [name])) name).events = [] :=
        filesIn_findDir _ name
      have htold := map_notices h.notices hnone
      rw [eventsAt, eventsAt, hfinding, List.map_append, List.map_append, htold]
      cases hinside : (s.findDir rules (above.length + 1) (s.root.under (above ++ [name])) name).inside with
      | none => rfl
      | some inside =>
        have hkept := hsearched.keeps.concat (of_inside_findDir hinside).1
        refine congrArg _ (h.map_eventsInside hkept hchild hchild' ?_)
        intro hreaches inner child child' hentry hat hat'
        have hbelow := ih (inner, child) hentry (.enter hsearched hchild hinside hreaches) hat hat'
        rw [List.length_append, List.length_singleton] at hbelow
        exact hbelow
    | _ => cases hkind

@[simp] theorem eventsInside_nil (dir : Path) : eventsInside s rules depth dir [] = [] := by
  rw [eventsInside, eventsBelow, sortByName, List.mergeSort_nil, List.flatMap_nil]

/-- Two searches that look alike below one root, and under the same rules there, meet what is done with
alike, in the same order. -/
theorem map_events (hroot : s'.root = s.root) (hrules : s'.rules = s.rules)
    (hbelow : FileSystem.AlikeBelow s.config s.root s.fs s'.fs)
    (hnotices : ∀ notice, visit' (.notice notice) = visit (.notice notice))
    (halike : ∀ loc node node', s.fs.resolve s.root = .ok (loc, node) →
      s'.fs.resolve s.root = .ok (loc, node') → Alike s s' visit visit' node node') :
    s'.events.map visit' = s.events.map visit := by
  have hworking : s'.fs.workingDir? = s.fs.workingDir? := by
    rw [FileSystem.workingDir?, FileSystem.workingDir?, hbelow.cwd, hbelow.process]
  have hstart : s'.startEvents s.rules = s.startEvents s.rules := by
    rw [startEvents, startEvents, hworking]
  have hbegun : s'.rootEvents s.rules = s.rootEvents s.rules := by
    rw [rootEvents, rootEvents, hroot, hbelow.isDir_eq]
    rcases hbelow.error_or_ok with ⟨e, here, there⟩ | ⟨loc, node, node', here, there, -, -⟩
    · rw [here, there]
    · rw [here, there]
  have hentries : (eventsInside s' s.rules 1 s.root s'.rootEntries).map visit' =
      (eventsInside s s.rules 1 s.root s.rootEntries).map visit := by
    rw [rootEntries, rootEntries, hroot]
    rcases hbelow.error_or_ok with ⟨e, here, there⟩ | ⟨loc, node, node', here, there, hkind, -⟩
    · simp only [here, there, eventsInside_nil, List.map_nil]
    · simp only [here, there]
      have h := halike loc node node' here there
      have hkept : s.config.Keeps [] := .nil s.config
      cases hdir : node.isDir with
      | false =>
        have hdir' : node'.isDir = false := by rw [Node.isDir_eq_of_kind hkind, hdir]
        rw [Node.entries_of_not_dir hdir, Node.entries_of_not_dir hdir', eventsInside_nil, eventsInside_nil]
        rfl
      | true =>
        cases node with
        | dir entries =>
          cases node' with
          | dir entries' =>
            refine h.map_eventsInside hkept rfl rfl fun hreaches name child child' hentry hat hat' => ?_
            exact h.map_eventsAt (.root hreaches) hat hat'
          | _ => cases hkind
        | _ => cases hdir
  unfold events
  dsimp only
  rw [hroot, hrules, hstart, List.map_append, List.map_append,
    map_notices hnotices filesIn_startEvents]
  split
  · rfl
  · rw [List.map_append, List.map_append, hbegun, map_notices hnotices filesIn_rootEvents]
    exact congrArg (fun listed => _ ++ (_ ++ listed)) hentries

end SourceSnapshot.Search
