import SourceSnapshot.Proofs.Search.Likeness
import SourceSnapshot.Proofs.Search.Streaming

/-! Searches while files are written. What is met then is a list too: the one that is noted by going along the
same search where files hold what they hold by then. So a visitor that writes does what it would do with that
list, and where nothing that is read is written the list is the one of a search of files at rest. -/
namespace SourceSnapshot.Search

/-- Two ways to go along one tree, step by step: what is done at each entry is related if what both find there
is, and what is related piece by piece is related in sequence. `reached` holds of the entries that are come
to, with the rules in force there. -/
structure Parallel {m m' : Type → Type} [Monad m] [Monad m'] (s s' : Search) (look : m FileSystem)
    (look' : m' FileSystem) (visit : Event → m Unit) (visit' : Event → m' Unit)
    (related : m Unit → m' Unit → Prop) (seen : FileSystem → FileSystem → Prop)
    (reached : Option Ignore.Stack → Nat → Path → Name → Node → Prop) : Prop where
  config : s'.config = s.config
  root : s'.root = s.root
  stop : related (pure ()) (pure ())
  seq : ∀ {first second first' second'}, related first first' → related second second' →
    related (first >>= fun _ => second) (first' >>= fun _ => second')
  look : ∀ {next next'}, (∀ fs fs', seen fs fs' → related (next fs) (next' fs')) →
    related (look >>= next) (look' >>= next')
  dir : ∀ {fs fs' rules depth path name entries}, seen fs fs' → reached rules depth path name (.dir entries) →
    (findDir { s' with fs := fs' } rules depth path name).inside =
      (findDir { s with fs } rules depth path name).inside ∧
    related ((findDir { s with fs } rules depth path name).events.forM visit)
      ((findDir { s' with fs := fs' } rules depth path name).events.forM visit')
  enter : ∀ {fs fs' rules depth path name entries inside}, seen fs fs' →
    reached rules depth path name (.dir entries) →
    (findDir { s with fs } rules depth path name).inside = some inside → s.reaches (depth + 1) →
    ∀ entry ∈ entries, reached inside.rules (depth + 1) (path.entry entry.1) entry.1 entry.2
  other : ∀ {fs fs' rules depth path name node}, seen fs fs' → node.isDir = false →
    reached rules depth path name node →
    related ((findOther { s with fs } rules path (isLink node)).forM visit)
      ((findOther { s' with fs := fs' } rules path (isLink node)).forM visit')

namespace Parallel
variable {m m' : Type → Type} [Monad m] [Monad m'] {s s' : Search}
  {look : m FileSystem} {look' : m' FileSystem} {visit : Event → m Unit} {visit' : Event → m' Unit}
  {related : m Unit → m' Unit → Prop} {seen : FileSystem → FileSystem → Prop}
  {reached : Option Ignore.Stack → Nat → Path → Name → Node → Prop}
  {rules : Option Ignore.Stack} {depth : Nat}

section
variable (h : Parallel s s' look look' visit visit' related seen reached)
include h

theorem reaches_eq (depth : Nat) : s'.reaches depth = s.reaches depth := by rw [reaches, reaches, h.config]

variable [LawfulMonad m] [LawfulMonad m']

theorem visitsInside {dir : Path} {entries : List (Name × Node)}
    (hentries : s.reaches depth → ∀ entry ∈ entries,
      related (visitAt look visit s rules depth (dir.entry entry.1) entry.1 entry.2)
        (visitAt look' visit' s' rules depth (dir.entry entry.1) entry.1 entry.2)) :
    related ((sortByName (visitsBelow look visit s rules depth dir entries)).forM Prod.snd)
      ((sortByName (visitsBelow look' visit' s' rules depth dir entries)).forM Prod.snd) := by
  rw [visitsBelow_eq_map, visitsBelow_eq_map, sortByName_map, sortByName_map, List.forM_eq_forM, List.forM_eq_forM,
    List.forM_map, List.forM_map]
  have hsorted : ∀ entry ∈ sortByName entries, entry ∈ entries := fun entry => mem_sortByName.1
  generalize sortByName entries = sorted at hsorted
  induction sorted with
  | nil => exact h.stop
  | cons entry rest ih =>
    rw [List.forM_cons, List.forM_cons]
    refine h.seq ?_ (ih fun other hother => hsorted other (List.mem_cons_of_mem _ hother))
    rw [h.reaches_eq]
    split
    · rename_i hreaches
      exact hentries hreaches entry (hsorted entry List.mem_cons_self)
    · exact h.stop

theorem visitAt {path : Path} {name : Name} {node : Node} (hreached : reached rules depth path name node) :
    related (Search.visitAt look visit s rules depth path name node)
      (Search.visitAt look' visit' s' rules depth path name node) := by
  induction node using Node.nodeInduction generalizing rules depth path name with
  | other node hnode =>
    rw [visitAt_of_not_dir hnode, visitAt_of_not_dir hnode]
    exact h.look fun fs fs' hseen => h.other hseen hnode hreached
  | dir entries ih =>
    rw [Search.visitAt, Search.visitAt]
    refine h.look fun fs fs' hseen => ?_
    obtain ⟨hinside, hevents⟩ := h.dir hseen hreached
    have henter (inside : Inside) (hinside : (findDir { s with fs } rules depth path name).inside = some inside) :=
      h.enter hseen hreached hinside
    refine h.seq hevents ?_
    rw [hinside]
    cases hfound : (findDir { s with fs } rules depth path name).inside with
    | none => exact h.stop
    | some inside =>
      exact h.visitsInside fun hreaches entry hentry => ih entry hentry (henter inside hfound hreaches entry hentry)

/-- The two go along the whole search, if they begin alike. -/
theorem forEachEventIn (hentries : s'.rootEntries = s.rootEntries)
    (hbegin : ∀ fs fs', seen fs fs' → Search.rules { s' with fs := fs' } = Search.rules { s with fs } ∧
      related ((startEvents { s with fs } (Search.rules { s with fs })).forM visit)
        ((startEvents { s' with fs := fs' } (Search.rules { s with fs })).forM visit') ∧
      related ((rootEvents { s with fs } (Search.rules { s with fs })).forM visit)
        ((rootEvents { s' with fs := fs' } (Search.rules { s with fs })).forM visit') ∧
      (s.reaches 1 → ∀ entry ∈ s.rootEntries,
        reached (Search.rules { s with fs }) 1 (s.root.entry entry.1) entry.1 entry.2)) :
    related (s.forEachEventIn look visit) (s'.forEachEventIn look' visit') := by
  rw [Search.forEachEventIn, Search.forEachEventIn]
  refine h.look fun fs fs' hseen => ?_
  obtain ⟨hrules, hstart, hroot, hreached⟩ := hbegin fs fs' hseen
  dsimp only
  rw [h.root] at hrules hstart hroot
  rw [h.root, hrules, hentries]
  refine h.seq hstart ?_
  split
  · exact h.stop
  · exact h.seq hroot (h.visitsInside fun hreaches entry hentry => h.visitAt (hreached hreaches entry hentry))

end

end Parallel

/-- What files hold, by what a search has met before. -/
abbrev World := List Event → FileSystem

def note (event : Event) : StateM (List Event) Unit := modify (· ++ [event])

/-- What a search meets in a world that changes with what was met. -/
def met (s : Search) (world : World) : List Event := ((s.forEachEventIn (world <$> get) note).run []).2

theorem run_forM_note (events before : List Event) :
    (events.forM note).run before = ((), before ++ events) := by
  induction events generalizing before with
  | nil => exact congrArg (Prod.mk ()) (List.append_nil before).symm
  | cons event events ih =>
    rw [List.append_cons]
    exact ih (before ++ [event])

/-- Where nothing changes a search meets what it meets in files at rest. -/
theorem met_const (s : Search) : s.met (fun _ => s.fs) = s.events := by
  have hlook : ((fun _ => s.fs) <$> get : StateM (List Event) FileSystem) = pure s.fs := rfl
  rw [met, hlook, ← forEachEvent, forEachEvent_eq_forM, run_forM_note, List.nil_append]

section Following
variable {σ ε : Type} {s : Search} {visit : Event → EStateM ε σ Unit} {start state : σ}

/-- The state that a step leaves, also if it fails. -/
def stateAfter (step : EStateM ε σ Unit) (start : σ) : σ :=
  match step start with
  | .ok _ state => state
  | .error _ state => state

/-- The step visits what the other notes, if it is taken where all noted before was visited. -/
def Follows (visit : Event → EStateM ε σ Unit) (start : σ) (step : EStateM ε σ Unit)
    (noting : StateM (List Event) Unit) : Prop :=
  ∀ before, ∃ found, noting.run before = ((), before ++ found) ∧
    ∀ state, before.forM visit start = .ok () state → step state = found.forM visit state

theorem follows_forM (events : List Event) : Follows visit start (events.forM visit) (events.forM note) :=
  fun before => ⟨events, run_forM_note events before, fun _ _ => rfl⟩

theorem forM_append (events more : List Event) :
    (events ++ more).forM visit = events.forM visit >>= fun _ => more.forM visit := by
  rw [List.forM_eq_forM, List.forM_append]

theorem Follows.seq {first second : EStateM ε σ Unit} {noting later : StateM (List Event) Unit}
    (h : Follows visit start first noting) (h' : Follows visit start second later) :
    Follows visit start (first >>= fun _ => second) (noting >>= fun _ => later) := by
  intro before
  obtain ⟨found, hnoting, hfirst⟩ := h before
  obtain ⟨more, hlater, hsecond⟩ := h' (before ++ found)
  refine ⟨found ++ more, ?_, ?_⟩
  · rw [StateT.run_bind, hnoting, ← List.append_assoc]
    exact hlater
  · intro state hstate
    rw [forM_append]
    simp only [bind, EStateM.bind, hfirst state hstate]
    cases hfound : found.forM visit state with
    | error e failed => rfl
    | ok value next =>
      refine hsecond next ?_
      rw [forM_append]
      simp only [bind, EStateM.bind, hstate, hfound]

/-- A visitor that may write does, as the search goes on, what it would do with what the search meets where
files hold what the visitor has left there by then. -/
theorem forEachEventIn_eq_forM_met (sight : σ → FileSystem) :
    s.forEachEventIn (fun state => .ok (sight state) state) visit start =
      (s.met fun events => sight (stateAfter (events.forM visit) start)).forM visit start := by
  let world : World := fun events => sight (stateAfter (events.forM visit) start)
  have hparallel : Parallel s s (fun state => .ok (sight state) state) (world <$> get) visit note
      (Follows visit start) Eq (fun _ _ _ _ _ => True) := {
    config := rfl
    root := rfl
    stop := follows_forM []
    seq := fun h h' => h.seq h'
    look := by
      intro next next' hnext before
      obtain ⟨found, hnoting, hstep⟩ := hnext (world before) (world before) rfl before
      refine ⟨found, hnoting, fun state hstate => ?_⟩
      have hsight : sight state = world before := by simp only [world, stateAfter, hstate]
      rw [← hstep state hstate, ← hsight]
      rfl
    dir := by
      rintro fs _ rules depth path name entries rfl -
      exact ⟨rfl, follows_forM _⟩
    enter := fun _ _ _ _ _ _ => trivial
    other := by
      rintro fs _ rules depth path name node rfl - -
      exact follows_forM _ }
  have hfollows : Follows visit start (s.forEachEventIn (fun state => .ok (sight state) state) visit)
      (s.forEachEventIn (world <$> get) note) := by
    refine hparallel.forEachEventIn rfl ?_
    rintro fs _ rfl
    exact ⟨rfl, follows_forM _, follows_forM _, fun _ _ _ => trivial⟩
  obtain ⟨found, hnoting, hstep⟩ := hfollows []
  have hmet : s.met world = found := congrArg Prod.snd hnoting
  rw [hstep start rfl, hmet]

end Following

section Skipping
variable {s : Search} {path : Path}

/-- Whether something met is no file that is left out. -/
def keeps (s : Search) : Event → Bool
  | .file file => !s.isSkipped file.path
  | .notice _ => true

theorem filter_keeps_of_notices {events : List Event} (h : filesIn events = []) :
    events.filter s.keeps = events := by
  rw [List.filter_eq_self]
  intro event hevent
  cases event with
  | notice notice => rfl
  | file file =>
    have hfile := mem_filesIn.2 hevent
    rw [h] at hfile
    cases hfile

theorem filesIn_filter_keeps (events : List Event) :
    filesIn (events.filter s.keeps) = (filesIn events).filter fun file => !s.isSkipped file.path := by
  induction events with
  | nil => rfl
  | cons event events ih =>
    cases event with
    | notice notice => exact ih
    | file file =>
      have hfiles (rest : List Event) : filesIn (.file file :: rest) = file :: filesIn rest := rfl
      rw [List.filter_cons, hfiles, List.filter_cons, keeps]
      cases s.isSkipped file.path with
      | true => exact ih
      | false =>
        rw [Bool.not_false, if_pos rfl, if_pos rfl, hfiles]
        exact congrArg (file :: ·) ih

theorem findOther_filter_keeps (hs : s.skip = none) {fs : FileSystem}
    (hfs : ∀ path, fs.canonical? path = s.fs.canonical? path) (rules : Option Ignore.Stack) (there : Path)
    (isLink : Bool) : findOther { s.skipping path with fs } rules there isLink =
      (findOther { s with fs } rules there isLink).filter (s.skipping path).keeps := by
  have hall : isSkipped { s with fs } there = false := by rw [isSkipped, hs]
  have hskipped : isSkipped { s.skipping path with fs } there = (s.skipping path).isSkipped there := by
    rw [isSkipped, isSkipped]
    cases (s.skipping path).skip with
    | none => rfl
    | some loc => exact congrArg (· == some loc) (hfs there)
  have hjudged (verdict : Option Ignore.Verdict) :
      ((verdict.map fun verdict => Event.notice (.judged there verdict)).toList).filter (s.skipping path).keeps =
        (verdict.map fun verdict => Event.notice (.judged there verdict)).toList := by
    cases verdict <;> rfl
  unfold findOther
  dsimp only
  rw [hall, hskipped]
  split
  · exact (hjudged _).symm
  · split
    · rw [List.filter_append, hjudged]
      rfl
    · rw [if_neg Bool.false_ne_true, List.filter_append, hjudged]
      have hroot : (s.skipping path).root = s.root := rfl
      cases hkept : (s.skipping path).isSkipped there <;> simp [keeps, hkept, hroot]

/-- The step notes what the other notes and `s` keeps, if it is taken where all kept was noted. -/
def NotesKept (s : Search) (step whole : StateM (List Event) Unit) : Prop :=
  ∀ before, ∃ found, whole.run before = ((), before ++ found) ∧
    step.run (before.filter s.keeps) = ((), (before ++ found).filter s.keeps)

theorem notesKept_forM (events : List Event) :
    s.NotesKept ((events.filter s.keeps).forM note) (events.forM note) := by
  refine fun before => ⟨events, run_forM_note events before, ?_⟩
  rw [run_forM_note, List.filter_append]

theorem notesKept_notices {events : List Event} (h : filesIn events = []) :
    s.NotesKept (events.forM note) (events.forM note) := by
  have hkept := notesKept_forM (s := s) events
  rwa [filter_keeps_of_notices h] at hkept

/-- To leave out a file takes that file away from what is met, and the world goes on without it. -/
theorem met_skipping (hs : s.skip = none) (world : World)
    (hworld : ∀ events path, (world events).canonical? path = s.fs.canonical? path) :
    (s.skipping path).met world =
      (s.met fun events => world (events.filter (s.skipping path).keeps)).filter (s.skipping path).keeps := by
  let whole : World := fun events => world (events.filter (s.skipping path).keeps)
  have hparallel : Parallel (s.skipping path) s (world <$> get) (whole <$> get) note note
      (s.skipping path).NotesKept (fun fs fs' => fs' = fs ∧ ∀ path, fs.canonical? path = s.fs.canonical? path)
      (fun _ _ _ _ _ => True) := {
    config := rfl
    root := rfl
    stop := notesKept_forM []
    seq := by
      intro first second first' second' h h' before
      obtain ⟨found, hwhole, hstep⟩ := h before
      obtain ⟨more, hwhole', hstep'⟩ := h' (before ++ found)
      refine ⟨found ++ more, ?_, ?_⟩
      · rw [StateT.run_bind, hwhole, ← List.append_assoc]
        exact hwhole'
      · rw [StateT.run_bind, hstep, ← List.append_assoc]
        exact hstep'
    look := by
      intro next next' hnext before
      exact hnext (whole before) (whole before) ⟨rfl, hworld _⟩ before
    dir := by
      rintro fs _ rules depth there name entries ⟨rfl, -⟩ -
      exact ⟨rfl, notesKept_notices (filesIn_findDir _ _)⟩
    enter := fun _ _ _ _ _ _ => trivial
    other := by
      rintro fs _ rules depth there name node ⟨rfl, hfs⟩ - -
      rw [findOther_filter_keeps hs hfs]
      exact notesKept_forM _ }
  have hnotes : (s.skipping path).NotesKept ((s.skipping path).forEachEventIn (world <$> get) note)
      (s.forEachEventIn (whole <$> get) note) := by
    refine hparallel.forEachEventIn rfl ?_
    rintro fs _ ⟨rfl, -⟩
    exact ⟨rfl, notesKept_notices filesIn_startEvents, notesKept_notices filesIn_rootEvents, fun _ _ _ => trivial⟩
  obtain ⟨found, hwhole, hstep⟩ := hnotes []
  have hmet : s.met whole = found := congrArg Prod.snd hwhole
  rw [hmet]
  exact congrArg Prod.snd hstep

end Skipping

section Resting
variable {m : Type → Type} [Monad m] [LawfulMonad m] {s : Search} {visit visit' : Event → m Unit}
  {seen : FileSystem → Prop}

/-- An entry that the search of files at rest comes to, with these rules in force. -/
def Reached (s : Search) (rules : Option Ignore.Stack) (depth : Nat) (path : Path) (name : Name)
    (node : Node) : Prop :=
  ∃ loc top above, s.fs.resolve s.root = .ok (loc, top) ∧ s.Searched top above rules ∧
    depth = above.length + 1 ∧ path = s.root.under (above ++ [name]) ∧ top.at? (above ++ [name]) = some node

theorem reached_root (hreaches : s.reaches 1) {entry : Name × Node} (hentry : entry ∈ s.rootEntries) :
    s.Reached s.rules 1 (s.root.entry entry.1) entry.1 entry.2 := by
  rw [rootEntries] at hentry
  split at hentry
  · rename_i loc node hroot
    have hnames := (FileSystem.distinct_of_resolve hroot).nodup_entries
    refine ⟨loc, node, [], hroot, .root hreaches, rfl, (Path.under_concat s.root [] entry.1).symm, ?_⟩
    rw [List.nil_append, Node.at?_singleton, Node.lookup_of_mem hnames hentry]
  · cases hentry

theorem Reached.enter {rules : Option Ignore.Stack} {depth : Nat} {path : Path} {name : Name}
    {entries : List (Name × Node)} {inside : Inside} (h : s.Reached rules depth path name (.dir entries))
    (hinside : (s.findDir rules depth path name).inside = some inside) (hreaches : s.reaches (depth + 1))
    {entry : Name × Node} (hentry : entry ∈ entries) :
    s.Reached inside.rules (depth + 1) (path.entry entry.1) entry.1 entry.2 := by
  obtain ⟨loc, top, above, hroot, hsearched, rfl, rfl, hdir⟩ := h
  have hnames := ((FileSystem.distinct_of_resolve hroot).at? hdir).1
  refine ⟨loc, top, above ++ [name], hroot, .enter hsearched hdir hinside hreaches, ?_, (Path.under_concat ..).symm, ?_⟩
  · rw [List.length_append, List.length_singleton]
  · rw [Node.at?_append, hdir, Option.bind_some, Node.at?_singleton]
    exact Node.lookup_of_mem hnames hentry

theorem forM_map_id (visit : Event → m Unit) (events : List Event) :
    events.forM visit = (events.map visit).forM id := by
  simp only [List.forM_eq_forM, List.forM_map, id]

section
variable {look : m FileSystem}
  (hlook : ∀ (next : FileSystem → m Unit) (step : m Unit), (∀ fs, seen fs → next fs = step) → look >>= next = step)
include hlook

theorem parallel_of_alike (halike : ∀ fs, seen fs → ∀ loc node, s.fs.resolve s.root = .ok (loc, node) →
      Alike s { s with fs } visit visit node node) :
    Parallel s s look (pure s.fs) visit visit Eq (fun fs fs' => seen fs ∧ fs' = s.fs) s.Reached where
  config := rfl
  root := rfl
  stop := rfl
  seq := by
    rintro first second _ _ rfl rfl
    rfl
  look := by
    intro next next' hnext
    rw [pure_bind]
    exact hlook next _ fun fs hseen => hnext fs s.fs ⟨hseen, rfl⟩
  dir := by
    rintro fs _ rules depth path name entries ⟨hseen, rfl⟩ ⟨loc, top, above, hroot, hsearched, rfl, rfl, hdir⟩
    have h := halike fs hseen loc top hroot
    have hfind : findDir { s with fs } rules (above.length + 1) (s.root.under (above ++ [name])) name =
        s.findDir rules (above.length + 1) (s.root.under (above ++ [name])) name :=
      findDir_eq h.config fun hsome => h.levels above rules name entries hsearched hsome hdir
    rw [hfind]
    exact ⟨rfl, rfl⟩
  enter := by
    rintro fs _ rules depth path name entries inside ⟨hseen, rfl⟩ hreached hinside hreaches entry hentry
    refine hreached.enter ?_ hreaches hentry
    obtain ⟨loc, top, above, hroot, hsearched, rfl, rfl, hdir⟩ := hreached
    have h := halike fs hseen loc top hroot
    rw [← hinside]
    exact (congrArg Finding.inside (findDir_eq h.config fun hsome =>
      h.levels above rules name entries hsearched hsome hdir)).symm
  other := by
    rintro fs _ rules depth path name node ⟨hseen, rfl⟩ hnode ⟨loc, top, above, hroot, hsearched, rfl, rfl, hnode'⟩
    rw [forM_map_id visit, forM_map_id visit, (halike fs hseen loc top hroot).map_findOther hsearched hnode' hnode]

/-- Where all that the search reads stays as it is, a visitor that may write does what it does with files at
rest. -/
theorem forEachEventIn_of_alike
    (hbegin : ∀ fs, seen fs → Search.rules { s with fs } = s.rules ∧
      startEvents { s with fs } s.rules = s.startEvents s.rules ∧
      rootEvents { s with fs } s.rules = s.rootEvents s.rules)
    (halike : ∀ fs, seen fs → ∀ loc node, s.fs.resolve s.root = .ok (loc, node) →
      Alike s { s with fs } visit visit node node) :
    s.forEachEventIn look visit = s.forEachEvent visit := by
  cases hstandard : isStandardInput s.root with
  | true =>
    rw [forEachEvent, forEachEventIn, forEachEventIn, pure_bind]
    refine hlook _ _ fun fs hseen => ?_
    obtain ⟨hrules, hstart, -⟩ := hbegin fs hseen
    dsimp only
    rw [hrules, hstart, if_pos hstandard, if_pos hstandard]
  | false =>
    refine (parallel_of_alike hlook halike).forEachEventIn rfl ?_
    rintro fs _ ⟨hseen, rfl⟩
    obtain ⟨hrules, hstart, hroot⟩ := hbegin fs hseen
    rw [hrules, hstart, hroot]
    exact ⟨rfl, rfl, rfl, fun hreaches entry hentry => reached_root hreaches hentry⟩

end

end Resting

end SourceSnapshot.Search
