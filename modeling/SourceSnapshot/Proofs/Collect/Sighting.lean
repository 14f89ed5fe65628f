import SourceSnapshot.Proofs.Collect.Composition
import SourceSnapshot.Proofs.FileSystem.Opening
import SourceSnapshot.Proofs.Search.Untouched

/-! What a run into a file sees. Part of its artifact may be on the disk by the time that it comes to a file, so
each file belongs with the file system as it is then. A run that succeeds has written the opening and a block
for each of the files so seen, and counted them; of its own output it can only have read the beginning of the
artifact. -/
namespace SourceSnapshot

/-- A file that is met, and the file system by then. -/
structure Sighting where
  file : FoundFile
  fs : FileSystem

namespace Collection
open Artifact Search

/-- The files among what is met in a world, after all that was met before. -/
def sightings (world : World) (before : List Event) : List Event → List Sighting
  | [] => []
  | .file file :: rest => ⟨file, world before⟩ :: sightings world (before ++ [.file file]) rest
  | .notice notice :: rest => sightings world (before ++ [.notice notice]) rest

theorem map_file_sightings (world : World) (before events : List Event) :
    (sightings world before events).map Sighting.file = filesIn events := by
  induction events generalizing before with
  | nil => rfl
  | cons event events ih =>
    cases event with
    | notice notice => exact ih _
    | file file => exact congrArg (file :: ·) (ih _)

variable (c : Collection)

def fatesOf (seen : List Sighting) : List Fate := seen.map fun s => c.fate s.fs s.file

def blocksOf (seen : List Sighting) : List (Path × Outcome) := seen.flatMap fun s => c.blocks s.fs [s.file]

theorem blocksOf_cons (s : Sighting) (seen : List Sighting) :
    c.blocksOf (s :: seen) = c.blocks s.fs [s.file] ++ c.blocksOf seen := List.flatMap_cons

/-- Files at rest are all seen in one file system. -/
theorem blocksOf_map (fs : FileSystem) (files : List FoundFile) :
    c.blocksOf (files.map (⟨·, fs⟩)) = c.blocks fs files := by
  induction files with
  | nil => rfl
  | cons file files ih => rw [List.map_cons, blocksOf_cons, ih, ← blocks_cons]

abbrev startInto (emptied : FileSystem) (opened : FileSystem.Opened) (output : Path) : Progress :=
  startOf (sinkOf emptied opened) (some output)

/-- The file system as a run finds it that has drawn the structure and taken all this. -/
def worldOf (emptied : FileSystem) (opened : FileSystem.Opened) (root output : Path) : World := fun events =>
  sightOf emptied opened (stateAfter (c.takeStructure emptied root >>= fun _ =>
    events.forM (c.takeEvent (sightOf emptied opened))) (startInto emptied opened output)).writer

def seenBy (emptied : FileSystem) (opened : FileSystem.Opened) (root output : Path) : List Sighting :=
  sightings (c.worldOf emptied opened root output) []
    ((c.search emptied root (some output)).met (c.worldOf emptied opened root output))

variable {c} {emptied fs : FileSystem} {opened : FileSystem.Opened} {root output : Path} {sight : Sight}
  {start p q : Progress} {summary : Summary}

theorem accepted_sinkOf (emptied : FileSystem) (opened : FileSystem.Opened) :
    (sinkOf emptied opened).accepted = [] := by
  cases opened with
  | device device => cases device <;> rfl
  | file loc =>
    rw [sinkOf]
    cases emptied.limit loc <;> rfl

/-- At first nothing is written yet. -/
theorem sightOf_start {prepared : FileSystem} (h : FileSystem.Opens prepared output opened emptied) :
    sightOf emptied opened (startInto emptied opened output).writer = emptied := by
  have hstored : (startInto emptied opened output).writer.sink.stored = [] := by
    rw [Sink.stored, startInto, startOf, accepted_sinkOf, List.take_nil]
  rw [sightOf, hstored]
  cases opened with
  | device device => rfl
  | file loc => exact h.setContent_nil

theorem canonical?_keep (artifact : Bytes) (path : Path) :
    (keep emptied artifact opened).canonical? path = emptied.canonical? path := by
  cases opened with
  | device device => rfl
  | file loc => exact FileSystem.canonical?_setContent emptied loc artifact path

/-- What is read elsewhere is what was there before the run. -/
theorem read_keep {path : Path} (h : ∀ loc, opened = .file loc → emptied.Misses path loc) (artifact : Bytes) :
    (keep emptied artifact opened).read path = emptied.read path := by
  cases opened with
  | device device => rfl
  | file loc => exact FileSystem.read_setContent (h loc rfl)

section Running

/-- A step that succeeds has had its text taken. -/
theorem Takes.of_ok {step : Run Unit} {text : String} {lines : Nat} {counted : Summary → Summary}
    (h : Takes step text lines counted) (hstep : step p = .ok () q) :
    p.writer.sink.Took (Utf8.encode text) q.writer.sink ∧ q.writer.lines = p.writer.lines + lines ∧
      q.summary = counted p.summary := by
  have hfits : p.writer.sink.Fits (Utf8.encode text).length := by
    intro room hroom
    refine Nat.le_of_not_lt fun hlt => ?_
    obtain ⟨failed, hfailed, -⟩ := h.error p room hroom hlt
    cases hstep.symm.trans hfailed
  obtain ⟨next, hnext, htook, hseen⟩ := h.ok p hfits
  obtain ⟨-, rfl⟩ := EStateM.Result.ok.inj (hstep.symm.trans hnext)
  obtain ⟨hlines, hsummary⟩ := Prod.mk.inj hseen
  exact ⟨htook, hlines, hsummary⟩

/-- How a step ends that only writes: all its text was taken, or the sink was filled up and the step fails as
the sink does. -/
inductive Went (p : Progress) : EStateM.Result IoError Progress Unit → Prop
  | taken {next : Progress} {text : Bytes} (hfits : p.writer.sink.Fits text.length)
      (h : p.writer.sink.Took text next.writer.sink) : Went p (.ok () next)
  | filled {failed : Progress} {text : Bytes} (hroom : p.writer.sink.room = some text.length)
      (h : p.writer.sink.Took text failed.writer.sink) : Went p (.error p.writer.sink.failure failed)

theorem Takes.went {step : Run Unit} {text : String} {lines : Nat} {counted : Summary → Summary}
    (h : Takes step text lines counted) (p : Progress) : Went p (step p) := by
  by_cases hfits : p.writer.sink.Fits (Utf8.encode text).length
  · obtain ⟨next, hnext, htook, -⟩ := h.ok p hfits
    rw [hnext]
    exact .taken hfits htook
  · simp only [Sink.Fits, not_forall, Nat.not_le] at hfits
    obtain ⟨room, hroom, hlt⟩ := hfits
    obtain ⟨failed, hfailed, htook⟩ := h.error p room hroom hlt
    rw [hfailed]
    refine .filled ?_ htook
    rw [hroom, List.length_take_of_le (Nat.le_of_lt hlt)]

/-- What is left of a sink is filled up as the whole of it is. -/
theorem Went.after {text : Bytes} {result : EStateM.Result IoError Progress Unit}
    (hfits : p.writer.sink.Fits text.length) (htook : p.writer.sink.Took text q.writer.sink)
    (h : Went q result) : Went p result := by
  cases h with
  | taken hmore h =>
    refine .taken ?_ (htook.trans h)
    intro room hroom
    have hleft := hmore (room - text.length) (by rw [htook.room, hroom, Option.map_some])
    have hle := hfits room hroom
    rw [List.length_append]
    omega
  | filled hmore h =>
    rw [htook.failure]
    rw [htook.room] at hmore
    obtain ⟨room, hroom, hleft⟩ := Option.map_eq_some_iff.1 hmore
    have hle := hfits room hroom
    refine .filled ?_ (htook.trans h)
    rw [hroom, List.length_append, ← hleft, Nat.add_sub_cancel' hle]

theorem Went.seq {first second : Run Unit} (h : Went p (first p)) (h' : ∀ next, first p = .ok () next →
    Went next (second next)) : Went p ((first >>= fun _ => second) p) := by
  simp only [bind, EStateM.bind]
  cases hfirst : first p with
  | ok _ next =>
    rw [hfirst] at h
    cases h with
    | taken hfits htook => exact (h' next hfirst).after hfits htook
  | error e failed =>
    rw [hfirst] at h
    exact h

/-- Whatever a run takes, it fails only where its sink is filled up. -/
theorem went_forM (sight : Sight) (events : List Event) (p : Progress) :
    Went p (events.forM (c.takeEvent sight) p) := by
  induction events generalizing p with
  | nil =>
    have hfits : p.writer.sink.Fits ([] : Bytes).length := fun room _ => Nat.zero_le room
    exact .taken hfits (.nil _)
  | cons event events ih =>
    refine Went.seq ?_ fun next _ => ih next
    cases event with
    | notice notice => exact (takes_tellAll notice.records).went p
    | file file => exact (c.takes_takeFile (sight p.writer) file).went p

/-- What a run has written and counted that takes what is met, each file as it sees it. -/
structure Took (c : Collection) (sight : Sight) (seen : List Sighting) (p q : Progress) : Prop where
  sink : p.writer.sink.Took (Utf8.encode (blocksText (c.blocksOf seen))) q.writer.sink
  lines : q.writer.lines = p.writer.lines + blocksLines (c.blocksOf seen)
  summary : q.summary = (c.fatesOf seen).foldl Summary.count p.summary
  sights : ∀ s ∈ seen, ∃ writer : Writer, s.fs = sight writer ∧
    writer.sink.accepted <+: q.writer.sink.accepted

theorem Took.nil (c : Collection) (sight : Sight) (p : Progress) : Took c sight [] p p where
  sink := .nil _
  lines := rfl
  summary := rfl
  sights := nofun

theorem Took.cons {seen : List Sighting} {file : FoundFile} {next : Progress}
    (hfile : c.takeFile (sight p.writer) file p = .ok () next) (h : Took c sight seen next q) :
    Took c sight (⟨file, sight p.writer⟩ :: seen) p q := by
  obtain ⟨hsink, hlines, hsummary⟩ := (c.takes_takeFile (sight p.writer) file).of_ok hfile
  have hboth := hsink.trans h.sink
  exact {
    sink := by
      rw [blocksOf_cons, blocksText_append, Utf8.encode_append]
      exact hboth
    lines := by rw [h.lines, hlines, blocksOf_cons, blocksLines_append, Nat.add_assoc]
    summary := by
      rw [h.summary, hsummary]
      rfl
    sights := by
      intro s hs
      rcases List.mem_cons.1 hs with rfl | hs
      · refine ⟨p.writer, rfl, ?_⟩
        rw [hboth.accepted]
        exact List.prefix_append _ _
      · exact h.sights s hs }

theorem Took.told {seen : List Sighting} {records : List Log.Record} {next : Progress}
    (hnotice : tellAll records p = .ok () next) (h : Took c sight seen next q) : Took c sight seen p q := by
  obtain ⟨-, rfl⟩ := EStateM.Result.ok.inj hnotice
  exact ⟨h.sink, h.lines, h.summary, h.sights⟩

/-- A run that takes what is met, after all that was met before, has taken the files as it saw them. -/
theorem took_of_forM {before events : List Event}
    (hbefore : before.forM (c.takeEvent sight) start = .ok () p)
    (hevents : events.forM (c.takeEvent sight) p = .ok () q) :
    Took c sight (sightings (fun events => sight (stateAfter (events.forM (c.takeEvent sight)) start).writer)
      before events) p q := by
  induction events generalizing before p with
  | nil =>
    obtain ⟨-, rfl⟩ := EStateM.Result.ok.inj hevents
    exact .nil c sight p
  | cons event events ih =>
    have hsplit : (event :: events).forM (c.takeEvent sight) p =
        (c.takeEvent sight event >>= fun _ => events.forM (c.takeEvent sight)) p := rfl
    rw [hsplit] at hevents
    simp only [bind, EStateM.bind] at hevents
    split at hevents
    case h_2 => cases hevents
    rename_i next hnext
    have hmore : (before ++ [event]).forM (c.takeEvent sight) start = .ok () next := by
      have hlast : [event].forM (c.takeEvent sight) p = .ok () next := by
        have hsingle : [event].forM (c.takeEvent sight) p =
            (c.takeEvent sight event >>= fun _ => pure ()) p := rfl
        rw [hsingle]
        simp only [bind, EStateM.bind, hnext]
        rfl
      rw [forM_append]
      simp only [bind, EStateM.bind, hbefore, hlast]
    have hrest := ih hmore hevents
    cases event with
    | notice notice => exact hrest.told hnext
    | file file =>
      have hsight : sight (stateAfter (before.forM (c.takeEvent sight)) start).writer = sight p.writer := by
        simp only [stateAfter, hbefore]
      rw [sightings, hsight]
      exact hrest.cons hnext

/-- The artifact of a run that writes to what was opened, as a text. -/
def artifactSeen (c : Collection) (emptied : FileSystem) (opened : FileSystem.Opened) (root output : Path) :
    String :=
  Artifact.text (c.drawing? emptied root) (c.blocksOf (c.seenBy emptied opened root output))

def countedSeen (c : Collection) (emptied : FileSystem) (opened : FileSystem.Opened) (root output : Path) :
    Summary :=
  { (c.fatesOf (c.seenBy emptied opened root output)).foldl Summary.count
      { output, drawn := (c.drawing? emptied root).isSome } with
    lines := blocksLines (c.blocksOf (c.seenBy emptied opened root output)) }

/-- A run that writes to what was opened draws the structure and then takes what it meets. -/
theorem take_start (c : Collection) (root : Path) {prepared : FileSystem}
    (h : FileSystem.Opens prepared output opened emptied) :
    c.take (sightOf emptied opened) root (some output) (startInto emptied opened output) =
      ((c.takeStructure emptied root >>= fun _ =>
        (c.search emptied root (some output)).forEachEventIn (look (sightOf emptied opened))
          (c.takeEvent (sightOf emptied opened))) >>= fun _ => ending) (startInto emptied opened output) := by
  rw [take_eq]
  have hlook : look (sightOf emptied opened) (startInto emptied opened output) =
      .ok emptied (startInto emptied opened output) := by
    rw [look, sightOf_start h]
  generalize startInto emptied opened output = start at hlook ⊢
  simp only [bind, EStateM.bind, hlook]

/-- What the search of such a run does, once the structure is drawn. -/
theorem forEachEventIn_eq_worldOf
    (hdrawn : c.takeStructure emptied root (startInto emptied opened output) = .ok () p) :
    (c.search emptied root (some output)).forEachEventIn (look (sightOf emptied opened))
        (c.takeEvent (sightOf emptied opened)) p =
      ((c.search emptied root (some output)).met (c.worldOf emptied opened root output)).forM
        (c.takeEvent (sightOf emptied opened)) p ∧
    c.worldOf emptied opened root output = fun events =>
      sightOf emptied opened (stateAfter (events.forM (c.takeEvent (sightOf emptied opened))) p).writer := by
  have hworld : c.worldOf emptied opened root output = fun events =>
      sightOf emptied opened (stateAfter (events.forM (c.takeEvent (sightOf emptied opened))) p).writer := by
    funext events
    simp only [worldOf, stateAfter, bind, EStateM.bind, hdrawn]
  refine ⟨?_, hworld⟩
  rw [hworld]
  exact forEachEventIn_eq_forM_met fun p : Progress => sightOf emptied opened p.writer

theorem ending_eq_ok (h : ending p = .ok summary q) :
    p.writer.sink.closeFailure = none ∧ q.writer = p.writer ∧
      summary = { p.summary with lines := p.writer.lines } := by
  rw [ending_eq] at h
  dsimp only at h
  split at h
  · rename_i hclose
    obtain ⟨rfl, rfl⟩ := EStateM.Result.ok.inj h
    exact ⟨hclose, rfl, rfl⟩
  · cases h

theorem exists_take_of_snapshotInto
    (h : (c.snapshotInto emptied opened root output).result = .ok summary) :
    ∃ q, c.take (sightOf emptied opened) root (some output) (startInto emptied opened output) = .ok summary q ∧
      (c.snapshotInto emptied opened root output).artifact = q.writer.sink.accepted := by
  unfold snapshotInto snapshotSeeing at h ⊢
  cases htake : c.take (sightOf emptied opened) root (some output) (startInto emptied opened output) with
  | error e failed =>
    rw [htake] at h
    cases h
  | ok found q =>
    rw [htake] at h
    obtain rfl := Except.ok.inj h
    exact ⟨q, rfl, rfl⟩

/-- A run that succeeds has written its whole artifact and counted all that it has seen. If it has seen its own
output, then with a beginning of the artifact in it. -/
theorem written_of_snapshotInto {prepared : FileSystem}
    (hopens : FileSystem.Opens prepared output opened emptied)
    (h : (c.snapshotInto emptied opened root output).result = .ok summary) :
    (c.snapshotInto emptied opened root output).artifact =
        Utf8.encode (c.artifactSeen emptied opened root output) ∧
      summary = c.countedSeen emptied opened root output ∧
      ∀ s ∈ c.seenBy emptied opened root output, ∃ n,
        s.fs = keep emptied ((Utf8.encode (c.artifactSeen emptied opened root output)).take n) opened := by
  obtain ⟨final, htake, hartifact⟩ := exists_take_of_snapshotInto h
  rw [take_start c root hopens] at htake
  -- the drawing, what is met, and the end of the run, each of which succeeds
  simp only [bind, EStateM.bind] at htake
  split at htake
  case h_2 => cases htake
  rename_i last hbody
  split at hbody
  case h_2 => cases hbody
  rename_i drawn hdrawn
  obtain ⟨hvisits, hworld⟩ := forEachEventIn_eq_worldOf hdrawn
  rw [hvisits] at hbody
  obtain ⟨hopening, hnone, hdrawing⟩ := (c.takes_takeStructure emptied root).of_ok hdrawn
  have hnothing : ([] : List Event).forM (c.takeEvent (sightOf emptied opened)) drawn = .ok () drawn := rfl
  have htook := took_of_forM hnothing hbody
  rw [← hworld, ← seenBy] at htook
  obtain ⟨-, hwriter, rfl⟩ := ending_eq_ok htake
  have hsink := hopening.trans htook.sink
  have haccepted : final.writer.sink.accepted = Utf8.encode (c.artifactSeen emptied opened root output) := by
    rw [hwriter, hsink.accepted, startInto, startOf, accepted_sinkOf, List.nil_append, ← Utf8.encode_append]
    rfl
  refine ⟨hartifact.trans haccepted, ?_, ?_⟩
  · have hlines : last.writer.lines = blocksLines (c.blocksOf (c.seenBy emptied opened root output)) := by
      rw [htook.lines, hnone, startInto, startOf, Nat.zero_add]
    rw [htook.summary, hdrawing, hlines]
    rfl
  · intro s hs
    obtain ⟨writer, hfs, htaken⟩ := htook.sights s hs
    have hall : writer.sink.accepted <+: Utf8.encode (c.artifactSeen emptied opened root output) := by
      rwa [← haccepted, hwriter]
    refine ⟨writer.sink.accepted.length - writer.sink.held, ?_⟩
    rw [hfs, sightOf, Sink.stored, List.prefix_iff_eq_take.1 hall, List.take_take, List.length_take]
    congr 2
    omega

/-- All that such a run does before its end. -/
theorem exists_went_of_take (c : Collection) (root : Path) {prepared : FileSystem}
    (hopens : FileSystem.Opens prepared output opened emptied) :
    ∃ body : Run Unit, Went (startInto emptied opened output) (body (startInto emptied opened output)) ∧
      c.take (sightOf emptied opened) root (some output) (startInto emptied opened output) =
        (body >>= fun _ => ending) (startInto emptied opened output) := by
  refine ⟨_, ?_, take_start c root hopens⟩
  refine Went.seq ((c.takes_takeStructure emptied root).went _) fun drawn hdrawn => ?_
  rw [(forEachEventIn_eq_worldOf hdrawn).1]
  exact went_forM ..

/-- How a run ends that writes to what can be closed: it succeeds, or what it writes to was filled up. -/
theorem result_of_snapshotInto (c : Collection) (root : Path) {prepared : FileSystem}
    (hopens : FileSystem.Opens prepared output opened emptied)
    (hclose : (sinkOf emptied opened).closeFailure = none) :
    (∃ summary, (c.snapshotInto emptied opened root output).result = .ok summary) ∨
      (c.snapshotInto emptied opened root output).result = .error (sinkOf emptied opened).failure ∧
      (sinkOf emptied opened).room = some (c.snapshotInto emptied opened root output).artifact.length := by
  have hnew : (startInto emptied opened output).writer.sink = sinkOf emptied opened := rfl
  obtain ⟨body, hwent, htake⟩ := exists_went_of_take c root hopens
  unfold snapshotInto snapshotSeeing
  rw [htake]
  simp only [bind, EStateM.bind]
  cases hbody : body (startInto emptied opened output) with
  | ok _ last =>
    rw [hbody] at hwent
    cases hwent with
    | taken hfits htook =>
      have hend := ending_eq last
      rw [htook.closeFailure, hnew, hclose] at hend
      simp only [hend]
      exact .inl ⟨_, rfl⟩
  | error e failed =>
    rw [hbody] at hwent
    cases hwent with
    | filled hroom htook =>
      have haccepted := htook.accepted
      rw [hnew, accepted_sinkOf, List.nil_append] at haccepted
      exact .inr ⟨rfl, hroom.trans (congrArg (fun text => some text.length) haccepted.symm)⟩

end Running

section Walking

theorem isSkipped_search (c : Collection) (fs : FileSystem) (root output path : Path) :
    (c.search fs root (some output)).isSkipped path =
      (fs.canonical? output).any fun loc => fs.canonical? path == some loc := by
  have hskip : (c.search fs root (some output)).skip = fs.canonical? output := rfl
  rw [Search.isSkipped, hskip]
  cases fs.canonical? output <;> rfl

/-- What the walk of a run meets, its own output included. -/
def metBy (c : Collection) (emptied : FileSystem) (opened : FileSystem.Opened) (root output : Path) :
    List Event :=
  (c.search emptied root none).met fun events =>
    c.worldOf emptied opened root output (events.filter (c.search emptied root (some output)).keeps)

/-- A run sees all files of its walk but its own output, under whatever name. -/
theorem map_file_seenBy : (c.seenBy emptied opened root output).map Sighting.file =
    (filesIn (c.metBy emptied opened root output)).filter fun file =>
      !(emptied.canonical? output).any fun loc => emptied.canonical? file.path == some loc := by
  have hmet : (c.search emptied root (some output)).met (c.worldOf emptied opened root output) =
      (c.metBy emptied opened root output).filter (c.search emptied root (some output)).keeps :=
    met_skipping rfl _ fun events path => canonical?_keep _ path
  rw [seenBy, map_file_sightings, hmet, filesIn_filter_keeps]
  simp only [isSkipped_search]

/-- If the system does not say where the output is, a run sees all files of its walk. -/
theorem map_file_seenBy_of_none (h : emptied.canonical? output = none) :
    (c.seenBy emptied opened root output).map Sighting.file = filesIn (c.metBy emptied opened root output) := by
  rw [map_file_seenBy, h]
  exact List.filter_eq_self.2 fun _ _ => rfl

/-- The walk of a run that reads none of its own output for its rules is one of files at rest. -/
theorem metBy_of_spares (h : ∀ loc, opened = .file loc → (c.search emptied root none).Spares loc) :
    c.metBy emptied opened root output = (c.search emptied root none).events := by
  cases opened with
  | device device => exact met_const (c.search emptied root none)
  | file loc => exact (h loc rfl).met fun events => ⟨_, rfl⟩

end Walking

end Collection
end SourceSnapshot
