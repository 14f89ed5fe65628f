import SourceSnapshot.Proofs.Collect.Exit
import SourceSnapshot.Proofs.Search.Walk
import SourceSnapshot.Proofs.Text.Lines

/-! The account of a run. Each file that the search finds is counted once, by its fate; the numbered
lines are those of the files that are written in full. What is counted while the run goes on is what
can be counted afterwards on the files and their bytes. -/
namespace SourceSnapshot

/-- Counting fates one by one comes to counting each among all. -/
theorem Summary.foldl_count (s : Summary) (fates : List Fate) : fates.foldl Summary.count s =
    { s with
      included := s.included + fates.count .included
      skippedBinary := s.skippedBinary + fates.count .binary
      readErrors := s.readErrors + fates.count .unreadable
      skippedName := s.skippedName + fates.count .skippedName
      skippedExtension := s.skippedExtension + fates.count .skippedExtension } := by
  induction fates generalizing s with
  | nil => rfl
  | cons fate fates ih =>
    rw [List.foldl_cons, ih]
    cases fate <;> simp [Summary.count, Nat.add_assoc, Nat.add_comm 1]

theorem Fate.length_eq_count (fates : List Fate) : fates.length = fates.count .included +
    fates.count .binary + fates.count .unreadable + fates.count .skippedName +
    fates.count .skippedExtension := by
  induction fates with
  | nil => rfl
  | cons fate fates ih =>
    cases fate <;> simp [ih] <;> omega

namespace Collection
open Search

variable (c : Collection) (fs : FileSystem)

def fileLines (file : FoundFile) : Nat :=
  match fs.read file.path with
  | .ok bytes => Lines.byteCount bytes
  | .error _ => 0

private theorem blocks_singleton (file : FoundFile) :
    (c.blocks fs [file]).length = [c.fate fs file].count .included + [c.fate fs file].count .binary +
        [c.fate fs file].count .unreadable ∧
      Artifact.blocksLines (c.blocks fs [file]) =
        if c.fate fs file = .included then fileLines fs file else 0 := by
  cases hdecide : c.config.decide file.path with
  | skippedName => simp [fate, blocks, collected, hdecide, Artifact.blocksLines]
  | skippedExtension => simp [fate, blocks, collected, hdecide, Artifact.blocksLines]
  | included =>
    cases houtcome : outcomeOf fs file.path with
    | included content =>
      have hlines : (Lines.split content.toList).length = fileLines fs file := by
        rw [fileLines, Outcome.ofRead_eq_included_iff.1 houtcome, Lines.length_split_encode]
      simp [fate, blocks, collected, hdecide, houtcome, Fate.ofOutcome, Artifact.blocksLines,
        Artifact.lineCount, hlines]
    | binary =>
      simp [fate, blocks, collected, hdecide, houtcome, Fate.ofOutcome, Artifact.blocksLines,
        Artifact.lineCount]
    | unreadable message =>
      simp [fate, blocks, collected, hdecide, houtcome, Fate.ofOutcome, Artifact.blocksLines,
        Artifact.lineCount]

theorem length_blocksOf (seen : List Sighting) : (c.blocksOf seen).length =
    (c.fatesOf seen).count .included + (c.fatesOf seen).count .binary + (c.fatesOf seen).count .unreadable := by
  induction seen with
  | nil => rfl
  | cons s seen ih =>
    have hfates : c.fatesOf (s :: seen) = [c.fate s.fs s.file] ++ c.fatesOf seen := rfl
    rw [blocksOf_cons, List.length_append, ih, (c.blocks_singleton s.fs s.file).1, hfates]
    simp only [List.count_append]
    omega

def linesOf (seen : List Sighting) : Nat :=
  ((seen.filter fun s => c.fate s.fs s.file = .included).map fun s => fileLines s.fs s.file).sum

/-- The numbered lines of a run are the lines of the files that are included. -/
theorem blocksLines_blocksOf (seen : List Sighting) :
    Artifact.blocksLines (c.blocksOf seen) = c.linesOf seen := by
  induction seen with
  | nil => rfl
  | cons s seen ih =>
    rw [blocksOf_cons, Artifact.blocksLines_append, ih, (c.blocks_singleton s.fs s.file).2, linesOf, linesOf,
      List.filter_cons]
    by_cases h : c.fate s.fs s.file = .included
    · simp [h]
    · simp [h]

/-- The account of a run that saw these files, and the artifact that it wrote. -/
structure Accounts (root : Path) (seen : List Sighting) (summary : Summary) (artifact : Bytes) : Prop where
  included : summary.included = (c.fatesOf seen).count .included
  skippedBinary : summary.skippedBinary = (c.fatesOf seen).count .binary
  readErrors : summary.readErrors = (c.fatesOf seen).count .unreadable
  skippedName : summary.skippedName = (c.fatesOf seen).count .skippedName
  skippedExtension : summary.skippedExtension = (c.fatesOf seen).count .skippedExtension
  filesWritten : artifact = Utf8.encode (Artifact.text (c.drawing? fs root) (c.blocksOf seen)) ∧
    summary.filesWritten = (c.blocksOf seen).length
  filesSeen : summary.filesSeen = seen.length
  lines : summary.lines = c.linesOf seen
  drawn : summary.drawn ↔ ∃ drawing,
    c.renderer fs root c.config.structureDepth c.config.excludedDirs = .ok drawing

theorem accounts_counted (root place : Path) (seen : List Sighting) :
    Accounts c fs root seen
      { (c.fatesOf seen).foldl Summary.count { output := place, drawn := (c.drawing? fs root).isSome } with
        lines := Artifact.blocksLines (c.blocksOf seen) }
      (Utf8.encode (Artifact.text (c.drawing? fs root) (c.blocksOf seen))) := by
  rw [Summary.foldl_count]
  have hwritten := c.length_blocksOf seen
  have hseen := Fate.length_eq_count (c.fatesOf seen)
  rw [fatesOf, List.length_map, ← fatesOf] at hseen
  refine ⟨Nat.zero_add _, Nat.zero_add _, Nat.zero_add _, Nat.zero_add _, Nat.zero_add _, ⟨rfl, ?_⟩, ?_,
    c.blocksLines_blocksOf seen, ?_⟩
  · simp only [Summary.filesWritten]
    omega
  · simp only [Summary.filesSeen, Summary.filesWritten]
    omega
  · unfold drawing?
    cases c.renderer fs root c.config.structureDepth c.config.excludedDirs <;> simp [Except.toOption]

/-- The search of a run into a file finds all files but that one. -/
theorem files_search (root output : Path) : (c.search fs root (some output)).files =
    (c.search fs root none).files.filter fun file =>
      !(fs.canonical? output).any fun loc => fs.canonical? file.path == some loc := by
  have hskip : (c.search fs root (some output)).files = (c.search fs root none).files.filter fun file =>
      !(c.search fs root (some output)).isSkipped file.path := Search.files_skipping rfl output
  simp only [hskip, isSkipped_search]

theorem output_of_collect {c : Collection} {fs : FileSystem} {root output : Path} {summary : Summary}
    (h : (c.collect fs root output).result = .ok summary) : summary.output = output := by
  obtain ⟨prepared, opened, emptied, -, -, rfl, -⟩ := exists_artifact_of_collect h
  rw [countedSeen, Summary.foldl_count]

/-- How a run sees a file of a project that it writes into: the file as it was, if it is not its own output, and
nothing of what is still to come. -/
structure Sees (emptied : FileSystem) (opened : FileSystem.Opened) (artifact : Bytes) (s : Sighting) : Prop where
  beginning : ∃ n, s.fs = keep emptied (artifact.take n) opened
  settled : (∀ loc, opened = .file loc → emptied.Misses s.file.path loc) →
    s.fs.read s.file.path = emptied.read s.file.path

/-- A run that succeeds, into a sink or into a file, has counted each file that it has seen once by its fate,
the files that have a block in its artifact, and the lines of those that are included. In a run into a file it
has seen the files of its walk, the artifact not among them if the system says where it is; and the walk is one
of files at rest, unless it reads the artifact for its rules. -/
theorem accounts_of_run (root : Path) :
    (∀ sink summary, (c.snapshot fs root sink).result = .ok summary → ∃ artifact,
      (c.snapshot fs root sink).artifact = sink.accepted ++ artifact ∧
      Accounts c fs root ((c.search fs root none).files.map (⟨·, fs⟩)) summary artifact) ∧
    ∀ output summary, (c.collect fs root output).result = .ok summary →
      ∃ prepared opened emptied artifact,
      prepareOutput fs output = (.ok (), prepared) ∧
      prepared.openToWrite output = .ok (opened, emptied) ∧
      (c.collect fs root output).fs = keep emptied artifact opened ∧
      Accounts c emptied root (c.seenBy emptied opened root output) summary artifact ∧
      (∀ s ∈ c.seenBy emptied opened root output, Sees emptied opened artifact s) ∧
      (c.seenBy emptied opened root output).map Sighting.file =
        ((filesIn (c.metBy emptied opened root output)).filter fun file =>
          !(emptied.canonical? output).any fun loc => emptied.canonical? file.path == some loc) ∧
      ((∀ loc, opened = .file loc → (c.search emptied root none).Spares loc) →
        filesIn (c.metBy emptied opened root output) = (c.search emptied root none).files) := by
  constructor
  · intro sink summary h
    obtain ⟨hfits, hclose⟩ := fits_of_snapshot h
    obtain ⟨hresult, hartifact⟩ := snapshot_of_fits hfits hclose
    obtain rfl := Except.ok.inj (h.symm.trans hresult)
    refine ⟨_, hartifact, ?_⟩
    have hcounted := c.accounts_counted fs root ⟨[]⟩ ((c.search fs root none).files.map (⟨·, fs⟩))
    rw [blocksOf_map, fatesOf, List.map_map] at hcounted
    exact hcounted
  · intro output summary h
    obtain ⟨prepared, opened, emptied, hprepare, hopen, hresult, hfs⟩ := exists_snapshot_of_collect h
    have hopens := FileSystem.opens_iff.2 hopen
    obtain ⟨hartifact, rfl, hseen⟩ := written_of_snapshotInto hopens hresult
    rw [hartifact] at hfs
    refine ⟨prepared, opened, emptied, _, hprepare, hopen, hfs, ?_, ?_, map_file_seenBy, ?_⟩
    · exact c.accounts_counted emptied root output (c.seenBy emptied opened root output)
    · intro s hs
      obtain ⟨n, hn⟩ := hseen s hs
      exact ⟨⟨n, hn⟩, fun hmisses => hn ▸ read_keep hmisses _⟩
    · intro hspares
      rw [metBy_of_spares hspares]
      rfl

def lonelyProject : FileSystem where
  top := .dir [(.ofString "p", .dir [(.ofString "a", .file [0x78] false)])]
  distinct_top := by simp [Node.Distinct, Node.AllDistinct]

theorem accounts_of_run_inside :
    let c : Collection := ⟨.standard, .none⟩
    let root := Path.ofString "p"
    let output := Path.ofString "p/o"
    ∃ summary prepared opened emptied artifact,
    prepareOutput lonelyProject output = (.ok (), prepared) ∧
    prepared.openToWrite output = .ok (opened, emptied) ∧
    (c.collect lonelyProject root output).fs = keep emptied artifact opened ∧
    Accounts c emptied root (c.seenBy emptied opened root output) summary artifact ∧
    (c.seenBy emptied opened root output).map Sighting.file =
      (c.search emptied root none).files.filter fun file =>
        !(emptied.canonical? output).any fun loc => emptied.canonical? file.path == some loc := by
  intro c root output
  have hopened : ∃ loc emptied, lonelyProject.openToWrite output = .ok (.file loc, emptied) ∧
      emptied.limit loc = none := ⟨_, _, rfl, rfl⟩
  obtain ⟨loc, emptied, hopen, hlimit⟩ := hopened
  have hprepare : prepareOutput lonelyProject (.ofString "p/o") = (.ok (), lonelyProject) := rfl
  have hrun : ∃ summary, (c.collect lonelyProject root output).result = .ok summary :=
    collect_of_open c lonelyProject hprepare hopen hlimit
  obtain ⟨summary, h⟩ := hrun
  obtain ⟨prepared, opened, emptied, artifact, hprepare, hopen, hfs, haccounts, -, hseen, hwalk⟩ :=
    (accounts_of_run c lonelyProject root).2 output summary h
  -- a configuration that obeys no ignore files reads none
  rw [hwalk fun loc _ => spares_of_not_respectGitignore rfl loc] at hseen
  exact ⟨summary, prepared, opened, emptied, artifact, hprepare, hopen, hfs, haccounts, hseen⟩

end Collection
end SourceSnapshot
