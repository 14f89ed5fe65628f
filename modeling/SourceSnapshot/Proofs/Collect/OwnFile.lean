import SourceSnapshot.Proofs.Collect.Idempotence
import SourceSnapshot.Proofs.Collect.Likeness
import SourceSnapshot.Proofs.Search.Walk

/-! The artifact and its own file. A run into a file below the root does not find that file, nor a link to it, as
long as the system says where it is; all else it finds, counts and writes as a snapshot of the same project does.
What stands in the file meanwhile makes no difference, unless it is read for its rules or has another name. -/
namespace SourceSnapshot
open FileSystem

theorem Summary.foldl_count_perm (s : Summary) {fates more : List Fate} (h : fates.Perm more) :
    fates.foldl Summary.count s = more.foldl Summary.count s := by
  rw [foldl_count, foldl_count]
  simp only [h.count_eq]

namespace Collection
open Search

/-- The files of a project that are the file at a location, itself or by a link. -/
def ownFiles (c : Collection) (fs : FileSystem) (root : Path) (loc : Location) : List FoundFile :=
  (c.search fs root none).files.filter fun file => fs.canonical? file.path = some loc

def otherFiles (c : Collection) (fs : FileSystem) (root : Path) (loc : Location) : List FoundFile :=
  (c.search fs root none).files.filter fun file => fs.canonical? file.path ≠ some loc

variable {c : Collection} {fs : FileSystem} {root output path : Path} {loc : Location}

theorem perm_ownFiles :
    (c.otherFiles fs root loc ++ c.ownFiles fs root loc).Perm (c.search fs root none).files := by
  have hperm := List.filter_append_perm (fun file : FoundFile => decide (fs.canonical? file.path ≠ some loc))
    (c.search fs root none).files
  simpa [otherFiles, ownFiles] using hperm

theorem files_eq_otherFiles (houtput : fs.canonical? output = some loc) :
    (c.search fs root (some output)).files = c.otherFiles fs root loc := by
  rw [files_search, otherFiles, houtput]
  apply List.filter_congr
  intro file hfile
  by_cases hown : fs.canonical? file.path = some loc <;> simp [hown]

/-- What a run into the file at `loc` is, beside the snapshot of the same project. -/
structure OmitsOwn (c : Collection) (fs : FileSystem) (root output : Path) (loc : Location) (summary : Summary)
    (artifact : Bytes) : Prop where
  /-- The artifact has the blocks of the other files. -/
  artifact : artifact = Utf8.encode (Artifact.text (c.drawing? fs root) (c.blocks fs (c.otherFiles fs root loc)))
  /-- The snapshot has the blocks of all files. -/
  whole : (c.snapshot fs root {}).artifact =
    Utf8.encode (Artifact.text (c.drawing? fs root) (c.blocks fs (c.search fs root none).files))
  /-- The account of the snapshot is that of the run with the file counted in, under each of its names. -/
  account : ∃ all, (c.snapshot fs root {}).result = .ok all ∧ { all with output } =
    { ((c.ownFiles fs root loc).map (c.fate fs)).foldl Summary.count summary with
      lines := summary.lines +
        (((c.ownFiles fs root loc).filter fun file => c.fate fs file = .included).map (fileLines fs)).sum }

/-- A run reads nothing of what it writes to a location: it does not read that file for its rules, and under
another name only as long as nothing has reached it. -/
structure Apart (c : Collection) (fs : FileSystem) (root output : Path) (loc : Location) : Prop where
  rules : (c.search fs root none).Spares loc
  files : ∀ s ∈ c.seenBy fs (.file loc) root output, c.config.decide s.file.path = .included →
    fs.Misses s.file.path loc ∨ s.fs = fs

/-- A run that does not read a file for its rules sees the files that its search finds at rest. -/
theorem map_file_seenBy_of_spares (h : (c.search fs root none).Spares loc) :
    (c.seenBy fs (.file loc) root output).map Sighting.file = (c.search fs root (some output)).files := by
  have hmet : c.metBy fs (.file loc) root output = (c.search fs root none).events :=
    metBy_of_spares fun there hthere => Opened.file.inj hthere ▸ h
  rw [map_file_seenBy, hmet, files_search]
  rfl

/-- Files that are seen as they are at rest are taken as they are at rest. -/
theorem taken_at_rest {seen : List Sighting} (h : ∀ s ∈ seen, c.config.decide s.file.path = .included →
    s.fs.read s.file.path = fs.read s.file.path) :
    c.fatesOf seen = (seen.map Sighting.file).map (c.fate fs) ∧
      c.blocksOf seen = c.blocks fs (seen.map Sighting.file) := by
  constructor
  · rw [fatesOf, List.map_map]
    exact List.map_congr_left fun s hs => fate_of_read (h s hs)
  · induction seen with
    | nil => rfl
    | cons s seen ih =>
      have hrest := ih fun s hs => h s (List.mem_cons_of_mem _ hs)
      rw [blocksOf_cons, hrest, blocks_of_read (h s List.mem_cons_self), List.map_cons, ← blocks_cons]

/-- A run that reads nothing of what it writes takes all files as they are at rest. -/
theorem seen_of_apart (h : Apart c fs root output loc)
    (hseen : ∀ s ∈ c.seenBy fs (.file loc) root output, ∃ content, s.fs = fs.setContent loc content) :
    c.artifactSeen fs (.file loc) root output = c.artifactText fs root (some output) ∧
      c.countedSeen fs (.file loc) root output =
        { c.counted fs root (some output) { output } with lines := c.lineTotal fs root (some output) } := by
  have hrest : ∀ s ∈ c.seenBy fs (.file loc) root output, c.config.decide s.file.path = .included →
      s.fs.read s.file.path = fs.read s.file.path := by
    intro s hs hincluded
    obtain ⟨content, hfs⟩ := hseen s hs
    rcases h.files s hs hincluded with hmisses | hnothing
    · rw [hfs, read_setContent hmisses]
    · rw [hnothing]
  obtain ⟨hfates, hblocks⟩ := taken_at_rest hrest
  rw [map_file_seenBy_of_spares h.rules] at hfates hblocks
  rw [artifactSeen, countedSeen, hfates, hblocks]
  exact ⟨rfl, rfl⟩

theorem blocksLines_blocks (files : List FoundFile) : Artifact.blocksLines (c.blocks fs files) =
    ((files.filter fun file => c.fate fs file = .included).map (fileLines fs)).sum := by
  rw [← blocksOf_map, blocksLines_blocksOf, linesOf, List.filter_map, List.map_map]
  rfl

/-- The counts and the lines of all files are those of the other files with those of the own file. -/
theorem counted_ownFiles (houtput : fs.canonical? output = some loc) :
    { c.counted fs root none { output := ⟨[]⟩ } with lines := c.lineTotal fs root none, output } =
      { ((c.ownFiles fs root loc).map (c.fate fs)).foldl Summary.count
          { c.counted fs root (some output) { output } with lines := c.lineTotal fs root (some output) } with
        lines := c.lineTotal fs root (some output) +
          (((c.ownFiles fs root loc).filter fun file => c.fate fs file = .included).map (fileLines fs)).sum } := by
  have hperm : (c.search fs root none).files.Perm (c.otherFiles fs root loc ++ c.ownFiles fs root loc) :=
    perm_ownFiles.symm
  have hlines : c.lineTotal fs root none = c.lineTotal fs root (some output) +
      (((c.ownFiles fs root loc).filter fun file => c.fate fs file = .included).map (fileLines fs)).sum := by
    rw [lineTotal, lineTotal, files_eq_otherFiles houtput, blocksLines_blocks, blocksLines_blocks, ← List.sum_append,
      ← List.map_append, ← List.filter_append]
    exact ((hperm.filter _).map _).sum_nat
  rw [counted, counted, files_eq_otherFiles houtput, ← hlines,
    Summary.foldl_count_perm _ (hperm.map (c.fate fs)), List.map_append, List.foldl_append]
  simp only [Summary.foldl_count]

theorem omitsOwn_of_counted (houtput : fs.canonical? output = some loc) :
    OmitsOwn c fs root output loc
      { c.counted fs root (some output) { output } with lines := c.lineTotal fs root (some output) }
      (Utf8.encode (c.artifactText fs root (some output))) := by
  have hall : Sink.Fits {} (Utf8.encode (c.artifactText fs root none)).length := fun _ hroom => by cases hroom
  obtain ⟨hwhole, htext⟩ := snapshot_of_fits hall rfl
  have hnone : ({} : Sink).accepted = [] := rfl
  rw [hnone, List.nil_append] at htext
  exact {
    artifact := by rw [artifactText, files_eq_otherFiles houtput]
    whole := htext
    account := ⟨_, hwhole, counted_ownFiles houtput⟩ }

/-- A run into a file that succeeds goes by the project as it is once the file was made or emptied. If the system
says where the file is, and the run reads nothing of what it writes, it writes what a snapshot of that project
writes, without the blocks of the file itself and of the links to it, and its account is without them too. If
the system does not say it, the run leaves nothing out of what it meets. -/
theorem collect_omits_own {summary : Summary} {artifact : Bytes} {executable : Bool}
    (h : (c.collect fs root output).result = .ok summary)
    (hfile : (c.collect fs root output).fs.resolve output = .ok (loc, .file artifact executable)) :
    ∃ prepared emptied, prepareOutput fs output = (.ok (), prepared) ∧
      prepared.openToWrite output = .ok (.file loc, emptied) ∧
      (emptied.canonical? output ≠ none → Apart c emptied root output loc →
        OmitsOwn c emptied root output loc summary artifact) ∧
      (emptied.canonical? output = none →
        (c.seenBy emptied (.file loc) root output).map Sighting.file =
          filesIn (c.metBy emptied (.file loc) root output)) := by
  obtain ⟨prepared, opened, emptied, hprepare, hopen, hresult, hfs⟩ := exists_snapshot_of_collect h
  have hopens := opens_iff.2 hopen
  rw [hfs] at hfile
  cases opened with
  | device device =>
    -- what is opened as a device is no file
    obtain rfl := hopens.eq_of_device
    obtain ⟨there, hdevice⟩ := hopens.resolve_device
    cases hdevice.symm.trans hfile
  | file there =>
    obtain ⟨mode, hempty⟩ := hopens.resolve
    cases (resolve_setContent hempty _).symm.trans hfile
    refine ⟨prepared, emptied, hprepare, hopen, fun hsome hapart => ?_, fun hnone => ?_⟩
    · have houtput := (canonical?_of_resolve hempty).resolve_right hsome
      obtain ⟨hartifact, rfl, hseen⟩ := written_of_snapshotInto hopens hresult
      obtain ⟨htext, hcounted⟩ := seen_of_apart hapart fun s hs =>
        let ⟨_, hn⟩ := hseen s hs
        ⟨_, hn⟩
      rw [hartifact, htext, hcounted]
      exact omitsOwn_of_counted houtput
    · exact map_file_seenBy_of_none hnone

/-- An output that is a file stays one. -/
theorem exists_artifact_of_file {old : Bytes} {executable : Bool} {summary : Summary}
    (hfile : fs.resolve output = .ok (loc, .file old executable))
    (h : (c.collect fs root output).result = .ok summary) :
    ∃ artifact mode, (c.collect fs root output).fs.resolve output = .ok (loc, .file artifact mode) := by
  obtain ⟨prepared, opened, emptied, hprepare, hopen, -, hfs⟩ := exists_snapshot_of_collect h
  have hopens := opens_iff.2 hopen
  obtain ⟨node, hkind, hnode⟩ := ((makes_of_prepareOutput hprepare).grown.trans hopens.grown).resolve hfile
  cases node with
  | file content mode =>
    obtain ⟨rfl, -⟩ := hopens.eq_of_resolve hnode
    rw [hfs]
    exact ⟨_, mode, resolve_setContent hnode _⟩
  | _ => cases hkind

/-- A project at `p` of a file, the artifact of an earlier run and a link to that. -/
def aliasedProject : FileSystem where
  top := .dir [(.ofString "p", .dir [
    (.ofString "a.go", .file [0x78] false),
    (.ofString "l.go", .link (.ofString "o.go")),
    (.ofString "o.go", .file [0x79] false)])]
  distinct_top := by
    simp only [Node.Distinct, Node.AllDistinct]
    decide

/-- The directory at `p` once the artifact is emptied. -/
def emptiedDir : Node := .dir [
  (.ofString "a.go", .file [0x78] false),
  (.ofString "l.go", .link (.ofString "o.go")),
  (.ofString "o.go", .file [] false)]

def aliasedSpot : Location := [.ofString "p", .ofString "o.go"]

theorem apart_aliased : Apart ⟨.standard, .builtin⟩ (aliasedProject.setContent aliasedSpot []) (.ofString "p")
    (.ofString "p/o.go") aliasedSpot where
  rules := spares_of_not_respectGitignore rfl aliasedSpot
  files := by
    intro s hs _
    refine .inl ?_
    have hfile : s.file ∈ (Collection.search ⟨.standard, .builtin⟩ (aliasedProject.setContent aliasedSpot [])
        (.ofString "p") (some (.ofString "p/o.go"))).files := by
      rw [← map_file_seenBy_of_spares (spares_of_not_respectGitignore rfl aliasedSpot)]
      exact List.mem_map_of_mem hs
    generalize s.file = file at hfile ⊢
    have hflat : ∀ entry ∈ emptiedDir.entries, entry.2.isDir = false := by
      intro entry hentry
      simp only [emptiedDir, Node.entries, List.mem_cons, List.not_mem_nil, or_false] at hentry
      rcases hentry with rfl | rfl | rfl <;> rfl
    have hlist : (aliasedProject.setContent aliasedSpot []).Listable (.ofString "p") emptiedDir :=
      listable_dir rfl fun entry hentry => listable_of_not_dir (hflat entry hentry)
    obtain ⟨names, hfinds, rfl⟩ := (mem_files rfl (by decide) rfl hlist).1 hfile
    obtain ⟨entry, hentry, -⟩ := hfinds.present
    obtain ⟨found, hfound, rfl, -⟩ := Node.exists_entry_of_at? hflat hfinds.named hentry
    simp only [emptiedDir, Node.entries, List.mem_cons, List.not_mem_nil, or_false] at hfound
    rcases hfound with rfl | rfl | rfl
    · intro there node hresolve
      cases hresolve
      rfl
    -- the link and the file itself are the file that is left out
    · exact absurd rfl (hfinds.kept aliasedSpot rfl)
    · exact absurd rfl (hfinds.kept aliasedSpot rfl)

theorem collect_omits_own_aliased :
    let c : Collection := ⟨.standard, .builtin⟩
    let root := Path.ofString "p"
    let output := Path.ofString "p/o.go"
    ∃ summary artifact prepared emptied, (c.collect aliasedProject root output).result = .ok summary ∧
      prepareOutput aliasedProject output = (.ok (), prepared) ∧
      prepared.openToWrite output = .ok (.file aliasedSpot, emptied) ∧
      OmitsOwn c emptied root output aliasedSpot summary artifact := by
  intro c root output
  have hold : aliasedProject.resolve (.ofString "p/o.go") = .ok (aliasedSpot, .file [0x79] false) := rfl
  have hprepare : prepareOutput aliasedProject (.ofString "p/o.go") = (.ok (), aliasedProject) :=
    prepareOutput_of_resolve hold rfl
  have hopen := openToWrite_of_file hold rfl
  obtain ⟨summary, h⟩ : ∃ summary, (c.collect aliasedProject root output).result = .ok summary :=
    collect_of_open c aliasedProject hprepare hopen rfl
  obtain ⟨artifact, mode, hfile⟩ := exists_artifact_of_file hold h
  obtain ⟨prepared, emptied, hprepare', hopen', homits, -⟩ := collect_omits_own h hfile
  obtain rfl := (Prod.mk.inj (hprepare'.symm.trans hprepare)).2
  obtain rfl := (Prod.mk.inj (Except.ok.inj (hopen'.symm.trans hopen))).2
  exact ⟨summary, artifact, _, _, h, hprepare', hopen', homits (by decide) apart_aliased⟩

/-- Directories in one another, the last of them empty. -/
def nested : Location → Node
  | [] => .dir []
  | name :: rest => .dir [(name, nested rest)]

theorem distinct_nested (names : Location) : (nested names).Distinct := by
  induction names with
  | nil => simp [nested, Node.Distinct, Node.AllDistinct]
  | cons name rest ih => simpa [nested, Node.Distinct, Node.AllDistinct] using ih

/-- Where to the path from the root is longer than any that the system takes. -/
def buriedSpot : Location := List.replicate 17 ⟨List.replicate 250 0x61, by decide +kernel⟩

def buriedProject : FileSystem where
  top := nested buriedSpot
  cwd := buriedSpot
  distinct_top := distinct_nested buriedSpot

set_option maxRecDepth 1000 in
/-- All that a run into a file of that project sees is this file. -/
private theorem exists_own_of_buried :
    let c : Collection := ⟨.standard, .none⟩
    let root := Path.ofString "."
    let output := Path.ofString "o.go"
    ∃ loc emptied summary own, Opens buriedProject output (.file loc) emptied ∧
      (c.collect buriedProject root output).result = .ok summary ∧
      summary = c.countedSeen emptied (.file loc) root output ∧
      (c.collect buriedProject root output).fs =
        emptied.setContent loc (Utf8.encode (c.artifactSeen emptied (.file loc) root output)) ∧
      c.seenBy emptied (.file loc) root output = [own] ∧ own.file = ⟨.ofString "./o.go", output⟩ := by
  intro c root output
  have hopened : ∃ loc emptied, buriedProject.openToWrite (.ofString "o.go") = .ok (.file loc, emptied) ∧
      emptied.limit loc = none ∧ emptied.canonical? (.ofString "o.go") = none ∧
      (c.search emptied (.ofString ".") none).files = [⟨.ofString "./o.go", .ofString "o.go"⟩] := by
    refine ⟨_, _, rfl, rfl, by decide +kernel, ?_⟩
    refine (files_singleton (s := c.search _ (.ofString ".") none) rfl rfl ?_ rfl rfl rfl rfl).trans rfl
    decide
  obtain ⟨loc, emptied, hopen, hlimit, hnone, hfiles⟩ := hopened
  have hprepare : prepareOutput buriedProject (.ofString "o.go") = (.ok (), buriedProject) := rfl
  obtain ⟨summary, h⟩ : ∃ summary, (c.collect buriedProject root output).result = .ok summary :=
    collect_of_open c buriedProject hprepare hopen hlimit
  obtain ⟨prepared, opened, emptied', hprepare', hopens, hsummary, hfs⟩ := exists_artifact_of_collect h
  obtain rfl := (Prod.mk.inj (hprepare'.symm.trans hprepare)).2
  obtain ⟨rfl, rfl⟩ := Prod.mk.inj (Except.ok.inj ((opens_iff.1 hopens).symm.trans hopen))
  have hseen : (c.seenBy emptied' (.file loc) root output).map Sighting.file =
      [⟨.ofString "./o.go", .ofString "o.go"⟩] := by
    rw [map_file_seenBy_of_none hnone, metBy_of_spares fun loc _ => spares_of_not_respectGitignore rfl loc]
    exact hfiles
  obtain ⟨own, howns, hown⟩ := List.map_eq_singleton_iff.1 hseen
  exact ⟨loc, emptied', summary, own, hopens, h, hsummary, hfs, howns, hown⟩

set_option maxRecDepth 1000 in
/-- A run into an empty project so deep down counts its own artifact. -/
theorem filesSeen_of_buried : buriedProject.list (.ofString ".") = .ok [] ∧ ∃ summary,
    (Collection.collect ⟨.standard, .none⟩ buriedProject (.ofString ".") (.ofString "o.go")).result = .ok summary ∧
      summary.filesSeen = 1 ∧ summary.included + summary.skippedBinary + summary.readErrors = 1 := by
  refine ⟨by rfl, ?_⟩
  obtain ⟨loc, emptied, summary, own, -, h, hsummary, -, howns, hown⟩ := exists_own_of_buried
  refine ⟨summary, h, ?_⟩
  have hfates : fatesOf ⟨.standard, .none⟩ [own] = [.ofOutcome (outcomeOf own.fs own.file.path)] := by
    rw [fatesOf, List.map_singleton, hown]
    rfl
  rw [hsummary, countedSeen, howns, hfates]
  cases outcomeOf own.fs own.file.path <;> exact ⟨rfl, rfl⟩

/-- And it writes a block of it. -/
theorem artifact_of_buried : ∃ loc mode outcome,
    (Collection.collect ⟨.standard, .none⟩ buriedProject (.ofString ".") (.ofString "o.go")).fs.resolve
        (.ofString "o.go") =
      .ok (loc, .file (Utf8.encode (Artifact.text none [(.ofString "o.go", outcome)])) mode) := by
  obtain ⟨loc, emptied, summary, own, hopens, -, -, hfs, howns, hown⟩ := exists_own_of_buried
  have hartifact : ∃ outcome, Collection.artifactSeen ⟨.standard, .none⟩ emptied (.file loc) (.ofString ".")
      (.ofString "o.go") = Artifact.text none [(.ofString "o.go", outcome)] := by
    refine ⟨outcomeOf own.fs own.file.path, ?_⟩
    rw [artifactSeen, howns, blocksOf, List.flatMap_singleton, hown]
    rfl
  obtain ⟨outcome, hartifact⟩ := hartifact
  obtain ⟨mode, hempty⟩ := hopens.resolve
  refine ⟨loc, mode, outcome, ?_⟩
  rw [hfs, ← hartifact]
  exact resolve_setContent hempty _

end Collection
end SourceSnapshot
