import SourceSnapshot.Proofs.Collect.Exit
import SourceSnapshot.Proofs.FileSystem.Framing

/-! What a run leaves as it was, however it ends. Nothing is taken away; the file that the output leads to is
the only one that is written, and only once it was opened; all else that is new is directories on the way to
it. -/
namespace SourceSnapshot.Collection
open FileSystem

variable {c : Collection} {fs prepared emptied after : FileSystem} {root output : Path} {loc : Location}

def waysTo (output : Path) : List Path := (output.parent?.map Path.ancestors).getD []

theorem mem_waysTo {way : Path} :
    way ∈ waysTo output ↔ ∃ dir, output.parent? = some dir ∧ way ∈ dir.ancestors := by
  unfold waysTo
  cases output.parent? <;> simp

theorem makes_of_parent (fs : FileSystem) {dir : Path} (hparent : output.parent? = some dir) :
    Makes (waysTo output) fs (fs.makeDirs dir).2 :=
  (makes_makeDirs fs dir).mono fun _ hway => mem_waysTo.2 ⟨dir, hparent, hway⟩

theorem makes_of_prepareOutput (h : prepareOutput fs output = (.ok (), prepared)) :
    Makes (waysTo output) fs prepared := by
  rw [prepareOutput] at h
  split at h
  · obtain ⟨-, rfl⟩ := Prod.mk.inj h
    exact .refl _ fs
  · rename_i dir hparent
    split at h
    · obtain ⟨-, rfl⟩ := Prod.mk.inj h
      exact .refl _ fs
    · split at h
      · rename_i made hmake
        obtain ⟨-, rfl⟩ := Prod.mk.inj h
        have hmakes := makes_of_parent fs hparent
        rwa [hmake] at hmakes
      · cases h

/-- After a run that succeeded the output leads to what was written, a file or a device. -/
theorem exists_output_of_collect {summary : Summary} (h : (c.collect fs root output).result = .ok summary) :
    ∃ loc node, (c.collect fs root output).fs.resolve output = .ok (loc, node) ∧
      (node.kind = .file ∨ ∃ device, node = .device device) := by
  obtain ⟨prepared, opened, emptied, hprepare, hopens, -, hfs⟩ := exists_artifact_of_collect h
  rw [hfs]
  cases opened with
  | device device =>
    obtain rfl := hopens.eq_of_device
    obtain ⟨loc, hresolve⟩ := hopens.resolve_device
    exact ⟨loc, _, hresolve, .inr ⟨device, rfl⟩⟩
  | file loc =>
    obtain ⟨executable, hresolve⟩ := hopens.resolve
    exact ⟨loc, _, resolve_setContent hresolve _, .inl rfl⟩

/-- What a run into an output leaves of a file system. -/
structure Frame (fs after : FileSystem) (output : Path) : Prop extends SameSystem fs after where
  /-- What was there is there still, and as it was, unless it is a name of the file that the output leads to. -/
  kept : ∀ loc node, fs.top.at? loc = some node →
    (after.top.at? loc).map Node.surface = some node.surface ∨
      ∃ own old content executable mode, node = .file old executable ∧
        after.resolve output = .ok (own, .file content mode) ∧ after.isNameOf own loc ∧
        after.top.at? loc = some (.file content executable)
  names : ∀ loc node other node', fs.top.at? loc = some node → fs.top.at? other = some node' →
    after.isNameOf loc other = fs.isNameOf loc other
  /-- What is new is a directory on the way to the output's own, or the file that the output leads to. -/
  added : ∀ loc node, fs.top.at? loc = none → after.top.at? loc = some node →
    (node.isDir ∧ ∃ dir, output.parent? = some dir ∧
      ∃ way ∈ dir.ancestors, after.resolve way = .ok (loc, node)) ∨
    ∃ content, node = .file content false ∧ after.resolve output = .ok (loc, node)

theorem frame_of_makes (h : Makes (waysTo output) fs after) : Frame fs after output where
  toSameSystem := h.toSameSystem
  kept loc node hnode := .inl (h.kept loc node hnode)
  names loc node other node' _ _ := by rw [isNameOf, isNameOf, h.links]
  added loc node hnone hsome := by
    obtain ⟨hdir, way, hway, hresolve⟩ := h.added loc node hnone hsome
    obtain ⟨dir, hparent, habove⟩ := mem_waysTo.1 hway
    exact .inl ⟨hdir, dir, hparent, way, habove, hresolve⟩

/-- A file that was opened is written, and nothing else. -/
theorem frame_of_file (h : Makes (waysTo output) fs prepared) (hopens : Opens prepared output (.file loc) emptied)
    (content : Bytes) : Frame fs (emptied.setContent loc content) output := by
  have hgrown := hopens.grown.trans (grown_setContent emptied loc content)
  obtain ⟨mode, hempty⟩ := hopens.resolve
  have hresolve := resolve_setContent hempty content
  refine ⟨h.toSameSystem.trans hgrown.toSameSystem, ?_, ?_, ?_⟩
  · intro there node hnode
    obtain ⟨found, hfound, hsurface⟩ := Option.map_eq_some_iff.1 (h.kept there node hnode)
    rcases hopens.at?_or hfound with hsame | ⟨old, executable, rfl, hname, hwritten⟩
    · exact .inl (hsame.trans (congrArg some hsurface))
    · cases node <;> cases hsurface
      exact .inr ⟨loc, old, content, executable, mode, rfl, hresolve, hname, hwritten⟩
  · intro there node other node' hnode hnode'
    obtain ⟨found, hfound, -⟩ := Option.map_eq_some_iff.1 (h.kept there node hnode)
    obtain ⟨found', hfound', -⟩ := Option.map_eq_some_iff.1 (h.kept other node' hnode')
    have hnames : (emptied.setContent loc content).isNameOf there other = emptied.isNameOf there other := rfl
    rw [hnames, hopens.isNameOf hfound hfound', isNameOf, isNameOf, h.links]
  · intro there node hnone hsome
    cases hprepared : prepared.top.at? there with
    | none =>
      obtain ⟨rfl, rfl⟩ := hopens.at?_new hprepared hsome
      obtain rfl := (Node.file.inj (Option.some.inj ((at?_of_resolve hresolve).symm.trans hsome))).2
      exact .inr ⟨content, rfl, hresolve⟩
    | some found =>
      -- a directory that was made on the way is one still
      obtain ⟨hdir, way, hway, hfoundAt⟩ := h.added there found hnone hprepared
      obtain ⟨node', hkind, hnodeAt⟩ := hgrown.resolve hfoundAt
      obtain rfl := Option.some.inj (hsome.symm.trans (at?_of_resolve hnodeAt))
      obtain ⟨dir, hparent, habove⟩ := mem_waysTo.1 hway
      rw [← Node.isDir_eq_of_kind hkind] at hdir
      exact .inl ⟨hdir, dir, hparent, way, habove, hnodeAt⟩

theorem frame_of_keep (h : Makes (waysTo output) fs prepared) {opened : Opened}
    (hopens : Opens prepared output opened emptied) (artifact : Bytes) :
    Frame fs (keep emptied artifact opened) output := by
  cases opened with
  | device device =>
    obtain rfl := hopens.eq_of_device
    exact frame_of_makes h
  | file loc => exact frame_of_file h hopens artifact

def SameFiles (fs after : FileSystem) : Prop := ∀ loc content executable,
  after.top.at? loc = some (.file content executable) ↔ fs.top.at? loc = some (.file content executable)

inductive Failure (fs after : FileSystem) (output : Path) : RunError → Prop
  | createOutputDir {dir : Path} {cause : IoError} (hparent : output.parent? = some dir)
      (hmake : (fs.makeDirs dir).1 = .error cause) (hfiles : SameFiles fs after) :
      Failure fs after output (.createOutputDir dir cause)
  | createOutput {cause : IoError} {prepared : FileSystem}
      (hprepare : prepareOutput fs output = (.ok (), prepared))
      (hopen : prepared.openToWrite output = .error cause) (hfiles : SameFiles fs after) :
      Failure fs after output (.createOutput output cause)
  /-- The output was open. If it is a file then as much was written there as it could take. -/
  | write {cause : IoError} {prepared emptied : FileSystem} {opened : Opened} {written : Bytes}
      (hprepare : prepareOutput fs output = (.ok (), prepared))
      (hopen : prepared.openToWrite output = .ok (opened, emptied)) (hkept : after = keep emptied written opened)
      (hfilled : ∀ loc, opened = .file loc →
        ∃ limit, emptied.limit loc = some limit ∧ cause = limit.failure ∧ written.length = limit.size) :
      Failure fs after output (.write output cause)

theorem filled_of_snapshotInto {cause : IoError} (hopens : Opens prepared output (.file loc) emptied)
    (h : (c.snapshotInto emptied (.file loc) root output).result = .error cause) :
    ∃ limit, emptied.limit loc = some limit ∧ cause = limit.failure ∧
      (c.snapshotInto emptied (.file loc) root output).artifact.length = limit.size := by
  cases hlimit : emptied.limit loc with
  | none =>
    have hsink : sinkOf emptied (.file loc) = .unlimited := by rw [sinkOf, hlimit]
    obtain ⟨summary, hok⟩ | ⟨-, hroom⟩ := result_of_snapshotInto c root hopens
      (congrArg Sink.closeFailure hsink)
    · cases h.symm.trans hok
    · cases (congrArg Sink.room hsink).symm.trans hroom
  | some limit =>
    have hsink : sinkOf emptied (.file loc) = .bounded limit.size limit.failure limit.lasting := by
      rw [sinkOf, hlimit]
    obtain ⟨summary, hok⟩ | ⟨herror, hroom⟩ := result_of_snapshotInto c root hopens
      (congrArg Sink.closeFailure hsink)
    · cases h.symm.trans hok
    · have hcause := Except.error.inj (h.symm.trans herror)
      have hsize := Option.some.inj ((congrArg Sink.room hsink).symm.trans hroom)
      exact ⟨limit, rfl, hcause.trans (congrArg Sink.failure hsink), hsize.symm⟩

/-- However a run ends, it changes no file but the one that its output leads to, takes nothing away, and adds
besides only directories on the way there. As long as it has not opened its output it leaves all files as they
are; what it fails with says how far it came. -/
theorem collect_framed (c : Collection) (fs : FileSystem) (root output : Path) :
    Frame fs (c.collect fs root output).fs output ∧
    ∀ error, (c.collect fs root output).result = .error error →
      Failure fs (c.collect fs root output).fs output error := by
  have hexit := exit_collect c fs root output
  generalize (c.collect fs root output).result = result at hexit ⊢
  generalize (c.collect fs root output).fs = after at hexit ⊢
  cases hexit with
  | noDirectory hparent hmake =>
    have hmakes := makes_of_parent fs hparent
    rw [hmake] at hmakes
    refine ⟨frame_of_makes hmakes, fun error herror => ?_⟩
    obtain rfl := Except.error.inj herror
    exact .createOutputDir hparent (by rw [hmake]) fun _ _ _ => hmakes.file_iff
  | notOpened hprepare hopen =>
    have hmakes := makes_of_prepareOutput hprepare
    refine ⟨frame_of_makes hmakes, fun error herror => ?_⟩
    obtain rfl := Except.error.inj herror
    exact .createOutput hprepare hopen fun _ _ _ => hmakes.file_iff
  | @written prepared emptied opened hprepare hopen =>
    have hopens := opens_iff.2 hopen
    refine ⟨frame_of_keep (makes_of_prepareOutput hprepare) hopens _, fun error herror => ?_⟩
    cases hresult : (c.snapshotInto emptied opened root output).result with
    | ok summary =>
      rw [hresult] at herror
      cases herror
    | error cause =>
      rw [hresult] at herror
      obtain rfl := Except.error.inj herror
      refine .write hprepare hopen rfl fun loc hfile => ?_
      subst hfile
      exact filled_of_snapshotInto hopens hresult

end SourceSnapshot.Collection
