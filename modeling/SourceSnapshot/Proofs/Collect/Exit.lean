import SourceSnapshot.Proofs.Collect.Sighting

/-! How a run into a file ends: without a directory for the file, without the file open, or after it has
written there. A run that succeeds has written the whole artifact. -/
namespace SourceSnapshot.Collection
open FileSystem

variable {c : Collection} {fs after : FileSystem} {root output : Path} {summary : Summary}

/-- How a run ends, and in which file system. -/
inductive Exit (c : Collection) (fs : FileSystem) (root output : Path) :
    Except RunError Summary → FileSystem → Prop
  | noDirectory {dir : Path} {cause : IoError} {made : FileSystem} (hparent : output.parent? = some dir)
      (hmake : fs.makeDirs dir = (.error cause, made)) :
      Exit c fs root output (.error (.createOutputDir dir cause)) made
  | notOpened {cause : IoError} {prepared : FileSystem} (hprepare : prepareOutput fs output = (.ok (), prepared))
      (hopen : prepared.openToWrite output = .error cause) :
      Exit c fs root output (.error (.createOutput output cause)) prepared
  | written {prepared emptied : FileSystem} {opened : Opened}
      (hprepare : prepareOutput fs output = (.ok (), prepared))
      (hopen : prepared.openToWrite output = .ok (opened, emptied)) :
      Exit c fs root output
        ((c.snapshotInto emptied opened root output).result.mapError (.write output))
        (keep emptied (c.snapshotInto emptied opened root output).artifact opened)

theorem exists_of_prepareOutput {error : RunError} (h : prepareOutput fs output = (.error error, after)) :
    ∃ dir cause, output.parent? = some dir ∧ fs.makeDirs dir = (.error cause, after) ∧
      error = .createOutputDir dir cause := by
  rw [prepareOutput] at h
  split at h
  · cases h
  · rename_i dir hparent
    split at h
    · cases h
    · split at h
      · cases h
      · rename_i cause made hmake
        obtain ⟨herror, rfl⟩ := Prod.mk.inj h
        exact ⟨dir, cause, hparent, hmake, (Except.error.inj herror).symm⟩

theorem exit_collect (c : Collection) (fs : FileSystem) (root output : Path) :
    Exit c fs root output (c.collect fs root output).result (c.collect fs root output).fs := by
  unfold collect
  split
  · rename_i error made hprepare
    obtain ⟨dir, cause, hparent, hmake, rfl⟩ := exists_of_prepareOutput hprepare
    exact .noDirectory hparent hmake
  · rename_i prepared hprepare
    split
    · rename_i cause hopen
      exact .notOpened hprepare hopen
    · rename_i opened emptied hopen
      have hwritten : Exit c fs root output _ _ := .written hprepare hopen
      dsimp only
      cases hresult : (c.snapshotInto emptied opened root output).result with
      | error cause =>
        rw [hresult] at hwritten
        exact hwritten
      | ok summary =>
        rw [hresult] at hwritten
        exact hwritten

/-- A run into a file is a snapshot into what was opened for it. -/
theorem exists_snapshot_of_collect (h : (c.collect fs root output).result = .ok summary) :
    ∃ prepared opened emptied,
      prepareOutput fs output = (.ok (), prepared) ∧ prepared.openToWrite output = .ok (opened, emptied) ∧
      (c.snapshotInto emptied opened root output).result = .ok summary ∧
      (c.collect fs root output).fs =
        keep emptied (c.snapshotInto emptied opened root output).artifact opened := by
  have hexit := exit_collect c fs root output
  rw [h] at hexit
  generalize (c.collect fs root output).fs = after at hexit ⊢
  generalize hended : Except.ok summary = result at hexit
  cases hexit with
  | noDirectory => cases hended
  | notOpened => cases hended
  | @written prepared emptied opened hprepare hopen =>
    refine ⟨prepared, opened, emptied, hprepare, hopen, ?_, rfl⟩
    cases hresult : (c.snapshotInto emptied opened root output).result with
    | error cause =>
      rw [hresult] at hended
      cases hended
    | ok found =>
      rw [hresult] at hended
      exact congrArg Except.ok (Except.ok.inj hended.symm)

/-- A run succeeds once its artifact is open and nothing sets a limit to it. -/
theorem collect_of_open (c : Collection) (fs : FileSystem) {root output : Path}
    {prepared emptied : FileSystem} {loc : Location} (hprepare : prepareOutput fs output = (.ok (), prepared))
    (hopen : prepared.openToWrite output = .ok (.file loc, emptied)) (hlimit : emptied.limit loc = none) :
    ∃ summary, (c.collect fs root output).result = .ok summary := by
  have hsink : sinkOf emptied (.file loc) = .unlimited := by rw [sinkOf, hlimit]
  obtain ⟨summary, hresult⟩ | ⟨-, hroom⟩ := result_of_snapshotInto c root (opens_iff.2 hopen)
    (congrArg Sink.closeFailure hsink)
  case inr =>
    rw [hsink] at hroom
    cases hroom
  rw [collect, hprepare]
  simp only [hopen, hresult]
  exact ⟨_, rfl⟩

/-- What was opened holds the whole artifact after a run that succeeded. -/
theorem exists_artifact_of_collect (h : (c.collect fs root output).result = .ok summary) :
    ∃ prepared opened emptied,
      prepareOutput fs output = (.ok (), prepared) ∧ Opens prepared output opened emptied ∧
      summary = c.countedSeen emptied opened root output ∧
      (c.collect fs root output).fs =
        keep emptied (Utf8.encode (c.artifactSeen emptied opened root output)) opened := by
  obtain ⟨prepared, opened, emptied, hprepare, hopen, hresult, hfs⟩ := exists_snapshot_of_collect h
  obtain ⟨hartifact, hsummary, -⟩ := written_of_snapshotInto (opens_iff.2 hopen) hresult
  exact ⟨prepared, opened, emptied, hprepare, opens_iff.2 hopen, hsummary, hartifact ▸ hfs⟩

/-- The file that the output leads to after a run that succeeded holds the whole artifact. -/
theorem complete_of_collect {loc : Location} {content : Bytes} {executable : Bool}
    (h : (c.collect fs root output).result = .ok summary)
    (hfile : (c.collect fs root output).fs.resolve output = .ok (loc, .file content executable)) :
    ∃ prepared emptied, prepareOutput fs output = (.ok (), prepared) ∧
      prepared.openToWrite output = .ok (.file loc, emptied) ∧
      content = Utf8.encode (c.artifactSeen emptied (.file loc) root output) := by
  obtain ⟨prepared, opened, emptied, hprepare, hopens, -, hfs⟩ := exists_artifact_of_collect h
  rw [hfs] at hfile
  cases opened with
  | device device =>
    -- a device is opened as it is, and the output leads to a file
    obtain ⟨there, hdevice⟩ := hopens.resolve_device
    obtain rfl := hopens.eq_of_device
    cases hdevice.symm.trans hfile
  | file there =>
    obtain ⟨mode, hresolve⟩ := hopens.resolve
    obtain ⟨hplace, hnode⟩ := Prod.mk.inj (Except.ok.inj ((resolve_setContent hresolve _).symm.trans hfile))
    obtain ⟨hcontent, -⟩ := Node.file.inj hnode
    subst hplace
    exact ⟨prepared, emptied, hprepare, opens_iff.1 hopens, hcontent.symm⟩

end SourceSnapshot.Collection
