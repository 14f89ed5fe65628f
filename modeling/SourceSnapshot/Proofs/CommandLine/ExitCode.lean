import SourceSnapshot.Proofs.Collect.Account
import SourceSnapshot.Proofs.Collect.Framing
import SourceSnapshot.Proofs.CommandLine.Course

/-! What the exit code tells. A command line that is refused, a root that is no directory and a configuration
that is none end a run before anything is changed; from then on the code tells whether the artifact was written
and the account of it printed. -/
namespace SourceSnapshot.CommandLine
open Collection

variable {fs : FileSystem} {e : Environment} {terminal : Bool} {o : Options} {ran : Ran}

theorem exists_configOf_iff : (∃ config, configOf fs o = .ok config) ↔
    ∀ file, o.config = some file → ∃ config, Config.load fs file = .ok config := by
  cases hfile : o.config with
  | none => simp [configOf, hfile, bind, Except.bind, pure, Except.pure]
  | some file =>
    cases hload : Config.load fs file with
    | error error => simp [configOf, hfile, hload, bind, Except.bind]
    | ok config => simp [configOf, hfile, hload, bind, Except.bind, pure, Except.pure]

/-- Only as JSON can an account fail to be printed. -/
theorem exists_printed_iff {summary : Summary} : (∃ text, printed o e terminal summary = .ok text) ↔
    (o.json → ∃ text, summary.output.bytes = Utf8.encode text) := by
  cases hjson : o.json with
  | false => simp [printed, hjson]
  | true =>
    simp only [printed, hjson, if_true, Summary.reportJson, forall_const, ← Utf8.decode?_eq_some_iff]
    cases Utf8.decode? summary.output.bytes <;> simp

/-- What it takes to begin: a root that is a directory, and a configuration wherever one is asked for. -/
structure CanBegin (fs : FileSystem) (o : Options) : Prop where
  root : fs.isDir (rootOf fs o)
  config : ∀ file, o.config = some file → ∃ config, Config.load fs file = .ok config

theorem exists_begunOf (h : CanBegin fs o) : ∃ config, configOf fs o = .ok config ∧
    begunOf fs e o = some (collectedOf fs e o config) := by
  obtain ⟨config, hconfig⟩ := exists_configOf_iff.2 h.config
  refine ⟨config, hconfig, ?_⟩
  rw [begunOf_of_configOf h.root, hconfig]
  rfl

theorem begunOf_of_not_canBegin (h : ¬ CanBegin fs o) : begunOf fs e o = none := by
  cases hroot : fs.isDir (rootOf fs o) with
  | false => exact begunOf_of_not_isDir hroot
  | true =>
    rw [begunOf_of_configOf hroot]
    cases hconfig : configOf fs o with
    | error error => rfl
    | ok config => exact absurd ⟨hroot, exists_configOf_iff.1 ⟨config, hconfig⟩⟩ h

structure TellsCollected (fs : FileSystem) (e : Environment) (o : Options) (config : Config) (ran : Ran) :
    Prop where
  fs_eq : ran.fs = (collectedOf fs e o config).fs
  code_or : ran.code = 0 ∨ ran.code = 1
  code_eq_zero_iff : ran.code = 0 ↔ (∃ summary, (collectedOf fs e o config).result = .ok summary) ∧
    (o.json → ∃ text, (outputOf fs o).bytes = Utf8.encode text)
  /-- If collecting has succeeded there is an output. -/
  written : ∀ summary, (collectedOf fs e o config).result = .ok summary →
    ∃ loc node, ran.fs.resolve (outputOf fs o) = .ok (loc, node) ∧
      (node.kind = .file ∨ ∃ device, node = .device device)
  /-- An output that is a file then holds the whole artifact. -/
  complete : ∀ summary, (collectedOf fs e o config).result = .ok summary →
    ∀ loc content executable, ran.fs.resolve (outputOf fs o) = .ok (loc, .file content executable) →
      ∃ prepared emptied, prepareOutput fs (outputOf fs o) = (.ok (), prepared) ∧
        prepared.openToWrite (outputOf fs o) = .ok (.file loc, emptied) ∧
        content = Utf8.encode (Collection.artifactSeen ⟨config, rendererOf e o.drawing⟩ emptied (.file loc)
          (rootOf fs o) (outputOf fs o))

theorem tellsCollected_of_course {config : Config}
    (h : Course fs e terminal o (some (collectedOf fs e o config)) ran) : TellsCollected fs e o config ran where
  fs_eq := h.fs_eq
  code_or := h.code_or
  code_eq_zero_iff := by
    rw [h.code_eq_zero_iff]
    constructor
    · rintro ⟨collected, summary, hcollected, hresult, hprinted⟩
      obtain rfl := Option.some.inj hcollected
      rw [exists_printed_iff, output_of_collect hresult] at hprinted
      exact ⟨⟨summary, hresult⟩, hprinted⟩
    · rintro ⟨⟨summary, hresult⟩, hjson⟩
      refine ⟨_, summary, rfl, hresult, exists_printed_iff.2 ?_⟩
      rwa [output_of_collect hresult]
  written summary hresult := by
    rw [h.fs_eq]
    exact exists_output_of_collect hresult
  complete summary hresult loc content executable hfile := by
    rw [h.fs_eq] at hfile
    exact complete_of_collect hresult hfile

structure Tells (fs : FileSystem) (e : Environment) (arguments : List Bytes) (ran : Ran) : Prop where
  code_eq_two_iff : ran.code = 2 ↔ ∃ error, parse arguments = .error (.usage error)
  unread : ∀ stop, parse arguments = .error stop → ran.fs = fs
  notBegun : ∀ o, parse arguments = .ok o → ¬ CanBegin fs o → ran.code = 1 ∧ ran.fs = fs
  begun : ∀ o, parse arguments = .ok o → CanBegin fs o →
    ∃ config, configOf fs o = .ok config ∧ TellsCollected fs e o config ran
  message : ran.code = 1 →
    ran.stdout = "" ∧ ∃ (records : List Log.Record) (text : String),
      ran.told = records.map .record ++ [.message ("gather: " ++ text)]

theorem tells_of_course {arguments : List Bytes} (hparse : parse arguments = .ok o)
    (h : Course fs e terminal o (begunOf fs e o) ran) : Tells fs e arguments ran where
  code_eq_two_iff := by
    rw [hparse]
    rcases h.code_or with hcode | hcode <;> simp [hcode]
  unread stop hstop := by
    rw [hparse] at hstop
    cases hstop
  notBegun o' ho' hnot := by
    obtain rfl := Except.ok.inj (hparse.symm.trans ho')
    rw [begunOf_of_not_canBegin hnot] at h
    cases h
    exact ⟨rfl, rfl⟩
  begun o' ho' hcan := by
    obtain rfl := Except.ok.inj (hparse.symm.trans ho')
    obtain ⟨config, hconfig, hbegun⟩ := exists_begunOf (e := e) hcan
    rw [hbegun] at h
    exact ⟨config, hconfig, tellsCollected_of_course h⟩
  message hcode := h.exists_message hcode

theorem tells_of_stop {arguments : List Bytes} {stop : Stop} (hparse : parse arguments = .error stop)
    (hfs : ran.fs = fs) (hcode : ran.code = 2 ↔ ∃ error, stop = .usage error) (hone : ran.code ≠ 1) :
    Tells fs e arguments ran where
  code_eq_two_iff := by
    rw [hparse, hcode]
    simp only [Except.error.injEq]
  unread _ _ := hfs
  notBegun o ho := by
    rw [hparse] at ho
    cases ho
  begun o ho := by
    rw [hparse] at ho
    cases ho
  message h := absurd h hone

/-- A run that is refused, or that has no root or no configuration, leaves everything as it was. Of any other
the exit code tells whether the artifact was written and the account of it printed. -/
theorem tells_run (fs : FileSystem) (e : Environment) (terminal : Bool) (arguments : List Bytes) :
    Tells fs e arguments (run fs e terminal arguments) := by
  rw [run]
  cases hparse : parse arguments with
  | ok o => exact tells_of_course hparse (course_runOptions fs e terminal o)
  | error stop =>
    cases stop with
    | usage error => exact tells_of_stop hparse rfl (by simp) (by simp)
    | help full => exact tells_of_stop hparse rfl (by simp) (by simp)
    | version => exact tells_of_stop hparse rfl (by simp) (by simp)

end SourceSnapshot.CommandLine
