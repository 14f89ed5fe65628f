import SourceSnapshot.CommandLine.Run
import SourceSnapshot.Proofs.Collect.Exit

/-! How the program goes on once its command line is read. Collecting begins if the root is a directory and
there is a configuration; then it succeeds or fails, and what it gives is printed or cannot be. -/
namespace SourceSnapshot.CommandLine
open Collection

variable {fs : FileSystem} {e : Environment} {terminal : Bool} {o : Options} {begun : Option Collected}
  {ran : Ran}

def outputOf (fs : FileSystem) (o : Options) : Path := o.output.getD (defaultOutputPath (rootOf fs o))

def collectedOf (fs : FileSystem) (e : Environment) (o : Options) (config : Config) : Collected :=
  Collection.collect ⟨config, rendererOf e o.drawing⟩ fs (rootOf fs o) (outputOf fs o)

/-- What collecting came to, if it began. -/
def begunOf (fs : FileSystem) (e : Environment) (o : Options) : Option Collected :=
  if fs.isDir (rootOf fs o) then (configOf fs o).toOption.map (collectedOf fs e o) else none

/-- The end of a run that has nothing to print but why. -/
def failure (fs : FileSystem) (records : List Log.Record) (text : String) : Ran where
  code := 1
  told := records.map .record ++ [.message (programName ++ ": " ++ text)]
  fs := fs

inductive Course (fs : FileSystem) (e : Environment) (terminal : Bool) (o : Options) :
    Option Collected → Ran → Prop
  | refused (text : String) : Course fs e terminal o none (failure fs [] text)
  | failed {collected : Collected} {error : RunError} (records : List Log.Record)
      (hresult : collected.result = .error error) :
      Course fs e terminal o (some collected) (failure collected.fs records error.message)
  | unprinted {collected : Collected} {summary : Summary} {error : IoError} (records : List Log.Record)
      (hresult : collected.result = .ok summary) (hprinted : printed o e terminal summary = .error error) :
      Course fs e terminal o (some collected)
        (failure collected.fs records s!"error writing summary: {error.message}")
  | succeeded {collected : Collected} {summary : Summary} {text : String} (records : List Log.Record)
      (hresult : collected.result = .ok summary) (hprinted : printed o e terminal summary = .ok text) :
      Course fs e terminal o (some collected)
        { code := 0, stdout := text, told := records.map .record, fs := collected.fs }

/-- The exit code and the text printed, by what collecting came to and by how an account is printed. -/
def endingOf (print : Summary → Except IoError String) : Option Collected → Nat × String
  | none => (1, "")
  | some collected =>
    match collected.result.toOption.bind fun summary => (print summary).toOption with
    | none => (1, "")
    | some text => (0, text)

namespace Course

theorem fs_eq (h : Course fs e terminal o begun ran) : ran.fs = begun.elim fs Collected.fs := by
  cases h <;> rfl

theorem ending_eq (h : Course fs e terminal o begun ran) :
    (ran.code, ran.stdout) = endingOf (printed o e terminal) begun := by
  cases h with
  | refused => rfl
  | failed _ hresult =>
    rw [endingOf, hresult]
    rfl
  | unprinted _ hresult hprinted =>
    simp only [endingOf, hresult, Except.toOption, Option.bind_some, hprinted]
    rfl
  | succeeded _ hresult hprinted => simp only [endingOf, hresult, Except.toOption, Option.bind_some, hprinted]

theorem code_or (h : Course fs e terminal o begun ran) : ran.code = 0 ∨ ran.code = 1 := by
  cases h with
  | succeeded => exact .inl rfl
  | _ => exact .inr rfl

theorem exists_message (h : Course fs e terminal o begun ran) (hcode : ran.code = 1) : ran.stdout = "" ∧
    ∃ (records : List Log.Record) (text : String),
      ran.told = records.map .record ++ [.message (programName ++ ": " ++ text)] := by
  cases h with
  | succeeded => cases hcode
  | _ => exact ⟨rfl, _, _, rfl⟩

theorem code_eq_zero_iff (h : Course fs e terminal o begun ran) : ran.code = 0 ↔
    ∃ collected summary, begun = some collected ∧ collected.result = .ok summary ∧
      ∃ text, printed o e terminal summary = .ok text := by
  constructor
  · intro hcode
    cases h with
    | succeeded records hresult hprinted => exact ⟨_, _, rfl, hresult, _, hprinted⟩
    | _ => cases hcode
  · rintro ⟨collected, summary, rfl, hresult, text, hprinted⟩
    cases h with
    | succeeded => rfl
    | failed records hresult' => cases hresult.symm.trans hresult'
    | unprinted records hresult' hprinted' =>
      obtain rfl := Except.ok.inj (hresult.symm.trans hresult')
      cases hprinted.symm.trans hprinted'

end Course

theorem begunOf_of_not_isDir (h : fs.isDir (rootOf fs o) = false) : begunOf fs e o = none := by
  rw [begunOf, h]
  rfl

theorem begunOf_of_configOf (h : fs.isDir (rootOf fs o)) :
    begunOf fs e o = (configOf fs o).toOption.map (collectedOf fs e o) := by
  rw [begunOf, if_pos h]

theorem course_runOptions (fs : FileSystem) (e : Environment) (terminal : Bool) (o : Options) :
    Course fs e terminal o (begunOf fs e o) (runOptions fs e terminal o) := by
  cases hroot : fs.isDir (rootOf fs o) with
  | false =>
    rw [begunOf_of_not_isDir hroot, runOptions, hroot]
    exact .refused _
  | true =>
    rw [begunOf_of_configOf hroot, runOptions, hroot]
    cases hconfig : configOf fs o with
    | error error => exact .refused _
    | ok config =>
      have hcollected : Collection.collect ⟨config, rendererOf e o.drawing⟩ fs (rootOf fs o)
        (o.output.getD (defaultOutputPath (rootOf fs o))) = collectedOf fs e o config := rfl
      simp only [hcollected, Except.toOption, Option.map_some, Bool.not_true, Bool.false_eq_true, if_false]
      cases hresult : (collectedOf fs e o config).result with
      | error error => exact .failed _ hresult
      | ok summary =>
        dsimp only
        cases hprinted : printed o e terminal summary with
        | error error => exact .unprinted _ hresult hprinted
        | ok text => exact .succeeded _ hresult hprinted

end SourceSnapshot.CommandLine
