import SourceSnapshot.Collect
import SourceSnapshot.Proofs.Artifact.Writing
import SourceSnapshot.Proofs.Search.Streaming

/-! What each step of a run adds to the artifact and to the account. A file adds its block if it is
collected and nothing if it is not, and one to the count of its fate; a search adds what its files add,
one after another. So the artifact and the account of a run are known from the files of its search. -/
namespace SourceSnapshot

/-- What becomes of a file that a run meets. -/
inductive Fate
  | included
  | binary
  | unreadable
  | skippedName
  | skippedExtension
  deriving DecidableEq

def Fate.ofOutcome : Outcome → Fate
  | .included _ => .included
  | .binary => .binary
  | .unreadable _ => .unreadable

def Summary.count (s : Summary) : Fate → Summary
  | .included => { s with included := s.included + 1 }
  | .binary => { s with skippedBinary := s.skippedBinary + 1 }
  | .unreadable => { s with readErrors := s.readErrors + 1 }
  | .skippedName => { s with skippedName := s.skippedName + 1 }
  | .skippedExtension => { s with skippedExtension := s.skippedExtension + 1 }

namespace Collection
open Artifact Search

/-- A run's own decision on a file, and if it is collected what came of reading it. -/
def fate (c : Collection) (fs : FileSystem) (file : FoundFile) : Fate :=
  match c.config.decide file.path with
  | .included => .ofOutcome (outcomeOf fs file.path)
  | .skippedName => .skippedName
  | .skippedExtension => .skippedExtension

def collected (c : Collection) (files : List FoundFile) : List FoundFile :=
  files.filter fun file => c.config.decide file.path = .included

def blocks (c : Collection) (fs : FileSystem) (files : List FoundFile) : List (Path × Outcome) :=
  (c.collected files).map fun file => (file.relative, outcomeOf fs file.path)

theorem blocks_cons (c : Collection) (fs : FileSystem) (file : FoundFile) (files : List FoundFile) :
    c.blocks fs (file :: files) = c.blocks fs [file] ++ c.blocks fs files := by
  rw [blocks, blocks, blocks, ← List.map_append, collected, collected, collected, ← List.filter_append,
    List.singleton_append]

section
variable {c : Collection} {fs fs' : FileSystem} {file : FoundFile}
  (h : c.config.decide file.path = .included → fs'.read file.path = fs.read file.path)
include h

/-- What a file holds counts only if the file is collected. -/
theorem fate_of_read : c.fate fs' file = c.fate fs file := by
  rw [fate, fate]
  cases hdecide : c.config.decide file.path with
  | included => rw [outcomeOf, outcomeOf, h hdecide]
  | skippedName | skippedExtension => rfl

theorem blocks_of_read : c.blocks fs' [file] = c.blocks fs [file] := by
  rw [blocks, blocks]
  apply List.map_congr_left
  intro found hfound
  obtain ⟨hmem, hincluded⟩ := List.mem_filter.1 hfound
  obtain rfl := List.mem_singleton.1 hmem
  rw [outcomeOf, outcomeOf, h (of_decide_eq_true hincluded)]

end

/-- The drawing of the structure, if the renderer makes one. -/
def drawing? (c : Collection) (fs : FileSystem) (root : Path) : Option String :=
  (c.renderer fs root c.config.structureDepth c.config.excludedDirs).toOption

/-- The step writes `text`, with so many numbered lines, and changes the account by `counted`. -/
def Takes (step : Run Unit) (text : String) (lines : Nat) (counted : Summary → Summary) : Prop :=
  Emits (fun p : Progress => p.writer.sink) (fun p : Progress => (p.writer.lines, p.summary)) step
    (Utf8.encode text) () (fun seen => (seen.1 + lines, counted seen.2))

variable {first second : Run Unit} {text more : String} {lines further : Nat}
  {counted later : Summary → Summary}

theorem Takes.seq (h : Takes first text lines counted) (h' : Takes second more further later) :
    Takes (first >>= fun _ => second) (text ++ more) (lines + further) (later ∘ counted) := by
  have hchange : (fun seen : Nat × Summary => (seen.1 + (lines + further), (later ∘ counted) seen.2)) =
      (fun seen => (seen.1 + further, later seen.2)) ∘
        (fun seen => (seen.1 + lines, counted seen.2)) := by
    funext seen
    simp [Nat.add_assoc]
  rw [Takes, Utf8.encode_append, hchange]
  exact Emits.seq h h'

theorem takes_tellAll (records : List Log.Record) : Takes (tellAll records) "" 0 id :=
  .silent fun _ => ⟨_, rfl, rfl, rfl⟩

theorem takes_tell (level : Log.Level) (target message : String) (fields : List (String × String)) :
    Takes (tell level target message fields) "" 0 id :=
  .silent fun _ => ⟨_, rfl, rfl, rfl⟩

/-- What is told before a step adds nothing to what the step takes. -/
theorem Takes.told (h : Takes first text lines counted) (level : Log.Level) (target message : String)
    (fields : List (String × String)) :
    Takes (tell level target message fields >>= fun _ => first) text lines counted := by
  have hboth := (takes_tell level target message fields).seq h
  rw [String.empty_append, Nat.zero_add] at hboth
  exact hboth

theorem takes_tellOutcome (file : FoundFile) (outcome : Outcome) :
    Takes (tellOutcome file outcome) "" 0 id := by
  cases outcome <;> exact takes_tell ..

theorem takes_account (counted : Summary → Summary) : Takes (account counted) "" 0 counted :=
  .silent fun _ => ⟨_, rfl, rfl, rfl⟩

theorem takes_write {step : Write Unit} (h : Writes step text () lines) :
    Takes (write step) text lines id where
  ok p hp := by
    obtain ⟨w, hw, htook, hlines⟩ := h.ok p.writer hp
    exact ⟨{ p with writer := w }, by simp only [write, hw], htook, by simp only [hlines, id]⟩
  error p room hr hlt := by
    obtain ⟨w, hw, htook⟩ := h.error p.writer room hr hlt
    exact ⟨{ p with writer := w }, by simp only [write, hw], htook⟩

private theorem takes_skipped {c : Collection} {fs : FileSystem} {file : FoundFile} {decision : Decision}
    (h : c.config.decide file.path = decision) (hne : decision ≠ .included) :
    Takes (c.takeFile fs file) (blocksText (c.blocks fs [file])) (blocksLines (c.blocks fs [file]))
      (·.recordDecision decision) := by
  have hblocks : c.blocks fs [file] = [] := by
    simp [blocks, collected, h, hne]
  have htake : c.takeFile fs file = (account (·.recordDecision decision) >>= fun _ =>
      tell .trace collectorTarget "skipped"
        [("path", file.relative.display), ("decision", decision.label)]) := by
    rw [takeFile, h, if_neg hne]
  rw [htake, hblocks]
  exact (takes_account _).seq (takes_tell ..)

/-- A file adds its block if it is collected, and is counted by its fate. -/
theorem takes_takeFile (c : Collection) (fs : FileSystem) (file : FoundFile) :
    Takes (c.takeFile fs file) (blocksText (c.blocks fs [file])) (blocksLines (c.blocks fs [file]))
      (·.count (c.fate fs file)) := by
  cases hdecide : c.config.decide file.path with
  | skippedName =>
    rw [fate, hdecide]
    exact takes_skipped hdecide (by decide)
  | skippedExtension =>
    rw [fate, hdecide]
    exact takes_skipped hdecide (by decide)
  | included =>
    let outcome := outcomeOf fs file.path
    have hblocks : c.blocks fs [file] = [(file.relative, outcome)] := by
      simp [blocks, collected, hdecide, outcome]
    have htake : c.takeFile fs file = (account (·.recordDecision .included) >>= fun _ =>
        tellOutcome file outcome >>= fun _ => write (writeBlock file.relative outcome) >>= fun _ =>
        account (·.recordOutcome outcome)) := by
      rw [takeFile, hdecide, if_pos rfl]
    have hcount : (fun s : Summary => s.count (c.fate fs file)) = (·.recordOutcome outcome) := by
      funext s
      rw [fate, hdecide]
      change s.count (.ofOutcome outcome) = s.recordOutcome outcome
      cases outcome <;> rfl
    have hblock := takes_write (writes_writeBlock file.relative outcome)
    have hsteps := (takes_account (·.recordDecision .included)).seq
      ((takes_tellOutcome file outcome).seq (hblock.seq (takes_account (·.recordOutcome outcome))))
    rw [htake, hblocks, hcount]
    simpa [blocksText, blocksLines, Function.comp_def, Summary.recordDecision] using hsteps

/-- What is met adds what its files add, one after another. -/
theorem takes_events (c : Collection) (fs : FileSystem) (events : List Event) :
    Takes (events.forM (c.takeEvent fun _ => fs)) (blocksText (c.blocks fs (filesIn events)))
      (blocksLines (c.blocks fs (filesIn events)))
      (fun s => ((filesIn events).map (c.fate fs)).foldl Summary.count s) := by
  induction events with
  | nil => exact .silent fun p => ⟨p, rfl, rfl, rfl⟩
  | cons event events ih =>
    cases event with
    | notice notice =>
      have h := (takes_tellAll notice.records).seq ih
      rw [String.empty_append, Nat.zero_add] at h
      exact h
    | file file =>
      have hfiles : filesIn (.file file :: events) = file :: filesIn events := rfl
      rw [hfiles, blocks_cons, blocksText_append, blocksLines_append]
      exact (takes_takeFile c fs file).seq ih

theorem takes_takeStructure (c : Collection) (fs : FileSystem) (root : Path) :
    Takes (c.takeStructure fs root) (opening (c.drawing? fs root)) 0
      (fun s => { s with drawn := s.drawn || (c.drawing? fs root).isSome }) := by
  have hwarned {step : Run Unit} {text : String} {counted : Summary → Summary}
      (h : Takes step text 0 counted) : Takes (if !fs.isDir root then
        tell .warn collectorTarget "root is not a readable directory" [("root", root.display)] >>= fun _ => step
        else step) text 0 counted := by
    cases fs.isDir root with
    | true => exact h
    | false => exact h.told ..
  unfold takeStructure drawing?
  cases c.renderer fs root c.config.structureDepth c.config.excludedDirs with
  | ok drawing =>
    have hdraw := (takes_account ({ · with drawn := true })).seq
      (takes_write (writes_writeOpening (some drawing)))
    rw [String.empty_append] at hdraw
    have hsteps := hwarned hdraw
    have hdrawn : (fun s : Summary => { s with drawn := s.drawn || true }) =
        ({ · with drawn := true }) := funext fun s => by rw [Bool.or_true]
    exact hdrawn ▸ hsteps
  | error e =>
    have hnote := (takes_write (writes_writeOpening none)).told .debug collectorTarget
      "structure summary unavailable, writing fallback note" [("error", e.message)]
    have hsteps := hwarned hnote
    have hdrawn : (fun s : Summary => { s with drawn := s.drawn || false }) = id :=
      funext fun s => by rw [Bool.or_false, id]
    exact hdrawn ▸ hsteps

end Collection
end SourceSnapshot
