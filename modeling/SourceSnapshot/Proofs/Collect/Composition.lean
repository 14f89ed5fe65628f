import SourceSnapshot.Proofs.Collect.Taking

/-! What an artifact is made of. Where the sink takes everything, a snapshot is the opening and then a
block for each file of the search that is to be collected, in the order of the search; where it does
not, the snapshot fails. -/
namespace SourceSnapshot

namespace Outcome
variable {read : Except IoError Bytes}

theorem ofRead_eq_included_iff {content : String} :
    ofRead read = .included content ↔ read = .ok (Utf8.encode content) := by
  cases read with
  | error e => simp [ofRead]
  | ok bytes =>
    rw [Except.ok.injEq, ← Utf8.decode?_eq_some_iff]
    cases h : Utf8.decode? bytes <;> simp [ofRead, h]

theorem ofRead_eq_binary_iff :
    ofRead read = .binary ↔ ∃ bytes, read = .ok bytes ∧ ∀ content, bytes ≠ Utf8.encode content := by
  cases read with
  | error e => simp [ofRead]
  | ok bytes =>
    simp only [Except.ok.injEq, exists_eq_left', ← Utf8.decode?_eq_none_iff]
    cases h : Utf8.decode? bytes <;> simp [ofRead, h]

theorem ofRead_eq_unreadable_iff {message : String} :
    ofRead read = .unreadable message ↔ ∃ e, read = .error e ∧ e.message = message := by
  cases read with
  | error e => simp [ofRead]
  | ok bytes => cases h : Utf8.decode? bytes <;> simp [ofRead, h]

end Outcome

namespace Collection
open Artifact Search

variable (c : Collection) (fs : FileSystem) (root : Path) (output : Option Path)

def artifactText : String :=
  Artifact.text (c.drawing? fs root) (c.blocks fs (c.search fs root output).files)

/-- The account of a run that starts with `s`, without its lines. -/
def counted (s : Summary) : Summary :=
  ((c.search fs root output).files.map (c.fate fs)).foldl Summary.count
    { s with drawn := s.drawn || (c.drawing? fs root).isSome }

def lineTotal : Nat := blocksLines (c.blocks fs (c.search fs root output).files)

private theorem takes_search : Takes (c.takeStructure fs root >>= fun _ =>
      (c.search fs root output).forEachEvent (c.takeEvent fun _ => fs))
    (c.artifactText fs root output) (c.lineTotal fs root output) (c.counted fs root output) := by
  rw [forEachEvent_eq_forM]
  have h := (c.takes_takeStructure fs root).seq (c.takes_events fs (c.search fs root output).events)
  rw [Nat.zero_add] at h
  exact h

def ending : Run Summary := do
  modify fun p => { p with summary := { p.summary with lines := p.writer.lines } }
  write Artifact.finish
  return (← get).summary

theorem take_eq (sight : Sight) : c.take sight root output = (look sight >>= fun fs =>
    (c.takeStructure fs root >>= fun _ =>
      (c.search fs root output).forEachEventIn (look sight) (c.takeEvent sight)) >>= fun _ => ending) := by
  simp only [bind_assoc]
  rfl

/-- In files at rest a run visits what its search lists. -/
theorem take_const : c.take (fun _ => fs) root output = ((c.takeStructure fs root >>= fun _ =>
    (c.search fs root output).forEachEvent (c.takeEvent fun _ => fs)) >>= fun _ => ending) := by
  have hfs : (c.search fs root output).fs = fs := by cases output <;> rfl
  rw [take_eq, forEachEvent, hfs]
  rfl

theorem ending_eq (q : Progress) : ending q =
    let closed := { q with summary := { q.summary with lines := q.writer.lines } }
    match q.writer.sink.closeFailure with
    | none => .ok closed.summary closed
    | some e => .error e closed := by
  obtain ⟨⟨sink, lines⟩, summary, told⟩ := q
  obtain ⟨taken, room, failure, closeFailure, lasting⟩ := sink
  cases closeFailure <;> rfl

variable {c fs root output} {p : Progress}

/-- A run whose sink has room for the whole artifact writes just that, and ends as the sink does when it
is closed. -/
theorem take_of_room (hfits : p.writer.sink.Fits (Utf8.encode (c.artifactText fs root output)).length) :
    ∃ q, c.take (fun _ => fs) root output p = (match p.writer.sink.closeFailure with
        | none => .ok { c.counted fs root output p.summary with
            lines := p.writer.lines + c.lineTotal fs root output } q
        | some e => .error e q) ∧
      p.writer.sink.Took (Utf8.encode (c.artifactText fs root output)) q.writer.sink := by
  obtain ⟨q, hq, htook, hseen⟩ := (c.takes_search fs root output).ok p hfits
  obtain ⟨hlines, hsummary⟩ := Prod.mk.inj hseen
  have hend := ending_eq q
  rw [htook.closeFailure] at hend
  refine ⟨{ q with summary := { q.summary with lines := q.writer.lines } }, ?_, htook⟩
  rw [take_const, ← hlines, ← hsummary]
  simp only [Bind.bind, EStateM.bind] at hq ⊢
  rw [hq]
  exact hend

/-- A run whose sink has too little room fails as the sink does, which has then taken what it had room
for. -/
theorem take_of_room_lt {room : Nat} (hroom : p.writer.sink.room = some room)
    (hlt : room < (Utf8.encode (c.artifactText fs root output)).length) :
    ∃ q, c.take (fun _ => fs) root output p = .error p.writer.sink.failure q ∧
      p.writer.sink.Took ((Utf8.encode (c.artifactText fs root output)).take room) q.writer.sink := by
  obtain ⟨q, hq, htook⟩ := (c.takes_search fs root output).error p room hroom hlt
  refine ⟨q, ?_, htook⟩
  rw [take_const]
  simp only [Bind.bind, EStateM.bind] at hq ⊢
  rw [hq]

/-- A run whose sink takes the whole artifact succeeds, and has written just that. -/
theorem take_of_fits (hfits : p.writer.sink.Fits (Utf8.encode (c.artifactText fs root output)).length)
    (hclose : p.writer.sink.closeFailure = none) :
    ∃ q, c.take (fun _ => fs) root output p = .ok { c.counted fs root output p.summary with
        lines := p.writer.lines + c.lineTotal fs root output } q ∧
      p.writer.sink.Took (Utf8.encode (c.artifactText fs root output)) q.writer.sink := by
  obtain ⟨q, hq, htook⟩ := take_of_room hfits
  rw [hclose] at hq
  exact ⟨q, hq, htook⟩

/-- A run that succeeds had a sink that took the whole artifact. -/
theorem fits_of_take {q : Progress} {summary : Summary} (h : c.take (fun _ => fs) root output p = .ok summary q) :
    p.writer.sink.Fits (Utf8.encode (c.artifactText fs root output)).length ∧
      p.writer.sink.closeFailure = none := by
  have hfits : p.writer.sink.Fits (Utf8.encode (c.artifactText fs root output)).length := by
    intro room hroom
    refine Nat.le_of_not_lt fun hlt => ?_
    obtain ⟨q', hq', -⟩ := take_of_room_lt hroom hlt
    rw [hq'] at h
    cases h
  obtain ⟨q', hq', -⟩ := take_of_room hfits
  rw [hq'] at h
  cases hclose : p.writer.sink.closeFailure with
  | none => exact ⟨hfits, rfl⟩
  | some e =>
    rw [hclose] at h
    cases h

variable {sink : Sink}

theorem snapshot_of_fits (hfits : sink.Fits (Utf8.encode (c.artifactText fs root output)).length)
    (hclose : sink.closeFailure = none) :
    (c.snapshot fs root sink output).result =
        .ok { c.counted fs root output { output := output.getD ⟨[]⟩ } with
          lines := c.lineTotal fs root output } ∧
      (c.snapshot fs root sink output).artifact =
        sink.accepted ++ Utf8.encode (c.artifactText fs root output) := by
  obtain ⟨q, hq, htook⟩ := take_of_fits (p := startOf sink output) hfits hclose
  have haccepted := htook.accepted
  simp only [startOf, Nat.zero_add] at hq haccepted
  simp only [snapshot, snapshotSeeing, startOf, hq, haccepted, and_self]

/-- A snapshot into a sink that cannot be closed fails, though it was written in full. -/
theorem snapshot_of_closeFailure {e : IoError}
    (hfits : sink.Fits (Utf8.encode (c.artifactText fs root output)).length)
    (hclose : sink.closeFailure = some e) :
    (c.snapshot fs root sink output).result = .error e ∧
      (c.snapshot fs root sink output).artifact =
        sink.accepted ++ Utf8.encode (c.artifactText fs root output) := by
  obtain ⟨q, hq, htook⟩ := take_of_room (p := startOf sink output) hfits
  rw [show (startOf sink output).writer.sink.closeFailure = some e from hclose] at hq
  have haccepted : q.writer.sink.accepted = sink.accepted ++ _ := htook.accepted
  simp only [snapshot, snapshotSeeing, hq, haccepted, and_self]

/-- A snapshot into a sink with too little room fails, and is written as far as the room goes. -/
theorem snapshot_of_room_lt {room : Nat} (hroom : sink.room = some room)
    (hlt : room < (Utf8.encode (c.artifactText fs root output)).length) :
    (c.snapshot fs root sink output).result = .error sink.failure ∧
      (c.snapshot fs root sink output).artifact =
        sink.accepted ++ (Utf8.encode (c.artifactText fs root output)).take room := by
  obtain ⟨q, hq, htook⟩ := take_of_room_lt (p := startOf sink output) hroom hlt
  have haccepted : q.writer.sink.accepted = sink.accepted ++ _ := htook.accepted
  have hfailure : (startOf sink output).writer.sink.failure = sink.failure := rfl
  simp only [snapshot, snapshotSeeing, hq, hfailure, haccepted, and_self]

theorem fits_of_snapshot {summary : Summary} (h : (c.snapshot fs root sink output).result = .ok summary) :
    sink.Fits (Utf8.encode (c.artifactText fs root output)).length ∧ sink.closeFailure = none := by
  rw [snapshot, snapshotSeeing] at h
  split at h
  · rename_i htake
    exact fits_of_take htake
  · cases h

/-- The body of a file's block, by what reading the file gives. -/
inductive Body (fs : FileSystem) (file : FoundFile) : String → Prop
  | text {content : String} (h : fs.read file.path = .ok (Utf8.encode content)) :
      Body fs file (numbered content)
  /-- However much of the file is valid, none of it is told. -/
  | binary {bytes : Bytes} (h : fs.read file.path = .ok bytes)
      (hbytes : ∀ content, bytes ≠ Utf8.encode content) :
      Body fs file (binaryNotice file.relative.display)
  | unreadable {e : IoError} (h : fs.read file.path = .error e) :
      Body fs file (errorNotice file.relative.display e.message)

theorem body_outcomeOf (fs : FileSystem) (file : FoundFile) :
    Body fs file (body file.relative (outcomeOf fs file.path)) := by
  cases houtcome : outcomeOf fs file.path with
  | included content => exact .text (Outcome.ofRead_eq_included_iff.1 houtcome)
  | binary =>
    obtain ⟨bytes, hread, hbytes⟩ := Outcome.ofRead_eq_binary_iff.1 houtcome
    exact .binary hread hbytes
  | unreadable message =>
    obtain ⟨e, hread, rfl⟩ := Outcome.ofRead_eq_unreadable_iff.1 houtcome
    exact .unreadable hread

variable (c fs root sink)

/-- A snapshot succeeds just if its sink takes the whole artifact. That is then a banner, the drawing or
the note in its place, and a block for each file of the search that is to be collected, in the order of
the search and none of them twice. -/
theorem snapshot_artifact : ∃ (bodyOf : FoundFile → String) (artifact : Bytes),
    (∀ file, Body fs file (bodyOf file)) ∧
    ((c.collected (c.search fs root none).files).map FoundFile.relative).Nodup ∧
    artifact = Utf8.encode (banner ++ "\n" ++
      (match c.renderer fs root c.config.structureDepth c.config.excludedDirs with
        | .ok drawing => drawing
        | .error _ => missingDrawing) ++ "\n\n" ++
      String.join ((c.collected (c.search fs root none).files).map fun file =>
        header file.relative ++ bodyOf file ++ "\n\n")) ∧
    ((∃ summary, (c.snapshot fs root sink).result = .ok summary) ↔
      sink.Fits artifact.length ∧ sink.closeFailure = none) ∧
    ∀ summary, (c.snapshot fs root sink).result = .ok summary →
      (c.snapshot fs root sink).artifact = sink.accepted ++ artifact := by
  refine ⟨fun file => body file.relative (outcomeOf fs file.path),
    Utf8.encode (c.artifactText fs root none), body_outcomeOf fs, ?_, ?_,
    ⟨fun ⟨summary, h⟩ => fits_of_snapshot h,
      fun ⟨hfits, hclose⟩ => ⟨_, (snapshot_of_fits hfits hclose).1⟩⟩, fun summary h => ?_⟩
  · exact (List.filter_sublist.map _).nodup (nodup_files _)
  · have hdrawing : (c.drawing? fs root).getD missingDrawing =
        match c.renderer fs root c.config.structureDepth c.config.excludedDirs with
        | .ok drawing => drawing
        | .error _ => missingDrawing := by
      unfold drawing?
      cases c.renderer fs root c.config.structureDepth c.config.excludedDirs <;> rfl
    rw [artifactText, Artifact.text, opening, hdrawing, blocks, List.map_map]
    rfl
  · obtain ⟨hfits, hclose⟩ := fits_of_snapshot h
    exact (snapshot_of_fits hfits hclose).2

end Collection
end SourceSnapshot
