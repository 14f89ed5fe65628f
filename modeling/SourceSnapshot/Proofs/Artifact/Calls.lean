import SourceSnapshot.Proofs.Artifact.Numbering
import SourceSnapshot.Proofs.Artifact.Writing

/-! Calls on one writer whose sink fills up, made one after another whether the earlier ones succeeded or not.
Of all that they are to write the sink takes the first bytes, and a call fails just if some of its bytes are
beyond them. The writer has then counted the lines of every numbering that was written to its end, also in a
block that fails after it, and no line of one that was cut. What a step that fails has counted is not known from
what it `Writes`, so the numberings in a text are marked where they end. -/
namespace SourceSnapshot.Artifact

/-- A numbering in a text: where it ends there, in bytes, and how many lines it has. -/
structure Mark where
  ending : Nat
  lines : Nat

namespace Mark

def shift (front : Nat) (mark : Mark) : Mark := { mark with ending := front + mark.ending }

@[simp] theorem ending_shift (front : Nat) (mark : Mark) : (mark.shift front).ending = front + mark.ending := rfl

@[simp] theorem lines_shift (front : Nat) (mark : Mark) : (mark.shift front).lines = mark.lines := rfl

/-- The lines of those numberings that end within the first `room` bytes. -/
def linesWithin (room : Nat) (marks : List Mark) : Nat :=
  ((marks.filter (·.ending ≤ room)).map lines).sum

variable {room front : Nat}

@[simp] theorem linesWithin_append (marks more : List Mark) :
    linesWithin room (marks ++ more) = linesWithin room marks + linesWithin room more := by
  simp [linesWithin]

theorem linesWithin_shift_of_le (h : front ≤ room) (marks : List Mark) :
    linesWithin room (marks.map (shift front)) = linesWithin (room - front) marks := by
  have hshift (mark : Mark) : (shift front mark).ending ≤ room ↔ mark.ending ≤ room - front := by
    rw [ending_shift]
    omega
  simp only [linesWithin, List.filter_map, List.map_map, Function.comp_def, hshift, lines_shift]

theorem linesWithin_shift_of_lt (h : room < front) (marks : List Mark) :
    linesWithin room (marks.map (shift front)) = 0 := by
  have hbeyond (mark : Mark) : ¬ (shift front mark).ending ≤ room := by
    rw [ending_shift]
    omega
  have hnone : (marks.map (shift front)).filter (·.ending ≤ room) = [] := by
    rw [List.filter_eq_nil_iff, List.forall_mem_map]
    intro mark _ hwithin
    exact hbeyond mark (of_decide_eq_true hwithin)
  rw [linesWithin, hnone, List.map_nil, List.sum_nil]

/-- A numbering at the very beginning of a text numbers nothing. -/
def Sound (marks : List Mark) : Prop := ∀ mark ∈ marks, mark.ending = 0 → mark.lines = 0

theorem sound_map_shift {marks : List Mark} (h : Sound marks) (front : Nat) : Sound (marks.map (.shift front)) := by
  intro shifted hshifted hending
  obtain ⟨mark, hmark, rfl⟩ := List.mem_map.1 hshifted
  exact h mark hmark (Nat.eq_zero_of_add_eq_zero_left hending)

theorem Sound.linesWithin_zero {marks : List Mark} (h : Sound marks) : linesWithin 0 marks = 0 := by
  apply List.sum_eq_zero_iff_forall_eq_nat.2
  intro lines hlines
  obtain ⟨mark, hmark, rfl⟩ := List.mem_map.1 hlines
  obtain ⟨hmem, hending⟩ := List.mem_filter.1 hmark
  exact h mark hmem (Nat.le_zero.1 (of_decide_eq_true hending))

/-- What is in front of numberings leaves less room for them. -/
theorem Sound.linesWithin_shift {marks : List Mark} (h : Sound marks) (room front : Nat) :
    linesWithin room (marks.map (shift front)) = linesWithin (room - front) marks := by
  rcases Nat.lt_or_ge room front with hlt | hle
  · rw [linesWithin_shift_of_lt hlt, Nat.sub_eq_zero_of_le (Nat.le_of_lt hlt), h.linesWithin_zero]
  · exact linesWithin_shift_of_le hle marks

end Mark

section Tallying
open Mark

/-- Into a sink with room for so many bytes the step writes as much of `text` as there is room for, and fails
as the sink does if that is not all. It counts the lines of the numberings that it has written to the end. -/
def Tallies {α : Type} (step : Write α) (text : Bytes) (marks : List Mark) : Prop :=
  ∀ w room, w.sink.room = some room → ∃ w',
    (if text.length ≤ room then ∃ value, step w = .ok value w' else step w = .error w.sink.failure w') ∧
      w.sink.Took (text.take room) w'.sink ∧ w'.lines = w.lines + linesWithin room marks

variable {α β : Type} {first : Write α} {second : Write β} {text more : Bytes} {marks later : List Mark}

theorem Tallies.seq (h : Tallies first text marks) (h' : Tallies second more later) :
    Tallies (first >>= fun _ => second) (text ++ more) (marks ++ later.map (shift text.length)) := by
  intro w room hroom
  obtain ⟨w₁, hresult, htook, hlines⟩ := h w room hroom
  by_cases hfits : text.length ≤ room
  · rw [if_pos hfits] at hresult
    obtain ⟨value, hfirst⟩ := hresult
    have hroom₁ : w₁.sink.room = some (room - text.length) := by
      rw [htook.room, hroom, List.take_of_length_le hfits]
      rfl
    obtain ⟨w₂, hresult₂, htook₂, hlines₂⟩ := h' w₁ _ hroom₁
    refine ⟨w₂, ?_, ?_, ?_⟩
    · simp only [bind, EStateM.bind, hfirst, List.length_append]
      rw [htook.failure] at hresult₂
      split at hresult₂
      · rwa [if_pos (by omega)]
      · rwa [if_neg (by omega)]
    · rw [List.take_append]
      exact htook.trans htook₂
    · rw [hlines₂, hlines, linesWithin_append, linesWithin_shift_of_le hfits, Nat.add_assoc]
  · rw [if_neg hfits] at hresult
    refine ⟨w₁, ?_, ?_, ?_⟩
    · rw [List.length_append, if_neg (by omega)]
      simp only [bind, EStateM.bind, hresult]
    · rwa [List.take_append_of_le_length (by omega)]
    · rw [hlines, linesWithin_append, linesWithin_shift_of_lt (by omega), Nat.add_zero]

theorem tallies_emit (text : String) : Tallies (emit text) (Utf8.encode text) [] := by
  intro w room hroom
  rcases Nat.lt_or_ge room (Utf8.encode text).length with hlong | hfits
  · obtain ⟨t, hwrite, htook⟩ := Sink.write_of_room_lt hroom hlong
    refine ⟨{ w with sink := t }, ?_, htook, rfl⟩
    rw [if_neg (Nat.not_le.2 hlong)]
    simp only [emit, hwrite]
  · have hall : w.sink.Fits (Utf8.encode text).length := by
      intro other hother
      rwa [← Option.some.inj (hroom.symm.trans hother)]
    obtain ⟨t, hwrite, htook⟩ := Sink.write_of_fits hall
    refine ⟨{ w with sink := t }, ?_, ?_, rfl⟩
    · rw [if_pos hfits]
      exact ⟨(), by simp only [emit, hwrite]⟩
    · rwa [List.take_of_length_le hfits]

/-- A step that does not touch the sink counts all at once. -/
theorem tallies_count (count : Nat) (value : α) :
    Tallies (do modify fun w => { w with lines := w.lines + count }; return value) [] [⟨0, count⟩] := by
  intro w room _
  refine ⟨{ w with lines := w.lines + count }, ⟨value, rfl⟩, ?_, rfl⟩
  rw [List.take_nil]
  exact .nil _

theorem tallies_pure (value : α) : Tallies (pure value) [] [] := by
  intro w room _
  refine ⟨w, ⟨value, rfl⟩, ?_, rfl⟩
  rw [List.take_nil]
  exact .nil _

theorem tallies_emitAll (parts : List String) : Tallies (emitAll parts) (Utf8.encode (String.join parts)) [] := by
  induction parts with
  | nil => exact tallies_pure ()
  | cons part parts ih =>
    have h := (tallies_emit part).seq ih
    rw [List.map_nil, List.append_nil, ← Utf8.encode_append] at h
    rw [String.join_cons]
    exact h

/-- The lines of a text are written one after another; none of them is counted yet. -/
theorem tallies_forM_lineParts (lines : List (List Char × Nat)) :
    Tallies (lines.forM fun line => emitAll ((Numbering.lineParts line.2 line.1).map String.ofList))
      (Utf8.encode (String.ofList (lines.map fun line => Numbering.numberLine line.2 line.1).flatten)) [] := by
  induction lines with
  | nil => exact tallies_pure ()
  | cons line lines ih =>
    have h := (tallies_emitAll ((Numbering.lineParts line.2 line.1).map String.ofList)).seq ih
    rw [List.map_nil, List.append_nil, ← Utf8.encode_append, join_map_ofList, flatten_lineParts,
      ← String.ofList_append] at h
    rw [List.map_cons, List.flatten_cons]
    exact h

/-- The numbering in the body of a block, if it is a text. -/
def marksOf : Outcome → List Mark
  | .included content => [⟨(Utf8.encode (numbered content)).length, (Lines.split content.toList).length⟩]
  | _ => []

theorem tallies_writeNumbered (content : String) :
    Tallies (writeNumbered content) (Utf8.encode (numbered content)) (marksOf (.included content)) := by
  let lines := (Lines.split content.toList).zipIdx 1
  have h := (tallies_forM_lineParts lines).seq (tallies_count lines.length lines.length)
  have hlength : (Lines.split content.toList).length = lines.length := List.length_zipIdx.symm
  rw [List.append_nil, List.nil_append, List.map_singleton, shift, Nat.add_zero] at h
  rw [marksOf, hlength]
  exact h

theorem Tallies.discard (h : Tallies first text marks) : Tallies (discard first) text marks := by
  have hdrop := h.seq (tallies_pure ())
  rw [List.append_nil, List.map_nil, List.append_nil] at hdrop
  exact hdrop

theorem tallies_writeOpening (drawing : Option String) :
    Tallies (writeOpening drawing) (Utf8.encode (opening drawing)) [] := by
  rw [← join_openingParts]
  exact tallies_emitAll _

theorem tallies_writeBody (path : Path) (outcome : Outcome) :
    Tallies (writeBody path outcome) (Utf8.encode (body path outcome)) (marksOf outcome) := by
  cases outcome with
  | included content => exact (tallies_writeNumbered content).discard
  | binary =>
    rw [body, ← join_binaryParts]
    exact tallies_emitAll _
  | unreadable message =>
    rw [body, ← join_errorParts]
    exact tallies_emitAll _

theorem tallies_writeBlock (path : Path) (outcome : Outcome) :
    Tallies (writeBlock path outcome) (Utf8.encode (block path outcome))
      ((marksOf outcome).map (.shift (Utf8.encode (header path)).length)) := by
  have h := (tallies_emitAll (headerParts path)).seq
    ((tallies_writeBody path outcome).seq (tallies_emit separator))
  rw [join_headerParts, ← Utf8.encode_append, ← Utf8.encode_append, ← String.append_assoc, List.map_nil,
    List.append_nil, List.nil_append] at h
  exact h

end Tallying

inductive Call
  | opening (drawing : Option String)
  | numbered (content : String)
  | block (path : Path) (outcome : Outcome)

namespace Call

def text : Call → Bytes
  | opening drawing => Utf8.encode (Artifact.opening drawing)
  | numbered content => Utf8.encode (Artifact.numbered content)
  | block path outcome => Utf8.encode (Artifact.block path outcome)

def run : Call → Write Unit
  | opening drawing => writeOpening drawing
  | numbered content => discard (writeNumbered content)
  | block path outcome => writeBlock path outcome

/-- The numbering in what the call is to write, if there is one: of a block only a text in its body is
numbered, behind the header. -/
def marks : Call → List Mark
  | opening _ => []
  | numbered content => marksOf (.included content)
  | block path outcome => (marksOf outcome).map (.shift (Utf8.encode (header path)).length)

/-- Makes a call, and gives how it failed if it did. -/
def attempt (call : Call) (w : Writer) : Option IoError × Writer :=
  match call.run w with
  | .ok () w => (none, w)
  | .error e w => (some e, w)

/-- Makes calls one after another, the later ones also if an earlier one failed. -/
def attemptAll : List Call → Writer → List (Option IoError) × Writer
  | [], w => ([], w)
  | call :: calls, w =>
    let (failure, w) := call.attempt w
    let (failures, w) := attemptAll calls w
    (failure :: failures, w)

def texts (calls : List Call) : Bytes := (calls.map text).flatten

/-- The numberings in what calls are to write, after `front` bytes. -/
def marksAfter (front : Nat) : List Call → List Mark
  | [] => []
  | call :: calls => call.marks.map (.shift front) ++ marksAfter (front + call.text.length) calls

theorem tallies_run (call : Call) : Tallies call.run call.text call.marks := by
  cases call with
  | opening drawing => exact tallies_writeOpening drawing
  | numbered content => exact (tallies_writeNumbered content).discard
  | block path outcome => exact tallies_writeBlock path outcome

/-- Lines are numbered with some bytes. -/
theorem split_eq_nil_of_numbered {content : String} (h : Utf8.encode (Artifact.numbered content) = []) :
    Lines.split content.toList = [] := by
  have hempty : Artifact.numbered content = "" := by
    have hread := Utf8.decode?_encode (Artifact.numbered content)
    rw [h] at hread
    exact (Option.some.inj hread).symm
  have hnumber : Numbering.number content.toList = [] := by
    rw [← Numbering.split_flatten_number, ← String.toList_ofList (l := (Numbering.number _).flatten)]
    exact congrArg (fun s : String => Lines.split s.toList) hempty
  rw [← List.length_eq_zero_iff, ← length_number, hnumber, List.length_nil]

theorem sound_marksOf (outcome : Outcome) : Mark.Sound (marksOf outcome) := by
  intro mark hmark hending
  cases outcome with
  | included content =>
    rw [marksOf, List.mem_singleton] at hmark
    simp only [hmark, List.length_eq_zero_iff] at hending
    simp only [hmark, split_eq_nil_of_numbered hending, List.length_nil]
  | binary => cases hmark
  | unreadable message => cases hmark

theorem sound_marks (call : Call) : Mark.Sound call.marks := by
  cases call with
  | opening drawing => nofun
  | numbered content => exact sound_marksOf (.included content)
  | block path outcome => exact Mark.sound_map_shift (sound_marksOf outcome) _

variable {limit front : Nat} {w : Writer}

/-- A call on a writer whose sink takes bytes up to `limit`, `front` of which were to be written before. -/
theorem attempt_of_room (call : Call) (hroom : w.sink.room = some (limit - front)) :
    ∃ w', call.attempt w =
        (if call.text ≠ [] ∧ limit < front + call.text.length then some w.sink.failure else none, w') ∧
      w'.sink.room = some (limit - (front + call.text.length)) ∧ w'.sink.failure = w.sink.failure ∧
      w'.sink.accepted = w.sink.accepted ++ call.text.take (limit - front) ∧
      w'.lines = w.lines + Mark.linesWithin limit (call.marks.map (.shift front)) := by
  obtain ⟨w', hresult, htook, hlines⟩ := tallies_run call w _ hroom
  refine ⟨w', ?_, ?_, htook.failure, htook.accepted, ?_⟩
  · have hbeyond : (call.text ≠ [] ∧ limit < front + call.text.length) ↔ limit - front < call.text.length := by
      rw [ne_eq, ← List.length_eq_zero_iff]
      omega
    rw [attempt]
    split at hresult
    · rename_i hfits
      obtain ⟨value, hrun⟩ := hresult
      rw [hrun, if_neg (by rwa [hbeyond, Nat.not_lt])]
    · rename_i hlong
      rw [hresult, if_pos (hbeyond.2 (Nat.not_le.1 hlong))]
  · rw [htook.room, hroom, Option.map_some, List.length_take]
    congr 1
    omega
  · rw [hlines, (sound_marks call).linesWithin_shift]

/-- Calls one after another on such a writer. -/
theorem attemptAll_of_room (calls : List Call) (hroom : w.sink.room = some (limit - front)) :
    ∃ failures w', attemptAll calls w = (failures, w') ∧
      w'.sink.accepted = w.sink.accepted ++ (texts calls).take (limit - front) ∧
      failures.length = calls.length ∧
      (∀ before call after, calls = before ++ call :: after → failures[before.length]? =
        some (if call.text ≠ [] ∧ limit < front + (texts (before ++ [call])).length then some w.sink.failure
          else none)) ∧
      w'.lines = w.lines + Mark.linesWithin limit (marksAfter front calls) := by
  induction calls generalizing front w with
  | nil =>
    refine ⟨[], w, rfl, ?_, rfl, by simp, rfl⟩
    rw [texts, List.map_nil, List.flatten_nil, List.take_nil, List.append_nil]
  | cons call calls ih =>
    obtain ⟨w₁, hcall, hroom₁, hfailure, haccepted, hlines⟩ := attempt_of_room call hroom
    obtain ⟨failures, w₂, hcalls, haccepted₂, hlength, hfailures, hlines₂⟩ := ih hroom₁
    have hall : attemptAll (call :: calls) w = ((call.attempt w).1 :: failures, w₂) := by
      rw [attemptAll, hcall]
      simp only [hcalls]
    refine ⟨_, w₂, hall, ?_, by rw [List.length_cons, hlength, List.length_cons], ?_, ?_⟩
    · have htexts : texts (call :: calls) = call.text ++ texts calls := rfl
      rw [haccepted₂, haccepted, List.append_assoc, htexts, List.take_append, Nat.sub_add_eq]
    · intro before other after hsplit
      cases before with
      | nil =>
        obtain ⟨rfl, -⟩ := List.cons.inj hsplit
        simp [hcall, texts]
      | cons first before =>
        obtain ⟨rfl, hrest⟩ := List.cons.inj hsplit
        rw [List.length_cons, List.getElem?_cons_succ, hfailures before other after hrest, hfailure, Nat.add_assoc]
        simp [texts]
    · rw [hlines₂, hlines, marksAfter, Mark.linesWithin_append, Nat.add_assoc]

end Call

open Call in
/-- Calls on a fresh writer whose sink takes bytes up to a limit and then fails. The sink has taken the first bytes of
what they were to write; a call failed, as the sink does, just if it was to write something and that ends beyond
the limit; and the lines are those of the numberings that end up to the limit, whole numberings only. -/
theorem attemptAll_bounded (calls : List Call) (limit : Limit) :
    ∃ failures w,
      attemptAll calls { sink := .bounded limit.size limit.failure limit.lasting } = (failures, w) ∧
      w.sink.accepted = (texts calls).take (min limit.size (texts calls).length) ∧
      failures.length = calls.length ∧
      (∀ before call after, calls = before ++ call :: after → failures[before.length]? =
        some (if call.text ≠ [] ∧ limit.size < (texts (before ++ [call])).length then some limit.failure
          else none)) ∧
      w.lines = (((marksAfter 0 calls).filter (·.ending ≤ limit.size)).map Mark.lines).sum := by
  let start : Writer := { sink := .bounded limit.size limit.failure limit.lasting }
  have hroom : start.sink.room = some (limit.size - 0) := rfl
  obtain ⟨failures, w, hcalls, haccepted, hlength, hfailures, hlines⟩ := attemptAll_of_room calls hroom
  refine ⟨failures, w, hcalls, ?_, hlength, ?_, ?_⟩
  · rw [haccepted, Nat.sub_zero, ← List.take_eq_take_min]
    rfl
  · intro before call after hsplit
    rw [hfailures before call after hsplit, Nat.zero_add]
    rfl
  · rw [hlines, Mark.linesWithin, Nat.zero_add]

/-- The separator of a block is cut by one byte, but its two lines are counted. -/
example : (Call.attemptAll [.block (.ofString "a") (.included "x\ny"), .numbered "", .numbered "z"]
    { sink := Sink.bounded 45 .noSpace }).2.lines = 2 := by
  decide +kernel

end SourceSnapshot.Artifact
