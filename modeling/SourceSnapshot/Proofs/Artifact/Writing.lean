import SourceSnapshot.Artifact.Writer
import SourceSnapshot.Proofs.Text.Utf8
import Mathlib.Algebra.GroupWithZero.Nat

/-! What writing does to a sink. A step that emits a text has it taken whole, or fails as the sink does
once the sink is full; steps one after another emit their texts one after another. So what a run of
steps writes is known from the texts alone, wherever the sink ends. -/
namespace SourceSnapshot

namespace Sink

def Fits (s : Sink) (size : Nat) : Prop := ∀ room, s.room = some room → size ≤ room

/-- `t` is `s` after it has taken `text`, in whatever pieces. -/
structure Took (s : Sink) (text : Bytes) (t : Sink) : Prop where
  accepted : t.accepted = s.accepted ++ text
  room : t.room = s.room.map (· - text.length)
  failure : t.failure = s.failure
  closeFailure : t.closeFailure = s.closeFailure

theorem Took.nil (s : Sink) : s.Took [] s := ⟨by simp, by cases s.room <;> rfl, rfl, rfl⟩

theorem Took.trans {s t u : Sink} {first second : Bytes} (h : s.Took first t) (h' : t.Took second u) :
    s.Took (first ++ second) u where
  accepted := by rw [h'.accepted, h.accepted, List.append_assoc]
  room := by
    rw [h'.room, h.room, Option.map_map, List.length_append]
    congr 1
    funext room
    exact Nat.sub_sub ..
  failure := h'.failure.trans h.failure
  closeFailure := h'.closeFailure.trans h.closeFailure

theorem write_of_fits {s : Sink} {text : Bytes} (h : s.Fits text.length) :
    ∃ t, s.write text = (.ok (), t) ∧ s.Took text t := by
  unfold write
  cases hr : s.room with
  | none => exact ⟨_, rfl, by simp, by simp [take, hr], rfl, rfl⟩
  | some room =>
    have hle : text.length ≤ room := h room hr
    refine ⟨_, if_pos hle, ?_, ?_, rfl, rfl⟩
    · rw [accepted_take, List.take_of_length_le hle]
      rfl
    · simp [take, hr]

theorem write_of_room_lt {s : Sink} {text : Bytes} {room : Nat} (hr : s.room = some room)
    (h : room < text.length) :
    ∃ t, s.write text = (.error s.failure, t) ∧ s.Took (text.take room) t := by
  unfold write
  rw [hr]
  refine ⟨_, if_neg (Nat.not_le.2 h), ?_, ?_, rfl, rfl⟩
  · rw [accepted_take]
    rfl
  · simp only [take, hr, Option.map_some, List.length_take, Option.some.injEq]
    omega

end Sink

section Emitting
variable {σ ν α β : Type} (sink : σ → Sink) (view : σ → ν)

/-- The step emits `text`: if the sink takes it, the step gives `value` and changes what `view` shows
by `change`; if not, the step fails as the sink does, which has then taken what it had room for. -/
structure Emits (step : EStateM IoError σ α) (text : Bytes) (value : α) (change : ν → ν) : Prop where
  ok : ∀ s, (sink s).Fits text.length →
    ∃ s', step s = .ok value s' ∧ (sink s).Took text (sink s') ∧ view s' = change (view s)
  error : ∀ s room, (sink s).room = some room → room < text.length →
    ∃ s', step s = .error (sink s).failure s' ∧ (sink s).Took (text.take room) (sink s')

variable {sink view} {first : EStateM IoError σ α} {next : α → EStateM IoError σ β}
  {text more : Bytes} {value : α} {last : β} {change further : ν → ν}

theorem Emits.bind (h : Emits sink view first text value change)
    (h' : Emits sink view (next value) more last further) :
    Emits sink view (first >>= next) (text ++ more) last (further ∘ change) where
  ok s hs := by
    have hfits : (sink s).Fits text.length := fun room hr => by
      have := hs room hr
      rw [List.length_append] at this
      omega
    obtain ⟨t, ht, htook, hview⟩ := h.ok s hfits
    have hfits' : (sink t).Fits more.length := fun room hr => by
      rw [htook.room] at hr
      obtain ⟨before, hbefore, rfl⟩ := Option.map_eq_some_iff.1 hr
      have := hs before hbefore
      rw [List.length_append] at this
      omega
    obtain ⟨u, hu, hutook, hview'⟩ := h'.ok t hfits'
    refine ⟨u, ?_, htook.trans hutook, by rw [hview', hview]; rfl⟩
    simp only [Bind.bind, EStateM.bind, ht, hu]
  error s room hr hlt := by
    by_cases hle : text.length ≤ room
    · have hfits : (sink s).Fits text.length := fun other ho => by
        rw [hr, Option.some.injEq] at ho
        exact ho ▸ hle
      obtain ⟨t, ht, htook, hview⟩ := h.ok s hfits
      have hroom : (sink t).room = some (room - text.length) := by rw [htook.room, hr]; rfl
      rw [List.length_append] at hlt
      obtain ⟨u, hu, hutook⟩ := h'.error t _ hroom (by omega)
      refine ⟨u, ?_, ?_⟩
      · simp only [Bind.bind, EStateM.bind, ht, hu, htook.failure]
      · rw [List.take_append, List.take_of_length_le hle]
        exact htook.trans hutook
    · obtain ⟨t, ht, htook⟩ := h.error s room hr (by omega)
      refine ⟨t, ?_, ?_⟩
      · simp only [Bind.bind, EStateM.bind, ht]
      · rwa [List.take_append_of_le_length (by omega)]

theorem Emits.seq {second : EStateM IoError σ β} (h : Emits sink view first text value change)
    (h' : Emits sink view second more last further) :
    Emits sink view (first >>= fun _ => second) (text ++ more) last (further ∘ change) :=
  Emits.bind h h'

theorem Emits.silent (h : ∀ s, ∃ s',
      first s = .ok value s' ∧ sink s' = sink s ∧ view s' = change (view s)) :
    Emits sink view first [] value change where
  ok s _ := by
    obtain ⟨t, ht, hsink, hview⟩ := h s
    exact ⟨t, ht, hsink ▸ .nil _, hview⟩
  error _ _ _ hlt := absurd hlt (Nat.not_lt_zero _)

end Emitting

namespace Artifact

def lineCount : Outcome → Nat
  | .included content => (Lines.split content.toList).length
  | _ => 0

/-- The step writes `text`, with so many numbered lines. -/
def Writes {α : Type} (step : Write α) (text : String) (value : α) (lines : Nat) : Prop :=
  Emits Writer.sink Writer.lines step (Utf8.encode text) value (· + lines)

variable {α β : Type} {first : Write α} {second : Write β} {text more : String} {value : α} {last : β}
  {lines further : Nat}

theorem Writes.seq (h : Writes first text value lines) (h' : Writes second more last further) :
    Writes (first >>= fun _ => second) (text ++ more) last (lines + further) := by
  have hchange : (fun n => n + (lines + further)) = (· + further) ∘ (· + lines) :=
    funext fun n => (Nat.add_assoc n lines further).symm
  rw [Writes, Utf8.encode_append, hchange]
  exact Emits.seq h h'

theorem writes_emit (text : String) : Writes (emit text) text () 0 where
  ok w hw := by
    obtain ⟨t, ht, htook⟩ := Sink.write_of_fits hw
    exact ⟨{ w with sink := t }, by simp only [emit, ht], htook, rfl⟩
  error w room hr hlt := by
    obtain ⟨t, ht, htook⟩ := Sink.write_of_room_lt hr hlt
    exact ⟨{ w with sink := t }, by simp only [emit, ht], htook⟩

theorem writes_silent (h : ∀ w, ∃ w', first w = .ok value w' ∧ w'.sink = w.sink ∧ w'.lines = w.lines + lines) :
    Writes first "" value lines := Emits.silent h

theorem writes_emitAll (parts : List String) : Writes (emitAll parts) (String.join parts) () 0 := by
  induction parts with
  | nil => exact writes_silent fun w => ⟨w, rfl, rfl, rfl⟩
  | cons part parts ih =>
    rw [String.join_cons]
    exact (writes_emit part).seq ih

section Parts

theorem join_openingParts (drawing : Option String) : String.join (openingParts drawing) = opening drawing := by
  simp only [openingParts, opening, String.join_cons, String.join_nil, String.append_empty, String.append_assoc]

theorem flatten_partsOf (found : List (Option Char)) :
    (Utf8.partsOf found).flatten = found.map (·.getD '\uFFFD') := by
  induction found with
  | nil => rfl
  | cons first rest ih =>
    rw [List.map_cons, ← ih]
    cases first with
    | none => rfl
    | some c =>
      rw [Utf8.partsOf]
      split
      · rename_i hnone
        rw [hnone]
        rfl
      · rename_i part parts hparts
        rw [hparts]
        rfl

theorem join_map_ofList (parts : List (List Char)) :
    String.join (parts.map String.ofList) = String.ofList parts.flatten := by
  induction parts with
  | nil => rfl
  | cons part parts ih => rw [List.map_cons, String.join_cons, ih, List.flatten_cons, String.ofList_append]

variable (path : Path)

theorem join_displayParts : String.join path.displayParts = path.display := by
  rw [Path.displayParts, Utf8.lossyParts, join_map_ofList, flatten_partsOf, Path.display, Utf8.decodeLossy]

theorem join_headerParts : String.join (headerParts path) = header path := by
  simp only [headerParts, header, List.cons_append, String.join_cons, String.join_append, join_displayParts,
    String.join_nil, String.append_empty, String.append_assoc]

theorem join_binaryParts : String.join (binaryParts path) = binaryNotice path.display := by
  simp only [binaryParts, binaryNotice, List.cons_append, String.join_cons, String.join_append,
    join_displayParts, String.join_nil, String.append_empty, String.append_assoc]

theorem join_errorParts (message : String) :
    String.join (errorParts path message) = errorNotice path.display message := by
  simp only [errorParts, errorNotice, errorNoticeStart, List.cons_append, String.join_cons, String.join_append,
    join_displayParts, String.join_nil, String.append_empty, String.append_assoc]

theorem flatten_lineParts (n : Nat) (line : List Char) :
    (Numbering.lineParts n line).flatten = Numbering.numberLine n line := by
  rw [Numbering.lineParts, List.flatten_append, List.flatten_replicate_singleton, Numbering.numberLine,
    Numeral.rightAligned, List.leftpad]
  simp only [List.flatten_cons, List.flatten_nil, List.append_nil, List.append_assoc]

end Parts

theorem writes_writeOpening (drawing : Option String) :
    Writes (writeOpening drawing) (opening drawing) () 0 := by
  rw [← join_openingParts]
  exact writes_emitAll _

/-- Lines are written one after another, each in its parts; none of them is counted yet. -/
theorem writes_forM_lineParts (lines : List (List Char × Nat)) :
    Writes (lines.forM fun line => emitAll ((Numbering.lineParts line.2 line.1).map String.ofList))
      (String.ofList (lines.map fun line => Numbering.numberLine line.2 line.1).flatten) () 0 := by
  induction lines with
  | nil => exact writes_silent fun w => ⟨w, rfl, rfl, rfl⟩
  | cons line lines ih =>
    rw [List.map_cons, List.flatten_cons, String.ofList_append, ← flatten_lineParts, ← join_map_ofList]
    exact (writes_emitAll _).seq ih

theorem length_number (content : List Char) :
    (Numbering.number content).length = (Lines.split content).length := by
  rw [Numbering.number, List.length_map, List.length_zipIdx]

theorem writes_writeNumbered (content : String) :
    Writes (writeNumbered content) (numbered content) (Lines.split content.toList).length
      (Lines.split content.toList).length := by
  let lines := (Lines.split content.toList).zipIdx 1
  have hcount : Writes (do
      modify fun w => { w with lines := w.lines + lines.length }
      return lines.length) "" lines.length lines.length := writes_silent fun w => ⟨_, rfl, rfl, rfl⟩
  have h := (writes_forM_lineParts lines).seq hcount
  rw [String.append_empty, Nat.zero_add] at h
  have hlength : (Lines.split content.toList).length = lines.length := List.length_zipIdx.symm
  rw [hlength]
  exact h

theorem Writes.discard (h : Writes first text value lines) :
    Writes (discard first) text () lines := by
  have hdrop : Writes (pure () : Write Unit) "" () 0 := writes_silent fun w => ⟨w, rfl, rfl, rfl⟩
  have hseq := h.seq hdrop
  rw [String.append_empty] at hseq
  exact hseq

theorem writes_writeBody (path : Path) (outcome : Outcome) :
    Writes (writeBody path outcome) (body path outcome) () (lineCount outcome) := by
  cases outcome with
  | included content => exact (writes_writeNumbered content).discard
  | binary =>
    rw [body, ← join_binaryParts]
    exact writes_emitAll _
  | unreadable message =>
    rw [body, ← join_errorParts]
    exact writes_emitAll _

theorem writes_writeBlock (path : Path) (outcome : Outcome) :
    Writes (writeBlock path outcome) (block path outcome) () (lineCount outcome) := by
  have h := (writes_emitAll (headerParts path)).seq ((writes_writeBody path outcome).seq (writes_emit separator))
  rw [join_headerParts, Nat.zero_add, ← String.append_assoc] at h
  exact h

def blocksText (blocks : List (Path × Outcome)) : String :=
  String.join (blocks.map fun (path, outcome) => block path outcome)

def blocksLines (blocks : List (Path × Outcome)) : Nat := (blocks.map fun b => lineCount b.2).sum

theorem blocksText_append (blocks more : List (Path × Outcome)) :
    blocksText (blocks ++ more) = blocksText blocks ++ blocksText more := by
  rw [blocksText, List.map_append, String.join_append, ← blocksText, ← blocksText]

theorem blocksLines_append (blocks more : List (Path × Outcome)) :
    blocksLines (blocks ++ more) = blocksLines blocks + blocksLines more := by
  rw [blocksLines, List.map_append, List.sum_append, ← blocksLines, ← blocksLines]

end Artifact
end SourceSnapshot
