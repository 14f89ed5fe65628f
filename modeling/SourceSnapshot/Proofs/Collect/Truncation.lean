import SourceSnapshot.Proofs.Collect.Composition

/-! A snapshot into a sink that fills up. What is written is cut where the room ends, wherever in a block
that is, and nothing follows the cut; the failure is the sink's own. So a snapshot that was cut is never
taken for one that succeeded. -/
namespace SourceSnapshot.Collection

/-- What the snapshot `cut` into a sink of limited room is, beside the same snapshot `whole` into a sink
that takes everything. -/
structure Truncated (whole cut : Snapshot) (limit : Limit) (closeFailure : Option IoError) : Prop where
  artifact : cut.artifact = whole.artifact.take limit.size
  succeeds : (∃ summary, cut.result = .ok summary) ↔
    whole.artifact.length ≤ limit.size ∧ closeFailure = none
  summary : ∀ summary, cut.result = .ok summary → whole.result = .ok summary
  overflow : limit.size < whole.artifact.length → cut.result = .error limit.failure
  unclosed : ∀ e, closeFailure = some e → whole.artifact.length ≤ limit.size → cut.result = .error e

/-- A snapshot that failed is a truncated one if it failed for want of room, or in closing a sink with room
enough. -/
theorem truncated_of_error {whole cut : Snapshot} {limit : Limit} {e : IoError}
    {closeFailure : Option IoError} (hartifact : cut.artifact = whole.artifact.take limit.size)
    (hresult : cut.result = .error e) (hwhy : limit.size < whole.artifact.length ∧ e = limit.failure ∨
      whole.artifact.length ≤ limit.size ∧ closeFailure = some e) :
    Truncated whole cut limit closeFailure where
  artifact := hartifact
  succeeds := by
    constructor
    · rintro ⟨summary, h⟩
      cases hresult.symm.trans h
    · rintro ⟨hshort, hclosed⟩
      rcases hwhy with ⟨hlong, -⟩ | ⟨-, hclose⟩
      · omega
      · cases hclosed.symm.trans hclose
  summary := by
    intro summary h
    cases hresult.symm.trans h
  overflow := by
    intro hlong
    rcases hwhy with ⟨-, rfl⟩ | ⟨hshort, -⟩
    · exact hresult
    · omega
  unclosed := by
    intro e' hclose' hshort
    rcases hwhy with ⟨hlong, -⟩ | ⟨-, hclose⟩
    · omega
    · cases hclose'.symm.trans hclose
      exact hresult

/-- A sink that takes a given number of bytes and then fails gets just the first bytes of the artifact,
up to that number. The snapshot succeeds, with the account that it has without a limit, just if this is
all of the artifact and the sink can be closed; else it gives the failure of the sink as it is. -/
theorem snapshot_truncated (c : Collection) (fs : FileSystem) (root : Path) (limit : Limit)
    (closeFailure : Option IoError) :
    (∃ summary, (c.snapshot fs root {}).result = .ok summary) ∧
    Truncated (c.snapshot fs root {})
      (c.snapshot fs root { Sink.bounded limit.size limit.failure limit.lasting with closeFailure }) limit
      closeFailure := by
  have hnone : ({} : Sink).accepted = [] := rfl
  have hall : Sink.Fits {} (Utf8.encode (c.artifactText fs root none)).length := fun _ hroom => by cases hroom
  obtain ⟨hresult, hwhole⟩ := snapshot_of_fits hall rfl
  rw [hnone, List.nil_append] at hwhole
  refine ⟨⟨_, hresult⟩, ?_⟩
  generalize hbounded : Sink.bounded limit.size limit.failure limit.lasting = bounded
  have hnew : ({ bounded with closeFailure } : Sink).accepted = [] := by
    rw [← hbounded]
    rfl
  have hroom : ({ bounded with closeFailure } : Sink).room = some limit.size := by
    rw [← hbounded]
    rfl
  have hfailure : ({ bounded with closeFailure } : Sink).failure = limit.failure := by
    rw [← hbounded]
    rfl
  have hcloses : ({ bounded with closeFailure } : Sink).closeFailure = closeFailure := rfl
  generalize ({ bounded with closeFailure } : Sink) = sink at *
  rcases Nat.lt_or_ge limit.size (Utf8.encode (c.artifactText fs root none)).length with hlong | hshort
  · obtain ⟨herror, hcut⟩ := snapshot_of_room_lt hroom hlong
    rw [hnew, List.nil_append, ← hwhole] at hcut
    rw [← hwhole] at hlong
    exact truncated_of_error hcut herror (.inl ⟨hlong, hfailure⟩)
  · have hfits : sink.Fits (Utf8.encode (c.artifactText fs root none)).length := by
      intro room hsome
      rw [← Option.some.inj (hroom.symm.trans hsome)]
      exact hshort
    have htake := List.take_of_length_le hshort
    rw [← hwhole] at hshort htake
    cases closeFailure with
    | none =>
      obtain ⟨hok, hcut⟩ := snapshot_of_fits hfits hcloses
      rw [hnew, List.nil_append, ← hwhole] at hcut
      exact {
        artifact := hcut.trans htake.symm
        succeeds := ⟨fun _ => ⟨hshort, rfl⟩, fun _ => ⟨_, hok⟩⟩
        summary := fun summary h => hresult.trans (hok.symm.trans h)
        overflow := fun hlong => absurd hshort (Nat.not_le.2 hlong)
        unclosed := nofun }
    | some e =>
      obtain ⟨herror, hcut⟩ := snapshot_of_closeFailure hfits hcloses
      rw [hnew, List.nil_append, ← hwhole] at hcut
      exact truncated_of_error (hcut.trans htake.symm) herror (.inr ⟨hshort, rfl⟩)

end SourceSnapshot.Collection
