import SourceSnapshot.Proofs.Collect.Composition
import SourceSnapshot.Proofs.Search.Restriction

/-! Snapshots under a configuration that asks for less. Their blocks are some of those of the snapshot under
the wider one, each as it stands there, in the same order; nothing comes in for what is left out. -/
namespace SourceSnapshot.Collection

variable {c c' : Collection} {fs : FileSystem} {root : Path}

/-- The blocks of a snapshot in order, each with the path in its header and its whole text. -/
def blockTexts (c : Collection) (fs : FileSystem) (root : Path) : List (Path × String) :=
  (c.blocks fs (c.search fs root none).files).map fun block => (block.1, Artifact.block block.1 block.2)

/-- What the narrower configuration collects of fewer files is some of what the other collects of more. -/
theorem sublist_collected (h : c.config.Narrows c'.config) {fewer more : List FoundFile}
    (hfiles : fewer.Sublist more) : (c'.collected fewer).Sublist (c.collected more) := by
  have hkept : c'.collected fewer = (c.collected fewer).filter fun file =>
      c'.config.decide file.path = .included := by
    rw [collected, collected, List.filter_filter]
    apply List.filter_congr
    intro file hfile
    by_cases hincluded : c'.config.decide file.path = .included
    · simp [hincluded, h.decide_eq_included hincluded]
    · simp [hincluded]
  rw [hkept]
  exact List.filter_sublist.trans (hfiles.filter _)

/-- The artifact of a snapshot into a sink that takes everything is its opening and then its blocks. -/
theorem artifact_eq_blockTexts (c : Collection) (fs : FileSystem) (root : Path) :
    (c.snapshot fs root {}).artifact = Utf8.encode (Artifact.opening (c.drawing? fs root) ++
      String.join ((c.blockTexts fs root).map Prod.snd)) := by
  have hfits : Sink.Fits {} (Utf8.encode (c.artifactText fs root none)).length := by
    intro room hroom
    cases hroom
  rw [(snapshot_of_fits hfits rfl).2, artifactText, Artifact.text, blockTexts, List.map_map]
  rfl

/-- Each block is headed by the names that lead to its file from the root, through no directory that is left
out. -/
theorem exists_keeps_of_mem_blockTexts {block : Path × String} (hblock : block ∈ c.blockTexts fs root) :
    ∃ front last, block.1 = .ofNames (front ++ [last]) ∧ c.config.Keeps front := by
  rw [blockTexts, blocks, List.map_map, List.mem_map] at hblock
  obtain ⟨file, hfile, rfl⟩ := hblock
  obtain ⟨front, last, rfl, hkeeps⟩ := Search.exists_keeps_of_mem_files (List.mem_filter.1 hfile).1
  exact ⟨front, last, rfl, hkeeps⟩

/-- Under a narrower configuration, with ignore files obeyed or not and whatever they say, the blocks of a
snapshot are some of those under the wider one, byte for byte and in the same order, whatever is drawn above
them; and none is of a file beneath a directory that is left out. -/
theorem snapshot_of_narrows (h : c.config.Narrows c'.config) (fs : FileSystem) (root : Path) :
    (c.snapshot fs root {}).artifact = Utf8.encode (Artifact.opening (c.drawing? fs root) ++
      String.join ((c.blockTexts fs root).map Prod.snd)) ∧
    (c'.snapshot fs root {}).artifact = Utf8.encode (Artifact.opening (c'.drawing? fs root) ++
      String.join ((c'.blockTexts fs root).map Prod.snd)) ∧
    (c'.blockTexts fs root).Sublist (c.blockTexts fs root) ∧
    ∀ block ∈ c'.blockTexts fs root, ∃ front last,
      block.1 = .ofNames (front ++ [last]) ∧ c'.config.Keeps front := by
  refine ⟨c.artifact_eq_blockTexts fs root, c'.artifact_eq_blockTexts fs root, ?_, ?_⟩
  · have hfiles : (c'.search fs root none).files.Sublist (c.search fs root none).files :=
      Search.sublist_files (s := c.search fs root none) h
    exact ((sublist_collected h hfiles).map _).map _
  · intro block hblock
    exact exists_keeps_of_mem_blockTexts hblock

/-- A project at `p` whose `.gitignore` ignores all but `b.go` and `dist`. -/
def unignoringProject : FileSystem where
  top := .dir [(.ofString "p", .dir [
    (.ofString ".gitignore", .file (Utf8.encode "*\n!b.go\n!dist\n") false),
    (.ofString "a.go", .file (Utf8.encode "a") false),
    (.ofString "b.go", .file (Utf8.encode "b") false),
    (.ofString "dist", .dir [
      (.ofString "b.go", .file (Utf8.encode "c") false)])])]
  distinct_top := by
    simp only [Node.Distinct, Node.AllDistinct]
    decide

theorem snapshot_of_narrows_unignoring :
    let wide : Collection := ⟨.standard, .builtin⟩
    let narrow : Collection := ⟨{ Config.standard with respectGitignore := true, maxDepth := some 3 }, .none⟩
    let root := Path.ofString "p"
    wide.config.Narrows narrow.config ∧
    (wide.snapshot unignoringProject root {}).artifact =
      Utf8.encode (Artifact.opening (wide.drawing? unignoringProject root) ++
        String.join ((wide.blockTexts unignoringProject root).map Prod.snd)) ∧
    (narrow.snapshot unignoringProject root {}).artifact =
      Utf8.encode (Artifact.opening (narrow.drawing? unignoringProject root) ++
        String.join ((narrow.blockTexts unignoringProject root).map Prod.snd)) ∧
    (narrow.blockTexts unignoringProject root).Sublist (wide.blockTexts unignoringProject root) ∧
    ∀ block ∈ narrow.blockTexts unignoringProject root, ∃ front last,
      block.1 = .ofNames (front ++ [last]) ∧ narrow.config.Keeps front := by
  intro wide narrow root
  have h : wide.config.Narrows narrow.config :=
    ⟨fun _ hname => hname, fun _ hname => hname, fun _ hname => hname, nofun, nofun⟩
  exact ⟨h, snapshot_of_narrows h unignoringProject root⟩

end SourceSnapshot.Collection
