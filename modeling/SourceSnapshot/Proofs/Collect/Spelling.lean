import SourceSnapshot.Proofs.Collect.Account
import SourceSnapshot.Proofs.Config.Decision
import SourceSnapshot.Proofs.Search.Restriction
import SourceSnapshot.Proofs.Search.Spelling

/-! Snapshots from two paths of one directory. A file is decided on by its last name and read through its path,
and its block is headed by its names below the directory; so without a drawing nothing in the artifact or the
account tells by which path the directory was given. -/
namespace SourceSnapshot

namespace Collection
open Search
variable {c : Collection} {config : Config} {fs : FileSystem} {root root' : Path} {loc : Location} {node : Node}

/-- The block of a file, if it is collected. -/
def block? (c : Collection) (fs : FileSystem) (file : FoundFile) : Option (Path × Outcome) :=
  if c.config.decide file.path = .included then some (file.relative, outcomeOf fs file.path) else none

theorem blocks_eq_filterMap (files : List FoundFile) : c.blocks fs files = files.filterMap (c.block? fs) := by
  induction files with
  | nil => rfl
  | cons file files ih =>
    rw [blocks_cons, ih, List.filterMap_cons, block?]
    by_cases hincluded : c.config.decide file.path = .included
    · simp [hincluded, blocks, collected]
    · simp [hincluded, blocks, collected]

section
variable {file file' : FoundFile} (hdecide : c.config.decide file'.path = c.config.decide file.path)
  (houtcome : outcomeOf fs file'.path = outcomeOf fs file.path)
include hdecide houtcome

theorem block?_congr (hrelative : file'.relative = file.relative) : c.block? fs file' = c.block? fs file := by
  rw [block?, block?, hdecide, houtcome, hrelative]

theorem fate_congr : c.fate fs file' = c.fate fs file := by
  rw [fate, fate, hdecide, houtcome]

end

/-- A drawing, blocks and fates settle a snapshot, whatever sink it is written to. -/
theorem snapshot_congr (hdrawing : c.drawing? fs root' = c.drawing? fs root)
    (hblocks : c.blocks fs (c.search fs root' none).files = c.blocks fs (c.search fs root none).files)
    (hfates : (c.search fs root' none).files.map (c.fate fs) = (c.search fs root none).files.map (c.fate fs))
    (sink : Sink) : (c.snapshot fs root' sink).artifact = (c.snapshot fs root sink).artifact ∧
      (c.snapshot fs root' sink).result = (c.snapshot fs root sink).result := by
  have htext : c.artifactText fs root' none = c.artifactText fs root none := by
    simp only [artifactText, hdrawing, hblocks]
  have hlines : c.lineTotal fs root' none = c.lineTotal fs root none := by simp only [lineTotal, hblocks]
  have hcounted (s : Summary) : c.counted fs root' none s = c.counted fs root none s := by
    simp only [counted, hdrawing, hfates]
  by_cases hfits : sink.Fits (Utf8.encode (c.artifactText fs root none)).length
  · have hfits' : sink.Fits (Utf8.encode (c.artifactText fs root' none)).length := by rwa [htext]
    cases hclose : sink.closeFailure with
    | none =>
      obtain ⟨hresult, hartifact⟩ := snapshot_of_fits hfits hclose
      obtain ⟨hresult', hartifact'⟩ := snapshot_of_fits hfits' hclose
      rw [hartifact, hartifact', hresult, hresult', htext, hlines, hcounted]
      exact ⟨rfl, rfl⟩
    | some e =>
      obtain ⟨hresult, hartifact⟩ := snapshot_of_closeFailure hfits hclose
      obtain ⟨hresult', hartifact'⟩ := snapshot_of_closeFailure hfits' hclose
      rw [hartifact, hartifact', hresult, hresult', htext]
      exact ⟨rfl, rfl⟩
  · obtain ⟨room, hroom, hlt⟩ : ∃ room, sink.room = some room ∧
        room < (Utf8.encode (c.artifactText fs root none)).length := by
      simp only [Sink.Fits, not_forall, Nat.not_le] at hfits
      obtain ⟨room, hroom, hlt⟩ := hfits
      exact ⟨room, hroom, hlt⟩
    have hlt' : room < (Utf8.encode (c.artifactText fs root' none)).length := by rwa [htext]
    obtain ⟨hresult, hartifact⟩ := snapshot_of_room_lt hroom hlt
    obtain ⟨hresult', hartifact'⟩ := snapshot_of_room_lt hroom hlt'
    rw [hartifact, hartifact', hresult, hresult', htext]
    exact ⟨rfl, rfl⟩

section
variable (h : fs.Respelled root root' loc node)
  (hrefused : ∀ names, Finds (c.search fs root none) root 0 node names ∨
      Finds (c.search fs root none) root' 0 node names →
    fs.RefusedAlike (root.under names) (root'.under names))
include h hrefused

/-- A file that is found is decided on alike behind both paths, and reading it comes to the same. -/
theorem decide_and_outcome_respelled {names : List Name} (hfinds : Finds (c.search fs root none) root 0 node names) :
    c.config.decide (root'.under names) = c.config.decide (root.under names) ∧
      outcomeOf fs (root'.under names) = outcomeOf fs (root.under names) := by
  have hresolve : fs.resolve (root'.under names) = fs.resolve (root.under names) :=
    FileSystem.resolve_of_land_eq (land_under_of_finds (s := c.search fs root none) h hrefused (.inl hfinds))
  constructor
  · apply Config.decide_congr
    rw [Path.fileName?_under (FileSystem.bytes_ne_nil_of_resolve h.resolves) hfinds.named,
      Path.fileName?_under (FileSystem.bytes_ne_nil_of_resolve h.resolves') hfinds.named]
  · rw [outcomeOf, outcomeOf, FileSystem.read, FileSystem.read, hresolve]

variable (hname : root.components ≠ [.name [0x2D]]) (hname' : root'.components ≠ [.name [0x2D]])
  (hignore : c.config.respectGitignore = false)
include hname hname' hignore

theorem blocks_respelled :
    c.blocks fs (c.search fs root' none).files = c.blocks fs (c.search fs root none).files := by
  have hmap : (c.search fs root' none).files.map (c.block? fs) = (c.search fs root none).files.map (c.block? fs) := by
    apply map_files_respelled (s := c.search fs root none) h hrefused rfl hname hname' hignore
    intro names hfinds
    obtain ⟨hdecide, houtcome⟩ := decide_and_outcome_respelled h hrefused hfinds
    exact block?_congr hdecide houtcome rfl
  have hsplit (files : List FoundFile) : c.blocks fs files = (files.map (c.block? fs)).filterMap id := by
    rw [blocks_eq_filterMap, List.filterMap_map, Function.id_comp]
  rw [hsplit, hsplit, hmap]

theorem map_fate_respelled :
    (c.search fs root' none).files.map (c.fate fs) = (c.search fs root none).files.map (c.fate fs) := by
  apply map_files_respelled (s := c.search fs root none) h hrefused rfl hname hname' hignore
  intro names hfinds
  obtain ⟨hdecide, houtcome⟩ := decide_and_outcome_respelled h hrefused hfinds
  exact fate_congr hdecide houtcome

end

/-- From two paths of a directory that can be read behind both, a search that obeys no ignore files makes the
same snapshot, if none of its files is refused behind one path only; and each file of such a search is called
by its names from the root down, which are what is left of its path when the root is taken off. -/
theorem snapshot_of_respelled (h : fs.Respelled root root' loc node)
    (hname : root.components ≠ [.name [0x2D]]) (hname' : root'.components ≠ [.name [0x2D]])
    (hignore : config.respectGitignore = false)
    (hrefused : ∀ names, Finds { fs, config, root } root 0 node names ∨
        Finds { fs, config, root := root' } root' 0 node names →
      fs.RefusedAlike (root.under names) (root'.under names)) (sink : Sink) :
    (snapshot ⟨config, .none⟩ fs root' sink).artifact = (snapshot ⟨config, .none⟩ fs root sink).artifact ∧
    (snapshot ⟨config, .none⟩ fs root' sink).result = (snapshot ⟨config, .none⟩ fs root sink).result ∧
    ∀ skip, ∀ file ∈ Search.files { fs, config, root, skip }, ∃ names, names ≠ [] ∧
      (∃ entry, node.at? names = some entry ∧ entry.isDir = false) ∧
      file = ⟨root.under names, .ofNames names⟩ ∧
      file.path.stripPrefix? root = some file.relative ∧ file.relative.isAbsolute = false ∧
      file.relative.components = names.map fun name => .name name.bytes := by
  have hrefused' (names : List Name) (hfinds : Finds (search ⟨config, .none⟩ fs root none) root 0 node names ∨
      Finds (search ⟨config, .none⟩ fs root none) root' 0 node names) :
      fs.RefusedAlike (root.under names) (root'.under names) :=
    hrefused names (hfinds.imp_right finds_root_iff.2)
  have hdrawing : drawing? ⟨config, .none⟩ fs root' = drawing? ⟨config, .none⟩ fs root := rfl
  obtain ⟨hartifact, hresult⟩ := snapshot_congr hdrawing
    (blocks_respelled h hrefused' hname hname' hignore) (map_fate_respelled h hrefused' hname hname' hignore) sink
  refine ⟨hartifact, hresult, ?_⟩
  intro skip file hfile
  obtain ⟨names, hfinds, rfl⟩ :=
    (mem_files (s := { fs, config, root, skip }) h.resolves hname hignore h.listable).1 hfile
  obtain ⟨entry, hentry, hdir, -⟩ := hfinds.present
  have hne := FileSystem.bytes_ne_nil_of_resolve h.resolves
  exact ⟨names, hfinds.named, ⟨entry, hentry, hdir⟩, rfl, Path.stripPrefix?_under hne hfinds.named,
    Path.isAbsolute_ofNames names, Path.components_ofNames hfinds.named⟩

section
variable {name : Name} {entry : Node} (hroot : fs.resolve root = .ok (loc, .dir [(name, entry)]))
  (hentry : entry.isDir = false)
include hroot hentry

theorem listable_of_single : fs.Listable root (.dir [(name, entry)]) := by
  obtain ⟨steps, hsteps, hfollow⟩ := FileSystem.exists_steps_of_resolve hroot
  have hlist : fs.list root = .ok [(name, entry)] := by
    rw [FileSystem.list, FileSystem.land_of_follow hsteps hfollow]
  apply FileSystem.listable_dir hlist
  intro other hother
  rw [List.mem_singleton] at hother
  rw [hother]
  exact FileSystem.listable_of_not_dir hentry

/-- From a directory with one entry, which leads to no directory, that entry is found. -/
theorem files_of_single (hname : root.components ≠ [.name [0x2D]])
    (hlink : fs.isDir (root.entry name) = false) :
    (search ⟨.standard, .none⟩ fs root none).files = [⟨root.entry name, .ofNames [name]⟩] := by
  exact files_singleton (s := search ⟨.standard, .none⟩ fs root none) hroot hentry hname rfl rfl hlink rfl

end

/-- Only an entry of a single name is found below a directory with one entry, which is no directory. -/
theorem eq_of_finds_single {s : Search} {dir : Path} {depth : Nat} {name : Name} {entry : Node} {names : List Name}
    (hentry : entry.isDir = false) (h : s.Finds dir depth (.dir [(name, entry)]) names) : names = [name] := by
  obtain ⟨found, hfound, -⟩ := h.present
  obtain ⟨other, hother, rfl, -⟩ := Node.exists_entry_of_at? (fun other hother => by
    rwa [List.mem_singleton.1 hother]) h.named hfound
  rw [List.mem_singleton.1 hother]

/-- A directory `p` with a link `k.go` to a file outside of it, a directory `-` with a file `b.go`, and a link `l`
to the directory that they stand in. -/
def pitfalls : FileSystem where
  top := .dir [
    (.ofString "p", .dir [(.ofString "k.go", .link (.ofString "../a"))]),
    (.ofString "-", .dir [(.ofString "b.go", .file [0x79] false)]),
    (.ofString "a", .file [0x78] false), (.ofString "l", .link (.ofString "."))]
  distinct_top := by
    simp only [Node.Distinct, Node.AllDistinct]
    decide

theorem snapshot_of_respelled_linked : ∃ node,
    pitfalls.Respelled (.ofString "p") (.ofString "l/./p/") [.ofString "p"] node ∧
    (snapshot ⟨.standard, .none⟩ pitfalls (.ofString "l/./p/") {}).artifact =
      (snapshot ⟨.standard, .none⟩ pitfalls (.ofString "p") {}).artifact ∧
    (snapshot ⟨.standard, .none⟩ pitfalls (.ofString "l/./p/") {}).result =
      (snapshot ⟨.standard, .none⟩ pitfalls (.ofString "p") {}).result ∧
    ∀ skip, ∀ file ∈ Search.files { fs := pitfalls, config := .standard, root := .ofString "p", skip }, ∃ names,
      names ≠ [] ∧ (∃ entry, node.at? names = some entry ∧ entry.isDir = false) ∧
      file = ⟨Path.under (.ofString "p") names, .ofNames names⟩ ∧
      file.path.stripPrefix? (.ofString "p") = some file.relative ∧ file.relative.isAbsolute = false ∧
      file.relative.components = names.map fun name => .name name.bytes := by
  have h : pitfalls.Respelled (.ofString "p") (.ofString "l/./p/") [.ofString "p"]
      (.dir [(.ofString "k.go", .link (.ofString "../a"))]) :=
    ⟨rfl, rfl, listable_of_single rfl rfl, listable_of_single rfl rfl⟩
  refine ⟨_, h, snapshot_of_respelled h (by decide) (by decide) rfl ?_ {}⟩
  intro names hfinds
  obtain rfl : names = [.ofString "k.go"] :=
    hfinds.elim (eq_of_finds_single rfl) (eq_of_finds_single rfl)
  have hresolve : pitfalls.resolve (Path.under (.ofString "p") [.ofString "k.go"]) =
      .ok ([.ofString "a"], .file [0x78] false) := rfl
  have hresolve' : pitfalls.resolve (Path.under (.ofString "l/./p/") [.ofString "k.go"]) =
      .ok ([.ofString "a"], .file [0x78] false) := rfl
  exact ⟨by rw [hresolve, hresolve'], by rw [hresolve, hresolve']⟩

/-- What cannot be read is not included. -/
theorem fate_ne_included {file : FoundFile} {e : IoError} (h : fs.read file.path = .error e) :
    c.fate fs file ≠ .included := by
  have houtcome : outcomeOf fs file.path = .unreadable e.message := by rw [outcomeOf, h, Outcome.ofRead]
  rw [fate, houtcome]
  intro hfate
  split at hfate
  · cases hfate
  · cases hfate
  · cases hfate

/-- Snapshots differ if they include different numbers of files. -/
theorem result_ne_of_count (h : ((c.search fs root' none).files.map (c.fate fs)).count .included ≠
      ((c.search fs root none).files.map (c.fate fs)).count .included) :
    (c.snapshot fs root' {}).result ≠ (c.snapshot fs root {}).result := by
  have hfits (length : Nat) : Sink.Fits {} length := by
    intro room hroom
    cases hroom
  rw [(snapshot_of_fits (hfits _) rfl).1, (snapshot_of_fits (hfits _) rfl).1]
  intro hresult
  have hincluded := congrArg Summary.included (Except.ok.inj hresult)
  simp only [counted, Summary.foldl_count, Nat.zero_add] at hincluded
  exact h hincluded

/-- Two paths of one directory, which can be read behind both and of which neither is `-`, whose snapshots
differ. -/
structure Parted (fs : FileSystem) (root root' : Path) : Prop where
  respelled : ∃ loc node, fs.Respelled root root' loc node
  root_ne : root ≠ .ofString "-"
  root'_ne : root' ≠ .ofString "-"
  result_ne : (snapshot ⟨.standard, .none⟩ fs root' {}).result ≠ (snapshot ⟨.standard, .none⟩ fs root {}).result

private theorem count_pitfalls : ((search ⟨.standard, .none⟩ pitfalls (.ofString "p") none).files.map
    (fate ⟨.standard, .none⟩ pitfalls)).count .included = 1 := by
  rw [files_of_single (rfl : pitfalls.resolve _ = _) rfl (by decide) rfl]
  decide

private theorem parted_dash : Parted pitfalls (.ofString "-/") (.ofString "./-") where
  respelled := ⟨_, _, rfl, rfl, listable_of_single rfl rfl, listable_of_single rfl rfl⟩
  root_ne := by decide
  root'_ne := by decide
  result_ne := by
    have hnone : (search ⟨.standard, .none⟩ pitfalls (.ofString "-/") none).files = [] := rfl
    apply result_ne_of_count
    rw [hnone, files_of_single (rfl : pitfalls.resolve _ = _) rfl (by decide) rfl]
    decide

/-- Behind a path as long as any all paths are too long. -/
theorem isTooLong_under {names : List Name} (hlength : root.bytes.length = maxPathLength) (hnames : names ≠ []) :
    (root.under names).isTooLong := by
  have hne : root.bytes ≠ [] := List.ne_nil_of_length_eq_add_one hlength
  have hmore : (Path.ofNames names).bytes ≠ [] := by
    intro hnil
    have hparts := Path.names_ofNames names
    rw [show Path.ofNames names = ⟨[]⟩ from congrArg Path.mk hnil] at hparts
    exact hnames (List.map_eq_nil_iff.1 hparts.symm)
  have hpos := List.length_pos_iff.2 hmore
  rw [Path.isTooLong, Path.bytes_under hne hnames, List.length_append, List.length_append, hlength]
  exact decide_eq_true (by omega)

private theorem parted_slashes : Parted pitfalls (.ofString "p") ⟨[0x70] ++ List.replicate 4094 slash⟩ := by
  have hlength : ([0x70] ++ List.replicate 4094 slash).length = maxPathLength := by
    rw [List.length_append, List.length_replicate]
    rfl
  have hresolve : pitfalls.resolve ⟨[0x70] ++ List.replicate 4094 slash⟩ = .ok ([.ofString "p"],
      .dir [(.ofString "k.go", .link (.ofString "../a"))]) := by
    have hshort : Path.isTooLong ⟨[0x70] ++ List.replicate 4094 slash⟩ = false := by
      simp only [Path.isTooLong, hlength]
      decide
    exact FileSystem.resolve_append_slashes (p := .ofString "p") rfl rfl hshort
  refine ⟨⟨_, _, rfl, hresolve, listable_of_single rfl rfl, listable_of_single hresolve rfl⟩, by decide, ?_, ?_⟩
  · intro h
    have hbytes : 0x70 :: List.replicate 4094 slash = [0x2D] := congrArg Path.bytes h
    exact absurd (List.cons.inj hbytes).1 (by decide)
  · apply result_ne_of_count
    have hnone : ((search ⟨.standard, .none⟩ pitfalls ⟨[0x70] ++ List.replicate 4094 slash⟩ none).files.map
        (fate ⟨.standard, .none⟩ pitfalls)).count .included = 0 := by
      apply List.count_eq_zero.2
      intro hmem
      obtain ⟨file, hfile, hfate⟩ := List.mem_map.1 hmem
      obtain ⟨front, last, rfl, -⟩ := exists_keeps_of_mem_files hfile
      have hnames : front ++ [last] ≠ [] := List.concat_ne_nil last front
      have hrefused := FileSystem.resolve_under_of_isTooLong hresolve hnames (isTooLong_under hlength hnames)
      have hread : pitfalls.read (Path.under ⟨[0x70] ++ List.replicate 4094 slash⟩ (front ++ [last])) =
          .error .nameTooLong := by
        rw [FileSystem.read, hrefused]
      exact fate_ne_included hread hfate
    rw [count_pitfalls, hnone]
    exact Nat.zero_ne_one

private theorem parted_links : Parted pitfalls (.ofString "p") ⟨(List.replicate 40 [0x6C, 0x2F]).flatten ++ [0x70]⟩ where
  respelled := ⟨_, _, rfl, rfl, listable_of_single rfl rfl, listable_of_single rfl rfl⟩
  root_ne := by decide
  root'_ne := by decide
  result_ne := by
    apply result_ne_of_count
    rw [count_pitfalls, files_of_single (rfl : pitfalls.resolve _ = _) rfl (by decide) rfl]
    decide

/-- A directory whose path is `-` with a slash is not searched, and behind another path it is; behind a path as long
as any the paths of files are too long; and behind as many links as any one more is too many. -/
theorem parted_pitfalls : Parted pitfalls (.ofString "-/") (.ofString "./-") ∧
    Parted pitfalls (.ofString "p") ⟨[0x70] ++ List.replicate 4094 slash⟩ ∧
    Parted pitfalls (.ofString "p") ⟨(List.replicate 40 [0x6C, 0x2F]).flatten ++ [0x70]⟩ :=
  ⟨parted_dash, parted_slashes, parted_links⟩

end Collection
end SourceSnapshot
