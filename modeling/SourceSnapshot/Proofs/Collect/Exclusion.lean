import SourceSnapshot.Proofs.Collect.Likeness
import SourceSnapshot.Proofs.FileSystem.Below
import SourceSnapshot.Proofs.FileSystem.Reading

/-! What is left out never shows. Two file systems may differ in what files hold that are not collected, and
in all that stands beneath directories that are left out; as long as neither the root nor a link elsewhere
leads there, their snapshots are the same. -/
namespace SourceSnapshot

namespace Config

/-- A location beneath a directory below the root that is left out. -/
def Beneath (c : Config) (fs : FileSystem) (root : Path) (loc : Location) : Prop :=
  ∃ base node front name more entries, fs.resolve root = .ok (base, node) ∧
    node.at? (front ++ [name]) = some (.dir entries) ∧ c.isExcludedDir name.display ∧ more ≠ [] ∧
    loc = base ++ (front ++ name :: more)

/-- The location of a file below the root that is not collected. -/
def LeftOut (c : Config) (fs : FileSystem) (root : Path) (loc : Location) : Prop :=
  ∃ base node names content executable, fs.resolve root = .ok (base, node) ∧ names ≠ [] ∧
    node.at? names = some (.file content executable) ∧ c.decide (root.under names) ≠ .included ∧
    loc = base ++ names

/-- Two file systems that differ at most in what is excluded: in all that is beneath directories that are
left out, and in what files hold that are not collected. -/
structure AgreeElsewhere (c : Config) (root : Path) (fs fs' : FileSystem) : Prop
    extends FileSystem.SameProcess fs fs' where
  elsewhere : ∀ loc, ¬ c.Beneath fs root loc → ¬ c.LeftOut fs root loc →
    (fs'.top.at? loc).map Node.surface = (fs.top.at? loc).map Node.surface
  leftOut : ∀ loc, ¬ c.Beneath fs root loc → c.LeftOut fs root loc →
    ∃ content executable, fs'.top.at? loc = some (.file content executable)

/-- Nothing that is not excluded leads into what is: neither the path of the root nor a link below it is
looked up there. -/
structure Sealed (c : Config) (root : Path) (fs : FileSystem) : Prop where
  start : ∀ loc ∈ fs.lookups root, ¬ c.Beneath fs root loc
  link : ∀ base node names target, fs.resolve root = .ok (base, node) → node.at? names = some (.link target) →
    ¬ c.Beneath fs root (base ++ names) →
    ∀ loc ∈ fs.lookups (root.under names), ¬ c.Beneath fs root loc ∧ ¬ c.LeftOut fs root loc

section
variable {c : Config} {fs fs' : FileSystem} {root : Path} {base loc : Location} {node : Node}
  {above names : List Name}

/-- What is beneath a directory below the root is two names or more below the root. -/
theorem Beneath.length_le (h : c.Beneath fs root loc) (hroot : fs.resolve root = .ok (base, node)) :
    base.length + 2 ≤ loc.length := by
  obtain ⟨base', node', front, name, more, entries, hroot', -, -, hmore, rfl⟩ := h
  obtain ⟨rfl, rfl⟩ := Prod.mk.inj (Except.ok.inj (hroot.symm.trans hroot'))
  have hpos := List.length_pos_iff.2 hmore
  simp only [List.length_append, List.length_cons]
  omega

theorem not_beneath_of_keeps (hroot : fs.resolve root = .ok (base, node)) (h : c.Keeps above) (name : Name) :
    ¬ c.Beneath fs root (base ++ (above ++ [name])) := by
  rintro ⟨base', node', front, excluded, more, entries, hroot', -, hexcluded, hmore, hloc⟩
  obtain ⟨rfl, rfl⟩ := Prod.mk.inj (Except.ok.inj (hroot.symm.trans hroot'))
  have hnames : above ++ [name] = front ++ excluded :: more := List.append_cancel_left hloc
  have hmem : excluded ∈ above := by
    obtain ⟨last, rest, rfl⟩ : ∃ last rest, more = rest ++ [last] :=
      ⟨_, _, (List.dropLast_concat_getLast hmore).symm⟩
    have hfront : above = front ++ excluded :: rest := by
      rw [← List.cons_append, ← List.append_assoc] at hnames
      exact (List.append_inj' hnames rfl).1
    rw [hfront]
    exact List.mem_append_right _ List.mem_cons_self
  rw [h excluded hmem] at hexcluded
  cases hexcluded

theorem not_leftOut_of_included (hroot : fs.resolve root = .ok (base, node))
    (h : c.decide (root.under names) = .included) : ¬ c.LeftOut fs root (base ++ names) := by
  rintro ⟨base', node', names', content, executable, hroot', -, -, hdecide, hloc⟩
  obtain ⟨rfl, rfl⟩ := Prod.mk.inj (Except.ok.inj (hroot.symm.trans hroot'))
  rw [← List.append_cancel_left hloc] at hdecide
  exact hdecide h

end
end Config

namespace Config.AgreeElsewhere
variable {c : Config} {fs fs' : FileSystem} {root path : Path} {base loc : Location} {node node' : Node}

theorem agreeAt (h : c.AgreeElsewhere root fs fs') (hloc : ¬ c.Beneath fs root loc) :
    FileSystem.AgreeAt fs.top fs'.top loc := by
  by_cases hout : c.LeftOut fs root loc
  · obtain ⟨content', executable', hfile'⟩ := h.leftOut loc hloc hout
    obtain ⟨base, node, names, content, executable, hroot, -, hfile, -, rfl⟩ := hout
    rw [FileSystem.AgreeAt, hfile', FileSystem.at?_below hroot hfile]
    rfl
  · exact Node.map_kind_of_surface (h.elsewhere loc hloc hout)

theorem alikeBelow (h : c.AgreeElsewhere root fs fs') (hsealed : c.Sealed root fs) :
    FileSystem.AlikeBelow c root fs fs' := by
  apply FileSystem.AlikeBelow.of_agree h.toSameProcess
  · intro loc hloc
    exact h.agreeAt (hsealed.start loc hloc)
  · intro base node above name hroot habove
    exact h.agreeAt (not_beneath_of_keeps hroot habove name)

/-- To write to a file that is excluded under all its names is no difference elsewhere. -/
theorem of_setContent (h : ∀ there, fs.isNameOf loc there → c.Beneath fs root there ∨ c.LeftOut fs root there)
    (content : Bytes) : c.AgreeElsewhere root fs (fs.setContent loc content) where
  toSameProcess := (FileSystem.sameSystem_setContent fs loc content).toSameProcess
  elsewhere := by
    intro there hbeneath hout
    apply FileSystem.surface_at?_setContent
    exact Bool.eq_false_iff.2 fun hname => (h there hname).elim hbeneath hout
  leftOut := by
    rintro there hbeneath ⟨base, node, names, held, mode, hroot, -, hnode, -, rfl⟩
    rcases FileSystem.at?_setContent_or loc content (FileSystem.at?_below hroot hnode) with
      hsurface | ⟨old, executable, -, -, hwritten⟩
    · obtain ⟨same, hsame, hsurface⟩ := Option.map_eq_some_iff.1 hsurface
      cases same with
      | file _ _ =>
        cases hsurface
        exact ⟨_, _, hsame⟩
      | _ => cases hsurface
    · exact ⟨_, _, hwritten⟩

theorem surface_eq (h : c.AgreeElsewhere root fs fs') (hat : fs.top.at? loc = some node)
    (hat' : fs'.top.at? loc = some node') (hbeneath : ¬ c.Beneath fs root loc)
    (hout : ¬ c.LeftOut fs root loc) : node'.surface = node.surface := by
  have hsurface := h.elsewhere loc hbeneath hout
  rw [hat, hat'] at hsurface
  exact Option.some.inj hsurface

/-- What a path leads to that is not looked up in what is excluded reads the same in both. -/
theorem read_of_lookups (h : c.AgreeElsewhere root fs fs')
    (hpath : ∀ loc ∈ fs.lookups path, ¬ c.Beneath fs root loc ∧ ¬ c.LeftOut fs root loc) :
    fs'.read path = fs.read path := by
  have hagree := FileSystem.resolve_agree h.toSameProcess fun loc hloc => h.agreeAt (hpath loc hloc).1
  rcases FileSystem.outline_cases hagree with ⟨e, here, there⟩ | ⟨loc, node, node', here, there, hkind⟩
  · rw [FileSystem.read, FileSystem.read, here, there]
  · apply FileSystem.read_of_surface here there
    cases hdir : node.isDir with
    | true => exact Node.surface_of_dir hdir hkind
    | false =>
      have hmem := FileSystem.mem_lookups here hdir
      exact h.surface_eq (FileSystem.at?_of_resolve here) (FileSystem.at?_of_resolve there) (hpath loc hmem).1
        (hpath loc hmem).2

/-- What is found below the root reads the same in both, if it is collected. -/
theorem read_under (h : c.AgreeElsewhere root fs fs') (hsealed : c.Sealed root fs)
    (hroot : fs.resolve root = .ok (base, node)) (hroot' : fs'.resolve root = .ok (base, node'))
    {above : List Name} {name : Name} {entry : Node} (habove : c.Keeps above)
    (hentry : node.at? (above ++ [name]) = some entry)
    (hincluded : c.decide (root.under (above ++ [name])) = .included) :
    fs'.read (root.under (above ++ [name])) = fs.read (root.under (above ++ [name])) := by
  have hnames : above ++ [name] ≠ [] := List.concat_ne_nil name above
  have hbeneath := not_beneath_of_keeps hroot habove name
  by_cases hlink : ∃ target, entry = .link target
  · obtain ⟨target, rfl⟩ := hlink
    exact h.read_of_lookups (hsealed.link base node _ target hroot hentry hbeneath)
  · have hlink : ∀ target, entry ≠ .link target := fun target htarget => hlink ⟨target, htarget⟩
    have hshape := (h.alikeBelow hsealed).shape base node node' hroot hroot'
    obtain ⟨entry', hentry', hkind⟩ := hshape.exists_child habove hentry
    have hlink' := Node.not_link_of_kind hkind hlink
    have hsurface := h.surface_eq (FileSystem.at?_below hroot hentry) (FileSystem.at?_below hroot' hentry')
      hbeneath (not_leftOut_of_included hroot hincluded)
    cases hsteps : (root.under (above ++ [name])).stepsWithin with
    | error e =>
      rw [FileSystem.read, FileSystem.read, FileSystem.resolve_of_stepsWithin hsteps,
        FileSystem.resolve_of_stepsWithin hsteps]
    | ok steps =>
      have hshort := (Path.stepsWithin_eq_ok_iff.1 hsteps).2
      exact FileSystem.read_of_surface (FileSystem.resolve_under hroot hnames hentry hlink hshort)
        (FileSystem.resolve_under hroot' hnames hentry' hlink' hshort) hsurface

end Config.AgreeElsewhere

/-- Without ignore files a snapshot is the same for file systems that differ only in what is excluded. -/
theorem Collection.snapshot_of_agreeElsewhere (c : Collection) {fs fs' : FileSystem} {root : Path}
    (hignore : c.config.respectGitignore = false)
    (hrenderer : c.renderer = .builtin ∨ c.renderer = .none) (hsealed : c.config.Sealed root fs)
    (h : c.config.AgreeElsewhere root fs fs') (sink : Sink) :
    c.snapshot fs' root sink = c.snapshot fs root sink := by
  have hrules (fs : FileSystem) : (c.search fs root none).rules = none := by
    rw [Search.rules, config_search, hignore]
    rfl
  apply snapshot_of_alike hrenderer (h.alikeBelow hsealed) ((hrules fs').trans (hrules fs).symm)
  intro base node node' hroot hroot'
  exact {
    config := rfl
    root := rfl
    shape := (h.alikeBelow hsealed).shape base node node' hroot hroot'
    links := by
      intro above rules name target hsearched hlink
      have hkept : c.config.Keeps above := hsearched.keeps
      apply FileSystem.isDir_agree h.toSameProcess
      intro loc hloc
      exact h.agreeAt (hsealed.link base node _ target hroot hlink
        (Config.not_beneath_of_keeps hroot hkept name) loc hloc).1
    skipped := fun names => rfl
    levels := by
      intro above rules name entries hsearched hsome
      have hrespects : c.config.respectGitignore = true := hsearched.respects hsome
      rw [hignore] at hrespects
      cases hrespects
    notices := fun notice => rfl
    files := by
      intro above rules name entry hsearched hentry hdir hkept
      apply takeEvent_congr
      intro hincluded
      exact h.read_under hsealed hroot hroot' hsearched.keeps hentry hincluded }

/-- A directory with a file that is collected, a link to it, a file that is not collected and a directory that
is left out, in which there is a file. -/
def mixedDir : Node := .dir [
  (.ofString "a.go", .file [0x78] false),
  (.ofString "l.go", .link (.ofString "a.go")),
  (.ofString "b", .file [0x79] false),
  (.ofString "dist", .dir [(.ofString "c", .file [] false)])]

/-- A project at `p` of which a part is excluded. -/
def partlyExcluded : FileSystem where
  top := .dir [(.ofString "p", mixedDir)]
  distinct_top := by
    simp only [mixedDir, Node.Distinct, Node.AllDistinct]
    decide

theorem resolve_partlyExcluded :
    partlyExcluded.resolve (.ofString "p") = .ok ([.ofString "p"], mixedDir) := rfl

private theorem eq_of_isNameOf_partlyExcluded {loc there : Location} (h : partlyExcluded.isNameOf loc there) :
    there = loc := by
  simpa [FileSystem.isNameOf, partlyExcluded] using h

private theorem not_link_of_file {content : Bytes} {executable : Bool} {names : List Name} {target : Path} :
    (Node.file content executable).at? names ≠ some (.link target) := by
  intro h
  obtain rfl := Node.eq_nil_of_at? rfl h
  cases h

/-- There is one link in the directory. -/
theorem eq_of_link_mixedDir {names : List Name} {target : Path} (h : mixedDir.at? names = some (.link target)) :
    names = [.ofString "l.go"] := by
  cases names with
  | nil => cases h
  | cons name rest =>
    simp only [mixedDir, Node.at?, Node.entries, Node.lookup_cons_eq_ite] at h
    split at h
    · exact absurd h not_link_of_file
    · split at h
      · rename_i hname
        rw [hname, Node.eq_nil_of_at? rfl h]
      · split at h
        · exact absurd h not_link_of_file
        · split at h
          · cases rest with
            | nil => cases h
            | cons other rest =>
              simp only [Option.bind_some, Node.at?, Node.entries, Node.lookup_cons_eq_ite] at h
              split at h
              · exact absurd h not_link_of_file
              · cases h
          · cases h

theorem sealed_partlyExcluded : Config.standard.Sealed (.ofString "p") partlyExcluded := by
  have hbase {base : Location} {node : Node} (h : partlyExcluded.resolve (.ofString "p") = .ok (base, node)) :
      base = [.ofString "p"] ∧ node = mixedDir :=
    Prod.mk.inj (Except.ok.inj (h.symm.trans resolve_partlyExcluded))
  have hshort {loc : Location} (hloc : loc.length ≤ 2) :
      ¬ Config.standard.Beneath partlyExcluded (.ofString "p") loc := by
    intro h
    have hlength := h.length_le resolve_partlyExcluded
    rw [List.length_singleton] at hlength
    omega
  constructor
  · intro loc hloc
    have hlookups : partlyExcluded.lookups (.ofString "p") = [[], [.ofString "p"]] := rfl
    simp only [hlookups, List.mem_cons, List.not_mem_nil, or_false] at hloc
    rcases hloc with rfl | rfl <;> exact hshort (by decide)
  · intro base node names target hroot hlink hnot loc hloc
    obtain ⟨rfl, rfl⟩ := hbase hroot
    obtain rfl := eq_of_link_mixedDir hlink
    have hlookups : partlyExcluded.lookups (Path.under (.ofString "p") [.ofString "l.go"]) =
        [[], [.ofString "p"], [.ofString "p", .ofString "l.go"],
          [.ofString "p", .ofString "a.go"]] := rfl
    simp only [hlookups, List.mem_cons, List.not_mem_nil, or_false] at hloc
    constructor
    · rcases hloc with rfl | rfl | rfl | rfl <;> exact hshort (by decide)
    · rintro ⟨base, node, names, content, executable, hroot', hne, hfile, hdecide, hat⟩
      obtain ⟨rfl, rfl⟩ := hbase hroot'
      rcases hloc with rfl | rfl | rfl | rfl <;> cases hat
      · exact hne rfl
      · cases hfile
      · exact hdecide rfl

/-- Neither what is written to the file that is not collected shows, nor what is written in the directory that
is left out. -/
theorem Collection.snapshot_of_agreeElsewhere_partlyExcluded :
    Collection.snapshot ⟨.standard, .builtin⟩ (partlyExcluded.setContent
        [.ofString "p", .ofString "b"] [0x7A, 0x7A]) (.ofString "p") {} =
      Collection.snapshot ⟨.standard, .builtin⟩ partlyExcluded (.ofString "p") {} ∧
    Collection.snapshot ⟨.standard, .none⟩ (partlyExcluded.setContent
        [.ofString "p", .ofString "dist", .ofString "c"] [0x7A])
        (.ofString "p") {} =
      Collection.snapshot ⟨.standard, .none⟩ partlyExcluded (.ofString "p") {} := by
  constructor
  · apply snapshot_of_agreeElsewhere _ rfl (.inl rfl) sealed_partlyExcluded
    refine Config.AgreeElsewhere.of_setContent (fun there hname => ?_) _
    obtain rfl := eq_of_isNameOf_partlyExcluded hname
    have hdecide : Config.standard.decide (Path.under (.ofString "p") [.ofString "b"]) ≠ .included := by decide
    exact .inr ⟨_, mixedDir, [.ofString "b"], _, _, rfl, List.cons_ne_nil _ _, rfl, hdecide, rfl⟩
  · apply snapshot_of_agreeElsewhere _ rfl (.inr rfl) sealed_partlyExcluded
    refine Config.AgreeElsewhere.of_setContent (fun there hname => ?_) _
    obtain rfl := eq_of_isNameOf_partlyExcluded hname
    exact .inl ⟨_, mixedDir, [], .ofString "dist", [.ofString "c"], _, rfl, rfl,
      rfl, List.cons_ne_nil _ _, rfl⟩

end SourceSnapshot
