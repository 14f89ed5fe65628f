import SourceSnapshot.FileSystem.Name

/-! What a file system holds: files, directories, symbolic links and a few devices and programs. The
entries of a directory have distinct names and stand in no particular order. -/
namespace SourceSnapshot

inductive Device
  /-- Takes everything. -/
  | null
  /-- Has no space. -/
  | full
  deriving DecidableEq

inductive Tool
  /-- Runs scripts. -/
  | shell
  /-- Prints its arguments. -/
  | echo
  /-- Ends with success. -/
  | succeed
  /-- Ends without success. -/
  | fail
  deriving DecidableEq

/-- How a program begins, and a byte that shows it to be no text. -/
def Tool.code : Bytes := [0x7F, 0x45, 0x4C, 0x46, 0xFF]

inductive Node
  | file (content : Bytes) (executable : Bool)
  | dir (entries : List (Name × Node))
  | link (target : Path)
  | device (device : Device)
  | tool (tool : Tool)

/-- Where a node is: the names on the way from the root. -/
abbrev Location := List Name

namespace Node

def isDir : Node → Bool
  | dir _ => true
  | _ => false

def entries : Node → List (Name × Node)
  | dir entries => entries
  | _ => []

/-- The node at a location, if there is one. Links are not followed. -/
def at? (node : Node) : Location → Option Node
  | [] => some node
  | name :: rest => (node.entries.lookup name).bind fun child => child.at? rest

def setEntry (name : Name) (child : Node) : List (Name × Node) → List (Name × Node)
  | [] => [(name, child)]
  | entry :: rest =>
    if entry.1 = name then (name, child) :: rest else entry :: setEntry name child rest

/-- The node with `child` at a location. Nothing changes if the directory for it is missing. -/
def set (child : Node) : Location → Node → Node
  | [], _ => child
  | name :: rest, dir entries =>
    match entries.lookup name with
    | some inner => dir (setEntry name (set child rest inner) entries)
    | none => if rest.isEmpty then dir (setEntry name child entries) else dir entries
  | _ :: _, node => node

/-- The node without what is at a location. -/
def remove : Location → Node → Node
  | [], node => node
  | name :: rest, dir entries =>
    if rest.isEmpty then dir (entries.filter (·.1 != name))
    else match entries.lookup name with
      | some inner => dir (setEntry name (remove rest inner) entries)
      | none => dir entries
  | _ :: _, node => node

mutual

/-- The node with this content in the files at the locations that are hit. They keep their modes. -/
def refill (hit : Location → Bool) (content : Bytes) : Node → Node
  | file old executable => file (if hit [] then content else old) executable
  | dir entries => dir (refillEach hit content entries)
  | node => node

def refillEach (hit : Location → Bool) (content : Bytes) : List (Name × Node) → List (Name × Node)
  | [] => []
  | (name, node) :: rest =>
    (name, refill (fun loc => hit (name :: loc)) content node) :: refillEach hit content rest

end

mutual

def Distinct : Node → Prop
  | dir entries => (entries.map Prod.fst).Nodup ∧ AllDistinct entries
  | _ => True

def AllDistinct : List (Name × Node) → Prop
  | [] => True
  | (_, node) :: rest => node.Distinct ∧ AllDistinct rest

end

theorem allDistinct_iff {entries : List (Name × Node)} :
    AllDistinct entries ↔ ∀ entry ∈ entries, entry.2.Distinct := by
  induction entries with
  | nil => simp [AllDistinct]
  | cons entry rest ih => obtain ⟨name, node⟩ := entry; simp [AllDistinct, ih]

theorem mem_setEntry {name : Name} {child : Node} {entries : List (Name × Node)}
    {entry : Name × Node} (h : entry ∈ setEntry name child entries) :
    entry = (name, child) ∨ entry ∈ entries := by
  induction entries with
  | nil => exact .inl (by simpa [setEntry] using h)
  | cons other rest ih =>
    unfold setEntry at h
    split at h
    · rcases List.mem_cons.1 h with h | h
      · exact .inl h
      · exact .inr (List.mem_cons_of_mem _ h)
    · rcases List.mem_cons.1 h with h | h
      · exact .inr (h ▸ List.mem_cons_self)
      · exact (ih h).imp_right (List.mem_cons_of_mem _)

theorem nodup_setEntry {name : Name} {child : Node} {entries : List (Name × Node)}
    (h : (entries.map Prod.fst).Nodup) : ((setEntry name child entries).map Prod.fst).Nodup := by
  induction entries with
  | nil => simp [setEntry]
  | cons other rest ih =>
    simp only [List.map_cons, List.nodup_cons] at h
    unfold setEntry
    split
    · rename_i he
      simp only [List.map_cons, List.nodup_cons]
      exact ⟨he ▸ h.1, h.2⟩
    · rename_i he
      simp only [List.map_cons, List.nodup_cons]
      refine ⟨fun hm => ?_, ih h.2⟩
      obtain ⟨entry, hentry, hname⟩ := List.mem_map.1 hm
      rcases mem_setEntry hentry with rfl | hin
      · exact he hname.symm
      · exact h.1 (List.mem_map.2 ⟨entry, hin, hname⟩)

theorem mem_of_lookup {name : Name} {entries : List (Name × Node)} {child : Node}
    (h : entries.lookup name = some child) : (name, child) ∈ entries := by
  induction entries with
  | nil => simp at h
  | cons other rest ih =>
    obtain ⟨otherName, node⟩ := other
    simp only [List.lookup_cons] at h
    split at h
    · rename_i he
      have hname : name = otherName := by simpa using he
      simp only [Option.some.injEq] at h
      subst h hname
      exact List.mem_cons_self
    · exact List.mem_cons_of_mem _ (ih h)

/-- An entry is found under its name. -/
theorem lookup_of_mem {entries : List (Name × Node)} (h : (entries.map Prod.fst).Nodup)
    {entry : Name × Node} (he : entry ∈ entries) : entries.lookup entry.1 = some entry.2 := by
  induction entries with
  | nil => cases he
  | cons other rest ih =>
    obtain ⟨habsent, hrest⟩ := List.nodup_cons.1 h
    obtain ⟨otherName, otherNode⟩ := other
    rcases List.mem_cons.1 he with rfl | he
    · simp
    · have hne : (entry.1 == otherName) = false :=
        beq_eq_false_iff_ne.2 fun heq => habsent (List.mem_map.2 ⟨entry, he, heq⟩)
      simpa only [List.lookup_cons, hne] using ih hrest he

theorem distinct_dir_setEntry {name : Name} {child : Node} {entries : List (Name × Node)}
    (h : (dir entries).Distinct) (hc : child.Distinct) :
    (dir (setEntry name child entries)).Distinct := by
  simp only [Distinct, allDistinct_iff] at *
  refine ⟨nodup_setEntry h.1, fun entry hentry => ?_⟩
  rcases mem_setEntry hentry with rfl | hin
  · exact hc
  · exact h.2 _ hin

theorem distinct_set {child : Node} {loc : Location} {node : Node} (h : node.Distinct)
    (hc : child.Distinct) : (set child loc node).Distinct := by
  fun_induction set child loc node with
  | case1 => exact hc
  | case2 name rest entries inner hin ih =>
    have hinner : inner.Distinct := by
      simp only [Distinct, allDistinct_iff] at h
      exact h.2 _ (mem_of_lookup hin)
    exact distinct_dir_setEntry h (ih hinner)
  | case3 => exact distinct_dir_setEntry h hc
  | case4 => exact h
  | case5 => exact h

theorem distinct_remove {loc : Location} {node : Node} (h : node.Distinct) :
    (remove loc node).Distinct := by
  fun_induction remove loc node with
  | case1 => exact h
  | case2 name rest entries =>
    simp only [Distinct, allDistinct_iff] at *
    exact ⟨(List.filter_sublist.map _).nodup h.1, fun entry hentry =>
      h.2 _ ((List.mem_filter.1 hentry).1)⟩
  | case3 name rest entries hrest inner hin ih =>
    have hinner : inner.Distinct := by
      simp only [Distinct, allDistinct_iff] at h
      exact h.2 _ (mem_of_lookup hin)
    exact distinct_dir_setEntry h (ih hinner)
  | case4 => exact h
  | case5 => exact h

theorem map_fst_refillEach (hit : Location → Bool) (content : Bytes) (entries : List (Name × Node)) :
    (refillEach hit content entries).map Prod.fst = entries.map Prod.fst := by
  induction entries with
  | nil => rfl
  | cons entry rest ih => rw [refillEach, List.map_cons, List.map_cons, ih]

mutual

theorem distinct_refill (hit : Location → Bool) (content : Bytes) :
    (node : Node) → node.Distinct → (refill hit content node).Distinct
  | dir entries, h => by
    rw [refill, Distinct, map_fst_refillEach]
    exact ⟨h.1, allDistinct_refillEach hit content entries h.2⟩
  | file .., _ | link .., _ | device .., _ | tool .., _ => by simp [refill, Distinct]

theorem allDistinct_refillEach (hit : Location → Bool) (content : Bytes) :
    (entries : List (Name × Node)) → AllDistinct entries → AllDistinct (refillEach hit content entries)
  | [], h => h
  | (name, node) :: rest, h =>
    ⟨distinct_refill (fun loc => hit (name :: loc)) content node h.1,
      allDistinct_refillEach hit content rest h.2⟩

end

theorem isDir_refill (hit : Location → Bool) (content : Bytes) (node : Node) :
    (refill hit content node).isDir = node.isDir := by
  cases node <;> rfl

theorem isDir_set {child : Node} {loc : Location} {node : Node} (h : node.isDir)
    (hc : loc = [] → child.isDir) : (set child loc node).isDir := by
  unfold set
  split
  · exact hc rfl
  · split
    · rfl
    · split <;> rfl
  · exact h

theorem isDir_remove {loc : Location} {node : Node} (h : node.isDir) : (remove loc node).isDir := by
  unfold remove
  split
  · exact h
  · split
    · rfl
    · split <;> rfl
  · exact h

end Node
end SourceSnapshot
