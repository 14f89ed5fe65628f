import SourceSnapshot.Proofs.Search.Order

/-! A search tells a visitor what it meets while it goes. What the visitor does is what it would do
with the list of all that is met, so the two readings of a search are one. A failure of the visitor
ends the search: it is called for the files up to the first that it cannot take, and for no other. -/
namespace SourceSnapshot.Search

variable {m : Type → Type} [Monad m] {look : m FileSystem} {visit : Event → m Unit} {s : Search}
  {rules : Option Ignore.Stack} {depth : Nat}

theorem visitsBelow_eq_map (dir : Path) (entries : List (Name × Node)) :
    visitsBelow look visit s rules depth dir entries = entries.map fun entry => (entry.1,
      if s.reaches depth then visitAt look visit s rules depth (dir.entry entry.1) entry.1 entry.2
      else pure ()) := by
  induction entries with
  | nil => rfl
  | cons entry rest ih => rw [visitsBelow, ih, List.map_cons]

theorem visitAt_of_not_dir {path : Path} {name : Name} {node : Node} (h : node.isDir = false) :
    visitAt look visit s rules depth path name node =
      look >>= fun fs => (findOther { s with fs } rules path (isLink node)).forM visit := by
  cases node with
  | dir entries => cases h
  | _ => rfl

variable [LawfulMonad m]

private theorem forM_flatMap {α β : Type} (xs : List α) (found : α → List β) (visit : β → m Unit) :
    (xs.flatMap found).forM visit = xs.forM fun x => (found x).forM visit := by
  induction xs with
  | nil => rfl
  | cons x xs ih =>
    simp only [List.flatMap_cons, List.forM_eq_forM, List.forM_append, List.forM_cons] at *
    rw [ih]

private theorem forM_visitsBelow {dir : Path} {entries : List (Name × Node)}
    (h : ∀ entry ∈ entries, visitAt (pure s.fs) visit s rules depth (dir.entry entry.1) entry.1 entry.2 =
      (eventsAt s rules depth (dir.entry entry.1) entry.1 entry.2).forM visit) :
    (sortByName (visitsBelow (pure s.fs) visit s rules depth dir entries)).forM Prod.snd =
      (eventsInside s rules depth dir entries).forM visit := by
  have hvisits : visitsBelow (pure s.fs) visit s rules depth dir entries = entries.map fun entry => (entry.1,
      (if s.reaches depth then eventsAt s rules depth (dir.entry entry.1) entry.1 entry.2 else []).forM
        visit) := by
    rw [visitsBelow_eq_map]
    refine List.map_congr_left fun entry hentry => ?_
    rw [h entry hentry]
    split <;> rfl
  rw [hvisits, sortByName_map, eventsInside_eq, forM_flatMap]
  simp only [List.forM_eq_forM, List.forM_map]

theorem visitAt_eq_forM (path : Path) (name : Name) (node : Node) :
    visitAt (pure s.fs) visit s rules depth path name node =
      (eventsAt s rules depth path name node).forM visit := by
  induction node using Node.nodeInduction generalizing rules depth path name with
  | other node hnode =>
    rw [eventsAt_of_not_dir hnode, visitAt_of_not_dir hnode, pure_bind]
  | dir entries ih =>
    have hself : ({ s with fs := s.fs } : Search) = s := rfl
    rw [visitAt, pure_bind, eventsAt, hself]
    dsimp only
    rw [List.forM_eq_forM, List.forM_eq_forM, List.forM_append]
    congr 1
    funext _
    cases (s.findDir rules depth path name).inside with
    | none => rfl
    | some inside => exact forM_visitsBelow fun entry hentry => ih entry hentry _ _

/-- To visit all that is met as the search goes on is to visit the list of it, in order, until the
visitor fails. -/
theorem forEachEvent_eq_forM (s : Search) : s.forEachEvent visit = s.events.forM visit := by
  have hinside : (sortByName (visitsBelow (pure s.fs) visit s s.rules 1 s.root s.rootEntries)).forM Prod.snd =
      (eventsInside s s.rules 1 s.root s.rootEntries).forM visit :=
    forM_visitsBelow fun entry _ => visitAt_eq_forM ..
  have hself : ({ s with fs := s.fs } : Search) = s := rfl
  rw [forEachEvent, forEachEventIn, pure_bind, events, hself]
  dsimp only
  rw [List.forM_eq_forM, List.forM_eq_forM, List.forM_append]
  congr 1
  funext _
  split
  · rfl
  · rw [List.forM_eq_forM] at hinside
    rw [hinside, eventsInside]
    simp only [List.forM_eq_forM, List.forM_append]

/-- To visit the files as they are found is to visit the list of them. -/
theorem forEachFile_eq_forM (s : Search) (visit : FoundFile → m Unit) :
    s.forEachFile visit = s.files.forM visit := by
  rw [forEachFile, forEachEvent_eq_forM, files]
  induction s.events with
  | nil => rfl
  | cons event events ih =>
    rw [List.forM_eq_forM, List.forM_eq_forM] at ih ⊢
    rw [List.forM_cons, ih]
    cases event with
    | file file => rfl
    | notice notice => exact pure_bind ..

section
variable {σ ε : Type}

/-- A visitor with a state of its own: what it makes of a file, which may be a failure, and its state after that. -/
abbrev Visitor (σ ε : Type) := FoundFile → σ → Except ε Unit × σ

namespace Visitor

def act (visitor : Visitor σ ε) (file : FoundFile) : ExceptT ε (StateM σ) Unit := visitor file

/-- The same visitor, with a list of the files for which it is called. -/
def noting (visitor : Visitor σ ε) : Visitor (List FoundFile × σ) ε := fun file (called, state) =>
  ((visitor file state).1, called ++ [file], (visitor file state).2)

/-- Whether a visitor gets through files, one after another, without a failure, and from one state to another. -/
inductive Passes (visitor : Visitor σ ε) : σ → List FoundFile → σ → Prop
  | nil (state : σ) : Passes visitor state [] state
  | cons {file : FoundFile} {files : List FoundFile} {before after last : σ} :
      visitor file before = (.ok (), after) → Passes visitor after files last →
      Passes visitor before (file :: files) last

variable {visitor : Visitor σ ε} {state before after last : σ} {files : List FoundFile} {file : FoundFile} {e : ε}

theorem run_forM_cons (visitor : Visitor σ ε) (file : FoundFile) (files : List FoundFile) (state : σ) :
    ((file :: files).forM visitor.act).run.run state =
      (ExceptT.bindCont (fun _ => files.forM visitor.act) (visitor file state).1).run (visitor file state).2 := rfl

theorem run_of_fails (h : visitor file before = (.error e, after)) :
    ((file :: files).forM visitor.act).run.run before = (.error e, after) := by
  rw [run_forM_cons, h]
  rfl

/-- A visitor gets through a list of files, or fails at the first file that it cannot take. -/
theorem passes_or_fails (visitor : Visitor σ ε) (state : σ) (files : List FoundFile) :
    (∃ last, visitor.Passes state files last) ∨ ∃ seen file rest before e after, files = seen ++ file :: rest ∧
      visitor.Passes state seen before ∧ visitor file before = (.error e, after) := by
  induction files generalizing state with
  | nil => exact .inl ⟨state, .nil state⟩
  | cons file files ih =>
    match hfile : visitor file state with
    | (.error e, after) => exact .inr ⟨[], file, files, state, e, after, rfl, .nil state, hfile⟩
    | (.ok (), next) =>
      rcases ih next with ⟨last, hpasses⟩ | ⟨seen, other, rest, before, e, after, rfl, hpasses, hfails⟩
      · exact .inl ⟨last, .cons hfile hpasses⟩
      · exact .inr ⟨file :: seen, other, rest, before, e, after, rfl, .cons hfile hpasses, hfails⟩

theorem Passes.run_append (h : visitor.Passes state files before) (rest : List FoundFile) :
    ((files ++ rest).forM visitor.act).run.run state = (rest.forM visitor.act).run.run before := by
  induction h with
  | nil state => rfl
  | cons hfile _ ih =>
    rw [List.cons_append, run_forM_cons, hfile]
    exact ih

theorem Passes.run (h : visitor.Passes state files last) :
    (files.forM visitor.act).run.run state = (.ok (), last) := by
  have hrun := h.run_append []
  rw [List.append_nil] at hrun
  exact hrun

theorem Passes.noting (h : visitor.Passes state files last) (called : List FoundFile) :
    visitor.noting.Passes (called, state) files (called ++ files, last) := by
  induction h generalizing called with
  | nil state =>
    rw [List.append_nil]
    exact .nil _
  | cons hfile _ ih =>
    rename_i file files before after last _
    have hnoting : visitor.noting file (called, before) = (.ok (), called ++ [file], after) := by
      rw [Visitor.noting, hfile]
    have hrest := ih (called ++ [file])
    rw [List.append_assoc, List.singleton_append] at hrest
    exact .cons hnoting hrest

end Visitor

/-- A visitor that meets the files as they are found does what it would do with the list of them, from the first to the
last, and stops at its first failure: it is called for the files up to that one and for no other, and its failure is
what comes back. -/
theorem forEachFile_stops (s : Search) (visitor : Visitor σ ε) (state : σ) :
    s.forEachFile visitor.act = s.files.forM visitor.act ∧
    ((∃ last, visitor.Passes state s.files last ∧
        (s.forEachFile visitor.act).run.run state = (.ok (), last) ∧
        (s.forEachFile visitor.noting.act).run.run ([], state) = (.ok (), s.files, last)) ∨
      ∃ seen file rest before e after, s.files = seen ++ file :: rest ∧ visitor.Passes state seen before ∧
        visitor file before = (.error e, after) ∧
        (s.forEachFile visitor.act).run.run state = (.error e, after) ∧
        (s.forEachFile visitor.noting.act).run.run ([], state) = (.error e, seen ++ [file], after)) := by
  rw [forEachFile_eq_forM, forEachFile_eq_forM]
  refine ⟨rfl, (visitor.passes_or_fails state s.files).imp ?_ ?_⟩
  · rintro ⟨last, hpasses⟩
    exact ⟨last, hpasses, hpasses.run, (hpasses.noting []).run⟩
  · rintro ⟨seen, file, rest, before, e, after, hfiles, hpasses, hfails⟩
    refine ⟨seen, file, rest, before, e, after, hfiles, hpasses, hfails, ?_, ?_⟩
    · rw [hfiles, hpasses.run_append, Visitor.run_of_fails hfails]
    · have hnoting : visitor.noting file (seen, before) = (.error e, seen ++ [file], after) := by
        rw [Visitor.noting, hfails]
      rw [hfiles, (hpasses.noting []).run_append, List.nil_append, Visitor.run_of_fails hnoting]

end

end SourceSnapshot.Search
