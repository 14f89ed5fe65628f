import SourceSnapshot.Proofs.FileSystem.Making

/-! What the making of directories leaves as it was. Nothing is taken away and no file is touched, whether all
directories can be made or not; all that is new is directories, and to each leads one of the paths that were
to be made. -/
namespace SourceSnapshot.FileSystem
variable {fs made later : FileSystem} {p : Path} {ways more : List Path}

/-- The file system with directories made on some ways, or on none of them. -/
structure Makes (ways : List Path) (fs made : FileSystem) : Prop extends SameSystem fs made where
  links : made.links = fs.links
  kept : ∀ loc node, fs.top.at? loc = some node →
    (made.top.at? loc).map Node.surface = some node.surface
  added : ∀ loc node, fs.top.at? loc = none → made.top.at? loc = some node →
    node.isDir ∧ ∃ way ∈ ways, made.resolve way = .ok (loc, node)

namespace Makes

theorem refl (ways : List Path) (fs : FileSystem) : Makes ways fs fs where
  toSameSystem := .refl fs
  links := rfl
  kept loc node h := by rw [h, Option.map_some]
  added loc node hnone hsome := by
    rw [hnone] at hsome
    cases hsome

theorem mono (h : Makes ways fs made) (hsubset : ways ⊆ more) : Makes more fs made where
  toSameSystem := h.toSameSystem
  links := h.links
  kept := h.kept
  added loc node hnone hsome := by
    obtain ⟨hdir, way, hway, hresolve⟩ := h.added loc node hnone hsome
    exact ⟨hdir, way, hsubset hway, hresolve⟩

theorem grown (h : Makes ways fs made) : fs.Grown made where
  toSameSystem := h.toSameSystem
  top loc node hnode := by
    obtain ⟨node', hnode', hsurface⟩ := Option.map_eq_some_iff.1 (h.kept loc node hnode)
    rw [hnode', Option.map_some, ← Node.kind_surface, hsurface, Node.kind_surface]

/-- What was made on the way is there still when more is made. -/
theorem trans (h : Makes ways fs made) (h' : Makes ways made later) : Makes ways fs later where
  toSameSystem := h.toSameSystem.trans h'.toSameSystem
  links := h'.links.trans h.links
  kept loc node hnode := by
    obtain ⟨between, hbetween, hsurface⟩ := Option.map_eq_some_iff.1 (h.kept loc node hnode)
    rw [h'.kept loc between hbetween, hsurface]
  added loc node hnone hsome := by
    cases hbetween : made.top.at? loc with
    | none => exact h'.added loc node hbetween hsome
    | some between =>
      obtain ⟨hdir, way, hway, hresolve⟩ := h.added loc between hnone hbetween
      obtain ⟨found, hkind, hfound⟩ := h'.grown.resolve hresolve
      obtain rfl := Option.some.inj (hsome.symm.trans (at?_of_resolve hfound))
      exact ⟨by rw [Node.isDir_eq_of_kind hkind, hdir], way, hway, hfound⟩

/-- Files are neither made nor changed. -/
theorem file_iff (h : Makes ways fs made) {loc : Location} {content : Bytes} {executable : Bool} :
    made.top.at? loc = some (.file content executable) ↔ fs.top.at? loc = some (.file content executable) := by
  constructor
  · intro hmade
    cases hnode : fs.top.at? loc with
    | none => cases (h.added loc _ hnode hmade).1
    | some node =>
      have hsurface := h.kept loc node hnode
      rw [hmade] at hsurface
      cases node <;> cases hsurface
      rfl
  · intro hfile
    obtain ⟨node, hnode, hsurface⟩ := Option.map_eq_some_iff.1 (h.kept loc _ hfile)
    rw [hnode]
    cases node <;> cases hsurface
    rfl

end Makes

/-- To make a directory adds it alone. -/
theorem makes_of_makeDir (h : fs.makeDir p = .ok made) : Makes [p] fs made := by
  have hgrown := grown_of_makeDir h
  obtain ⟨upper, name, hland, hnone, rfl, hat⟩ := makeDir_eq_ok h
  have hother {there : Location} (hthere : there ≠ upper ++ [name]) :
      ((fs.setAt (upper ++ [name]) (.dir []) distinct_emptyDir).top.at? there).map Node.surface =
        (fs.top.at? there).map Node.surface := by
    refine surface_at?_setAt_of_ne distinct_emptyDir rfl (fun old hold => ?_) hthere
    rw [hnone] at hold
    cases hold
  refine ⟨hgrown.toSameSystem, links_setAt distinct_emptyDir, ?_, ?_⟩
  · intro loc node hnode
    have hne : loc ≠ upper ++ [name] := by
      rintro rfl
      rw [hnone] at hnode
      cases hnode
    rw [hother hne, hnode, Option.map_some]
  · intro loc node hnew hsome
    have hloc : loc = upper ++ [name] := by
      refine Decidable.byContradiction fun hne => ?_
      have hsame := hother hne
      rw [hsome, hnew] at hsame
      cases hsame
    subst hloc
    obtain rfl := Option.some.inj (hsome.symm.trans hat)
    exact ⟨rfl, p, List.mem_singleton_self p, resolve_of_landNew hland hgrown hsome⟩

/-- A climb makes at most one of the directories it climbs to, and lets the others wait. -/
theorem makes_of_climb {waiting waiting' above : List Path} (h : fs.climb waiting above = .ok (waiting', made)) :
    Makes above fs made ∧ waiting' ⊆ waiting ++ above := by
  induction above generalizing waiting with
  | nil =>
    obtain ⟨rfl, rfl⟩ := Prod.mk.inj (Except.ok.inj h)
    exact ⟨.refl [] fs, List.subset_append_left ..⟩
  | cons p above ih =>
    rw [climb] at h
    split at h
    · rename_i hmake
      obtain ⟨rfl, rfl⟩ := Prod.mk.inj (Except.ok.inj h)
      exact ⟨(makes_of_makeDir hmake).mono (by simp), List.subset_append_left ..⟩
    · split at h
      · obtain ⟨hmakes, hwaiting⟩ := ih h
        refine ⟨hmakes.mono (List.subset_cons_self ..), List.Subset.trans hwaiting ?_⟩
        exact List.perm_middle.symm.subset
      · split at h
        · obtain ⟨rfl, rfl⟩ := Prod.mk.inj (Except.ok.inj h)
          exact ⟨.refl _ fs, List.subset_append_left ..⟩
        · cases h

theorem makes_makeEach (fs : FileSystem) (ways : List Path) : Makes ways fs (fs.makeEach ways).2 := by
  induction ways generalizing fs with
  | nil => exact .refl [] fs
  | cons p rest ih =>
    have hrest (fs : FileSystem) : Makes (p :: rest) fs (fs.makeEach rest).2 :=
      (ih fs).mono (List.subset_cons_self ..)
    rw [makeEach]
    split
    · rename_i hmake
      exact ((makes_of_makeDir hmake).mono (by simp)).trans (hrest _)
    · split
      · exact hrest fs
      · exact .refl _ fs

/-- To make a directory with all that are missing above it, or to fail in this, adds only directories to
which the path or one above it leads. -/
theorem makes_makeDirs (fs : FileSystem) (p : Path) : Makes p.ancestors fs (fs.makeDirs p).2 := by
  have hmakeable : (p.ancestors.takeWhile fun a => !a.components.isEmpty && a.parent?.isSome) ⊆ p.ancestors :=
    (List.takeWhile_sublist _).subset
  unfold makeDirs
  dsimp only
  split
  · exact .refl _ fs
  · rename_i waiting between hclimb
    obtain ⟨hmakes, hwaiting⟩ := makes_of_climb hclimb
    exact (hmakes.mono hmakeable).trans ((makes_makeEach between waiting).mono (List.Subset.trans hwaiting hmakeable))

end SourceSnapshot.FileSystem
