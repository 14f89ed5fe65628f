import SourceSnapshot.Proofs.FileSystem.Growth

/-! Opening a file for writing. A file that was opened is found by the same path again, whatever was
written in it; only its content is lost when it is opened once more. -/
namespace SourceSnapshot.FileSystem
variable {fs emptied : FileSystem} {p : Path} {loc there : Location} {last : LastName} {opened : Opened}
  {content old : Bytes} {executable : Bool}

theorem permit_eq_ok {deed : Deed} : fs.permit deed loc = .ok () ↔ fs.refusal deed loc = none := by
  unfold permit
  cases fs.refusal deed loc <;> simp

/-- How something is opened: a file is made where nothing was, or emptied; a device stays as it is. -/
inductive Opens (fs : FileSystem) (p : Path) : Opened → FileSystem → Prop
  | made {dir : Location} {name : Name} (hland : fs.land .make p = .ok (.missing dir name))
      (hpermit : fs.refusal .makeFile (dir ++ [name]) = none) :
      Opens fs p (.file (dir ++ [name])) (fs.makeFile (dir ++ [name]))
  | emptied {loc : Location} {old : Bytes} {executable : Bool}
      (hland : fs.land .make p = .ok (.found loc (.file old executable)))
      (hpermit : fs.refusal .write loc = none) : Opens fs p (.file loc) (fs.setContent loc [])
  | device {loc : Location} {device : Device} (hland : fs.land .make p = .ok (.found loc (.device device)))
      (hpermit : fs.refusal .write loc = none) : Opens fs p (.device device) fs

/-- The rules say all of what can be opened. -/
theorem opens_iff : Opens fs p opened emptied ↔ fs.openToWrite p = .ok (opened, emptied) := by
  constructor
  · intro h
    cases h with
    | made hland hpermit | emptied hland hpermit | device hland hpermit =>
      rw [openToWrite, hland]
      simp only [bind, Except.bind, permit_eq_ok.2 hpermit]
  · intro h
    have hopens {deed : Deed} {loc : Location} {found : Opened × FileSystem}
        (h : (do fs.permit deed loc; .ok found) = (.ok (opened, emptied) : Except IoError _)) :
        fs.refusal deed loc = none ∧ found = (opened, emptied) := by
      cases hpermit : fs.permit deed loc with
      | error e =>
        rw [hpermit] at h
        cases h
      | ok _ =>
        rw [hpermit] at h
        exact ⟨permit_eq_ok.1 hpermit, Except.ok.inj h⟩
    unfold openToWrite at h
    cases hland : fs.land .make p with
    | error e =>
      rw [hland] at h
      cases h
    | ok landing =>
      rw [hland] at h
      cases landing with
      | removed => cases h
      | missing dir name =>
        obtain ⟨hpermit, heq⟩ := hopens h
        cases heq
        exact .made hland hpermit
      | found there node =>
        cases node with
        | file old executable =>
          obtain ⟨hpermit, heq⟩ := hopens h
          cases heq
          exact .emptied hland hpermit
        | device device =>
          obtain ⟨hpermit, heq⟩ := hopens h
          cases heq
          exact .device hland hpermit
        | _ => cases h

theorem resolve_of_land_make {node : Node} (h : fs.land .make p = .ok (.found loc node)) :
    fs.resolve p = .ok (loc, node) := by
  obtain ⟨steps, hsteps, hfollow⟩ := exists_steps_of_land h
  exact resolve_of_follow hsteps (follow_follow hfollow nofun nofun)

theorem resolve_setContent (h : fs.resolve p = .ok (loc, .file old executable)) (content : Bytes) :
    (fs.setContent loc content).resolve p = .ok (loc, .file content executable) := by
  obtain ⟨node, -, hresolve⟩ := (grown_setContent fs loc content).resolve h
  have hfile : (fs.setContent loc content).top.at? loc = some (.file content executable) :=
    at?_setContent (fs.isNameOf_self loc) (at?_of_resolve h)
  rw [hresolve, Option.some.inj ((at?_of_resolve hresolve).symm.trans hfile)]

theorem Opens.grown (h : Opens fs p opened emptied) : fs.Grown emptied := by
  cases h with
  | made hland =>
    obtain ⟨steps, -, hfollow⟩ := exists_steps_of_land hland
    exact grown_makeFile (at?_of_follow_missing hfollow)
  | emptied => exact grown_setContent ..
  | device => exact .refl fs

/-- A path at which a file was opened leads to it. -/
theorem Opens.resolve (h : Opens fs p (.file loc) emptied) :
    ∃ executable, emptied.resolve p = .ok (loc, .file [] executable) := by
  cases h with
  | made hland =>
    obtain ⟨steps, hsteps, hfollow⟩ := exists_steps_of_land hland
    obtain ⟨upper, hupper, hdir⟩ := exists_dir_of_follow_missing hfollow
    have hfound := (grown_makeFile (at?_of_follow_missing hfollow)).follow hfollow nofun
      (at?_makeFile hupper hdir) fun _ _ _ _ => nofun
    exact ⟨false, resolve_of_follow hsteps (follow_follow hfound nofun nofun)⟩
  | emptied hland => exact ⟨_, resolve_setContent (resolve_of_land_make hland) []⟩

/-- A path at which a device was opened leads to it. -/
theorem Opens.resolve_device {device : Device} (h : Opens fs p (.device device) emptied) :
    ∃ loc, fs.resolve p = .ok (loc, .device device) := by
  cases h with
  | device hland => exact ⟨_, resolve_of_land_make hland⟩

theorem Opens.eq_of_device {device : Device} (h : Opens fs p (.device device) emptied) : emptied = fs := by
  cases h
  rfl

/-- A file that was opened is empty. -/
theorem Opens.setContent_nil (h : Opens fs p (.file loc) emptied) : emptied.setContent loc [] = emptied := by
  obtain ⟨executable, hresolve⟩ := h.resolve
  cases h with
  | made hland =>
    refine setContent_eq_self fun there old mode hname hfile => ?_
    rw [isNameOf_makeFile, beq_iff_eq] at hname
    subst hname
    cases (at?_of_resolve hresolve).symm.trans hfile
    rfl
  | emptied => exact setContent_setContent ..

section
variable (h : Opens fs p (.file loc) emptied)
include h

/-- What was there stays as it was when the file is written, or is a name of the file and holds what was
written. -/
theorem Opens.at?_or {node : Node} (hnode : fs.top.at? there = some node) :
    ((emptied.setContent loc content).top.at? there).map Node.surface = some node.surface ∨
      ∃ old executable, node = .file old executable ∧ emptied.isNameOf loc there ∧
        (emptied.setContent loc content).top.at? there = some (.file content executable) := by
  cases h with
  | @made dir name hland =>
    obtain ⟨steps, -, hfollow⟩ := exists_steps_of_land hland
    have hnone := at?_of_follow_missing hfollow
    have hne : there ≠ dir ++ [name] := by
      rintro rfl
      cases hnone.symm.trans hnode
    have hname : (fs.makeFile (dir ++ [name])).isNameOf (dir ++ [name]) there = false := by
      rw [isNameOf_makeFile]
      exact beq_false_of_ne hne
    rw [surface_at?_setContent hname, surface_at?_makeFile hnone hne, hnode]
    exact .inl rfl
  | emptied =>
    rw [setContent_setContent]
    exact at?_setContent_or _ content hnode

/-- All that is new is a file where it is written. -/
theorem Opens.at?_new {node : Node} (hnone : fs.top.at? there = none)
    (hsome : (emptied.setContent loc content).top.at? there = some node) :
    there = loc ∧ node = .file content false := by
  cases h with
  | @made dir name hland =>
    obtain ⟨steps, -, hfollow⟩ := exists_steps_of_land hland
    by_cases hthere : there = dir ++ [name]
    · subst hthere
      obtain ⟨upper, hupper, hdir⟩ := exists_dir_of_follow_missing hfollow
      have hmade : (fs.makeFile (dir ++ [name])).top.at? (dir ++ [name]) = some (.file [] false) :=
        at?_makeFile hupper hdir
      exact ⟨rfl, Option.some.inj (hsome.symm.trans (at?_setContent (isNameOf_self ..) hmade))⟩
    · have hname : (fs.makeFile (dir ++ [name])).isNameOf (dir ++ [name]) there = false := by
        rw [isNameOf_makeFile]
        exact beq_false_of_ne hthere
      have hsame : ((setContent _ _ content).top.at? there).map Node.surface = _ := surface_at?_setContent hname
      rw [surface_at?_makeFile (at?_of_follow_missing hfollow) hthere, hnone, hsome] at hsame
      cases hsame
  | emptied =>
    have hkind := agreeAt_setContent fs loc content there
    rw [setContent_setContent] at hsome
    rw [hnone, hsome] at hkind
    cases hkind

/-- What was there has the names that it had. -/
theorem Opens.isNameOf {other : Location} {node node' : Node} (hthere : fs.top.at? there = some node)
    (hother : fs.top.at? other = some node') : emptied.isNameOf there other = fs.isNameOf there other := by
  cases h with
  | made hland =>
    obtain ⟨steps, -, hfollow⟩ := exists_steps_of_land hland
    have hnone := at?_of_follow_missing hfollow
    apply isNameOf_makeFile_of_ne
    · rintro rfl
      cases hnone.symm.trans hthere
    · rintro rfl
      cases hnone.symm.trans hother
  | emptied => rfl

end

section
variable (h : fs.resolve p = .ok (loc, .file old executable))
include h

theorem land_make_of_file : fs.land .make p = .ok (.found loc (.file old executable)) := by
  obtain ⟨steps, hsteps, hfollow⟩ := exists_steps_of_resolve h
  obtain ⟨place, left, hstart, hleft, hdescend⟩ := follow_eq_ok hfollow nofun
  refine land_of_follow hsteps ((follow_of_emerge hstart (emerge_of_last hleft .make)).trans ?_)
  exact descendThrough_make (startOf?_eq_some hstart).1 fs.isDir_top hdescend rfl

/-- The file that a path leads to is the one that is opened. -/
theorem openToWrite_of_file (hpermit : fs.refusal .write loc = none) :
    fs.openToWrite p = .ok (.file loc, fs.setContent loc []) :=
  opens_iff.1 (.emptied (land_make_of_file h) hpermit)

end

/-- What a path leads to is what was opened, if it is a file. -/
theorem Opens.eq_of_resolve (hopens : Opens fs p opened emptied)
    (h : emptied.resolve p = .ok (loc, .file old executable)) : opened = .file loc ∧ old = [] := by
  cases opened with
  | device device =>
    obtain rfl := hopens.eq_of_device
    obtain ⟨there, hdevice⟩ := hopens.resolve_device
    cases h.symm.trans hdevice
  | file there =>
    obtain ⟨mode, hfile⟩ := hopens.resolve
    cases h.symm.trans hfile
    exact ⟨rfl, rfl⟩

end SourceSnapshot.FileSystem
