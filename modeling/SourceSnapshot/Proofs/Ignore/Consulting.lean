import SourceSnapshot.Proofs.Search.Likeness

/-! Which files the rules of a search are read from. The ignore files of a directory are its own two and the one
of its repository, which may take two more files to be found; a search reads them in the directories above its
root, in the root, and in those that it comes to. The user's own rules are read once, from a file that the user's
settings may name. Where none of these files changes, neither do the rules. -/
namespace SourceSnapshot

namespace Ignore
variable {fs fs' : FileSystem} {dir path : Path}

/-- The paths that are read for the ignore files of a directory. -/
def consulted (fs : FileSystem) (dir : Path) : List Path :=
  [dir.join (.ofString ".ignore"), dir.join (.ofString ".gitignore"), repositoryAt dir] ++
  (match treeDir? fs (repositoryAt dir) with
    | .ok (some treeDir) => [sharedName treeDir]
    | _ => []) ++
  match excludeFile? fs dir with
    | .ok (some file) => [file]
    | _ => []

theorem lineAt?_congr (h : fs'.read path = fs.read path) : lineAt? fs' path = lineAt? fs path := by
  rw [lineAt?, lineAt?, firstLine?, firstLine?, h]

theorem excludeFile?_congr (hfile : isFile fs' (repositoryAt dir) = isFile fs (repositoryAt dir))
    (h : ∀ path ∈ consulted fs dir, fs'.read path = fs.read path) :
    excludeFile? fs' dir = excludeFile? fs dir := by
  have htree : treeDir? fs' (repositoryAt dir) = treeDir? fs (repositoryAt dir) := by
    rw [treeDir?, treeDir?, lineAt?_congr (h _ (by simp [consulted]))]
  unfold excludeFile?
  rw [hfile, htree]
  cases htreeDir : treeDir? fs (repositoryAt dir) with
  | error problem => rfl
  | ok treeDir =>
    cases treeDir with
    | none => rfl
    | some treeDir =>
      have hshared : sharedDir? fs' treeDir = sharedDir? fs treeDir := by
        rw [sharedDir?, sharedDir?, lineAt?_congr (h _ (by simp [consulted, htreeDir]))]
      simp only [bind, Except.bind, hshared]

/-- The rules of a directory are the same as long as the files that are read for them are. -/
theorem Level.ofDir_congr (hfile : isFile fs' (repositoryAt dir) = isFile fs (repositoryAt dir))
    (h : ∀ path ∈ consulted fs dir, fs'.read path = fs.read path) :
    Level.ofDir fs' dir = Level.ofDir fs dir := by
  have hread {path : Path} (hpath : path ∈ consulted fs dir) :
      RuleFile.read? fs' path = RuleFile.read? fs path := by
    rw [RuleFile.read?, RuleFile.read?, h path hpath]
  have hexclude := excludeFile?_congr hfile h
  unfold ofDir
  rw [hexclude, hread (by simp [consulted]), hread (by simp [consulted])]
  cases hplace : excludeFile? fs dir with
  | error problem => rfl
  | ok file =>
    cases file with
    | none => rfl
    | some file =>
      simp only [Option.bind_some]
      rw [hread (by simp [consulted, hplace])]

/-- Whether there is a file depends on kinds alone. -/
theorem isFile_agree (hsame : FileSystem.SameProcess fs fs')
    (h : ∀ loc ∈ fs.lookups path, FileSystem.AgreeAt fs.top fs'.top loc) : isFile fs' path = isFile fs path := by
  unfold isFile
  rcases FileSystem.outline_cases (FileSystem.resolve_agree hsame h) with
    ⟨e, here, there⟩ | ⟨loc, node, node', here, there, hkind⟩
  · rw [here, there]
  · rw [here, there]
    cases node <;> cases node' <;> first | rfl | cases hkind

/-- The settings that are read for the name of the user's own rules: none after those that name them. -/
def settingsRead (fs : FileSystem) : List Path → List Path
  | [] => []
  | settings :: rest => settings :: if (namedIn? fs settings).isSome then [] else settingsRead fs rest

def userConsulted (fs : FileSystem) : List Path :=
  if fs.workingDir?.isNone then [] else settingsRead fs (settingsOf fs.process) ++ (userFile? fs).toList

theorem findSome?_namedIn?_congr (hprocess : fs'.process = fs.process) {settings : List Path}
    (h : ∀ path ∈ settingsRead fs settings, fs'.read path = fs.read path) :
    settings.findSome? (namedIn? fs') = settings.findSome? (namedIn? fs) := by
  induction settings with
  | nil => rfl
  | cons path rest ih =>
    have hhere : namedIn? fs' path = namedIn? fs path := by
      rw [namedIn?, namedIn?, h path List.mem_cons_self, hprocess]
    rw [List.findSome?_cons, List.findSome?_cons, hhere]
    cases hnamed : namedIn? fs path with
    | some file => rfl
    | none =>
      refine ih fun path hpath => h path (List.mem_cons_of_mem _ ?_)
      rwa [hnamed]

/-- The user's own rules are the same as long as the files that are read for them are. -/
theorem UserRules.read?_congr (hsame : FileSystem.SameProcess fs fs')
    (hfile : ∀ path, isFile fs' path = isFile fs path)
    (h : ∀ path ∈ userConsulted fs, fs'.read path = fs.read path) : read? fs' = read? fs := by
  have hworking : fs'.workingDir? = fs.workingDir? := by
    rw [FileSystem.workingDir?, FileSystem.workingDir?, hsame.cwd, hsame.process]
  cases hcwd : fs.workingDir? with
  | none =>
    rw [read?, read?, hworking, hcwd]
    rfl
  | some cwd =>
    have hconsulted : userConsulted fs = settingsRead fs (settingsOf fs.process) ++ (userFile? fs).toList := by
      rw [userConsulted, hcwd]
      rfl
    rw [hconsulted] at h
    have hplace : userFile? fs' = userFile? fs := by
      rw [userFile?, userFile?, hsame.process, findSome?_namedIn?_congr hsame.process fun path hpath =>
        h path (List.mem_append_left _ hpath)]
    rw [read?, read?, hworking, hcwd, hplace]
    cases huser : userFile? fs with
    | none => rfl
    | some path =>
      have hread : RuleFile.read? fs' path = RuleFile.read? fs path := by
        have hmem : path ∈ (userFile? fs).toList := by
          rw [huser]
          exact List.mem_singleton_self path
        rw [RuleFile.read?, RuleFile.read?, h path (List.mem_append_right _ hmem)]
      rw [Option.bind_eq_bind, Option.bind_eq_bind, Option.bind_some, Option.bind_some, hfile, hread]
      rfl

end Ignore

namespace Search
variable {s s' : Search} {dir path : Path}

/-- The directories whose ignore files a search reads, if it obeys any. -/
inductive ReadsIn (s : Search) : Path → Prop
  | root : ReadsIn s s.root
  | above {dir : Path} (h : dir ∈ Ignore.pathsAbove ((s.fs.canonical? s.root).getD [])) : ReadsIn s dir
  | inside {loc : Location} {node : Node} {above : List Name} {rules : Option Ignore.Stack} {name : Name}
      {entries : List (Name × Node)} (hroot : s.fs.resolve s.root = .ok (loc, node))
      (h : s.Searched node above rules) (hdir : node.at? (above ++ [name]) = some (.dir entries)) :
      ReadsIn s (s.root.under (above ++ [name]))

/-- Whether a path is one that a search reads for its rules. -/
def Consults (s : Search) (path : Path) : Prop :=
  s.config.respectGitignore ∧
    ((∃ dir, s.ReadsIn dir ∧ path ∈ Ignore.consulted s.fs dir) ∨ path ∈ Ignore.userConsulted s.fs)

/-- The rules in force at a root are the same as long as it leads to the same location and the files that are
read for them are the same. -/
theorem rules_congr (hconfig : s'.config = s.config) (hroot : s'.root = s.root)
    (hcanonical : s'.fs.canonical? s.root = s.fs.canonical? s.root)
    (huser : s.config.respectGitignore → Ignore.UserRules.read? s'.fs = Ignore.UserRules.read? s.fs)
    (h : s.config.respectGitignore → ∀ dir, s.ReadsIn dir →
      Ignore.Level.ofDir s'.fs dir = Ignore.Level.ofDir s.fs dir) : s'.rules = s.rules := by
  unfold rules
  rw [hconfig, hroot]
  split
  · rename_i hrespects
    have habove : (Ignore.pathsAbove ((s.fs.canonical? s.root).getD [])).map (Ignore.Level.ofDir s'.fs) =
        (Ignore.pathsAbove ((s.fs.canonical? s.root).getD [])).map (Ignore.Level.ofDir s.fs) :=
      List.map_congr_left fun dir hdir => h hrespects dir (.above hdir)
    unfold Ignore.Stack.atRoot
    rw [hcanonical, h hrespects s.root .root, huser hrespects]
    dsimp only
    rw [habove]
  · rfl

end Search
end SourceSnapshot
