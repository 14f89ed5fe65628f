import SourceSnapshot.Proofs.CommandLine.Course
import SourceSnapshot.Proofs.CommandLine.Meaning
import SourceSnapshot.Proofs.Config.Layers
import SourceSnapshot.Proofs.Config.RoundTrip

/-! The configuration that a command line asks for. It is that of a file or the standard one, with what is said on the
command line on top. The order in which extensions and names to leave out are given does not count, and neither does
how often. -/
namespace SourceSnapshot.CommandLine

variable {fs : FileSystem} {o : Options} {met met' : List Occurrence} {base c c' : Config} {arguments other : List Bytes}

/-- A configuration is a base with what occurs on a command line on top. -/
structure Overrides (met : List Occurrence) (base c : Config) : Prop where
  includedExtensions : Settled met .ext
    (fun _ extensions => ∀ extension, extension ∈ extensions ↔
      ∃ text, (.ext, some (Utf8.encode text)) ∈ met ∧ normalizeExtension text = extension)
    base.includedExtensions c.includedExtensions
  excludedDirs : ∀ name, name ∈ c.excludedDirs ↔
    name ∈ base.excludedDirs ∨ (.excludeDir, some (Utf8.encode name)) ∈ met
  excludedFiles : ∀ name, name ∈ c.excludedFiles ↔
    name ∈ base.excludedFiles ∨ (.excludeFile, some (Utf8.encode name)) ∈ met
  structureDepth : Settled met .level (fun value n => numberValue .level 1 value = .ok n)
    base.structureDepth c.structureDepth
  maxDepth : Settled met .maxDepth (fun value n => ∃ m, numberValue .maxDepth 0 value = .ok m ∧ n = some m)
    base.maxDepth c.maxDepth
  respectGitignore : c.respectGitignore ↔ (.gitignore, none) ∈ met ∨ base.respectGitignore

/-- The configuration below what occurs on a command line: that of the file which is named there, or the standard
one. -/
def IsBase (fs : FileSystem) (met : List Occurrence) (base : Config) : Prop :=
  Settled met .config (fun file c => Config.load fs ⟨file⟩ = .ok c) .standard base

/-- The same occurs, but the arguments that add up their values occur anywhere and any number of times. -/
structure Rearranged (met met' : List Occurrence) : Prop where
  others : met.filter (·.1 ∉ added) = met'.filter (·.1 ∉ added)
  same : ∀ x : Occurrence, x.1 ∈ added → (x ∈ met ↔ x ∈ met')

theorem load_of_read {file : Path} {text : String} (h : fs.read file = .ok (Utf8.encode text))
    (hparse : Config.ofJson text = .ok c) : Config.load fs file = .ok c := by
  rw [Config.load, FileSystem.readText, h]
  dsimp only
  rw [Utf8.decode?_encode]
  dsimp only
  rw [hparse]

theorem isNormal_of_load {file : Path} (h : Config.load fs file = .ok c) : c.IsNormal := by
  rw [Config.load] at h
  split at h
  · cases h
  · split at h
    · cases h
    · cases h
      exact Config.isNormal_ofJson ‹_›

theorem IsBase.isNormal (h : IsBase fs met base) : base.IsNormal := by
  by_cases hmet : ∃ file, (.config, some file) ∈ met
  · obtain ⟨file, hfile⟩ := hmet
    exact isNormal_of_load (h.given file hfile)
  · rw [h.kept fun file hfile => hmet ⟨file, hfile⟩]
    exact Config.isNormal_standard

/-- What occurs settles the configuration. -/
theorem Overrides.unique (h : Overrides met base c) (h' : Overrides met base c') : c = c' := by
  apply Config.ext_fields
  · apply h.includedExtensions.unique _ h'.includedExtensions
    intro _ s t hs ht
    apply NameSet.ext_mem
    intro extension
    rw [hs, ht]
  · intro name
    rw [h.excludedDirs, h'.excludedDirs]
  · intro name
    rw [h.excludedFiles, h'.excludedFiles]
  · apply h.structureDepth.unique _ h'.structureDepth
    intro value m n hm hn
    exact Except.ok.inj (hm.symm.trans hn)
  · apply h.maxDepth.unique _ h'.maxDepth
    rintro value _ _ ⟨m, hm, rfl⟩ ⟨n, hn, rfl⟩
    rw [Except.ok.inj (hm.symm.trans hn)]
  · rw [Bool.eq_iff_iff, h.respectGitignore, h'.respectGitignore]

theorem Overrides.of_mem (h : Overrides met base c) (hmem : ∀ x, x ∈ met ↔ x ∈ met') : Overrides met' base c where
  includedExtensions := by
    simpa only [hmem] using h.includedExtensions.of_mem hmem
  excludedDirs name := by
    rw [h.excludedDirs, hmem]
  excludedFiles name := by
    rw [h.excludedFiles, hmem]
  structureDepth := h.structureDepth.of_mem hmem
  maxDepth := h.maxDepth.of_mem hmem
  respectGitignore := by
    rw [h.respectGitignore, hmem]

namespace Rearranged

theorem mem_iff (h : Rearranged met met') (x : Occurrence) : x ∈ met ↔ x ∈ met' := by
  by_cases hx : x.1 ∈ added
  · exact h.same x hx
  · have hkept (met : List Occurrence) : x ∈ met.filter (·.1 ∉ added) ↔ x ∈ met := by simp [hx]
    rw [← hkept met, h.others, hkept met']

/-- An argument that adds up its values may be given again. -/
theorem once_filter (met : List Occurrence) : once (met.filter (·.1 ∉ added)) = once met := by
  induction met with
  | nil => rfl
  | cons x met ih =>
    by_cases hx : x.1 ∈ added
    · have hrepeatable : x.1.isRepeatable := by
        simp only [added, List.mem_cons, List.not_mem_nil, or_false] at hx
        rcases hx with hx | hx | hx <;> rw [hx] <;> rfl
      rw [List.filter_cons_of_neg (by simpa using hx), once_cons, if_pos hrepeatable, ih]
    · rw [List.filter_cons_of_pos (by simpa using hx), once_cons, once_cons, ih]

theorem once_eq (h : Rearranged met met') : once met = once met' := by
  rw [← once_filter met, h.others, once_filter met']

/-- A rearranged command line is read to its end, too. -/
theorem exists_parse (h : Rearranged (occurrences arguments) (occurrences other)) (hlegible : isLegible other)
    (hparse : parse arguments = .ok o) : ∃ o', parse other = .ok o' := by
  obtain ⟨-, hset, honce⟩ := parse_eq_ok_iff.1 hparse
  have hvalues := exists_foldlM_set_iff.1 ⟨o, hset⟩
  obtain ⟨o', hset'⟩ : ∃ o', (occurrences other).foldlM Options.set {} = .ok o' :=
    exists_foldlM_set_iff.2 fun x hx => hvalues x ((h.mem_iff x).2 hx)
  exact ⟨o', parse_eq_ok_iff.2 ⟨hlegible, hset', h.once_eq ▸ honce⟩⟩

end Rearranged

def Options.changes (o : Options) : List Change :=
  (if o.extensions.isEmpty then [] else [.withExtensions o.extensions]) ++
    [.excludeDirs o.excludeDirs, .excludeFiles o.excludeFiles]

def Options.onTop (o : Options) (base : Config) : Config :=
  let c := o.changes.foldl Config.change base
  { c with
    structureDepth := o.level.getD c.structureDepth
    maxDepth := o.maxDepth.or c.maxDepth
    respectGitignore := o.gitignore || c.respectGitignore }

theorem configOf_eq (fs : FileSystem) (o : Options) : configOf fs o =
    (match o.config with
      | some file => Config.load fs file
      | none => .ok .standard).map o.onTop := by
  have honTop : o.onTop = fun base =>
      let c := if o.extensions.isEmpty then base else base.withExtensions o.extensions
      let c := (c.excludeDirs o.excludeDirs).excludeFiles o.excludeFiles
      { c with
        structureDepth := o.level.getD c.structureDepth
        maxDepth := o.maxDepth.or c.maxDepth
        respectGitignore := o.gitignore || c.respectGitignore } := by
    funext base
    rw [Options.onTop, Options.changes]
    cases o.extensions.isEmpty <;> rfl
  rw [configOf, honTop]
  cases o.config with
  | none => rfl
  | some file =>
    dsimp only
    cases Config.load fs file <;> rfl

section onTop
variable (o : Options) (base : Config)

theorem includedExtensions_onTop : (o.onTop base).includedExtensions =
    if o.extensions.isEmpty then base.includedExtensions else .ofList (o.extensions.map normalizeExtension) := by
  have h := (Config.layered_foldl base o.changes).includedExtensions
  refine h.trans ?_
  rw [Options.changes]
  cases o.extensions.isEmpty <;> rfl

theorem mem_excludedDirs_onTop (name : String) :
    name ∈ (o.onTop base).excludedDirs ↔ name ∈ base.excludedDirs ∨ name ∈ o.excludeDirs := by
  have hchanges (names : List String) : .excludeDirs names ∈ o.changes ↔ names = o.excludeDirs := by
    rw [Options.changes]
    split <;> simp
  have h := (Config.layered_foldl base o.changes).excludedDirs name
  simp only [hchanges, exists_eq_left] at h
  exact h

theorem mem_excludedFiles_onTop (name : String) :
    name ∈ (o.onTop base).excludedFiles ↔ name ∈ base.excludedFiles ∨ name ∈ o.excludeFiles := by
  have hchanges (names : List String) : .excludeFiles names ∈ o.changes ↔ names = o.excludeFiles := by
    rw [Options.changes]
    split <;> simp
  have h := (Config.layered_foldl base o.changes).excludedFiles name
  simp only [hchanges, exists_eq_left] at h
  exact h

theorem structureDepth_onTop : (o.onTop base).structureDepth = o.level.getD base.structureDepth :=
  congrArg o.level.getD (Config.layered_foldl base o.changes).structureDepth

theorem maxDepth_onTop : (o.onTop base).maxDepth = o.maxDepth.or base.maxDepth :=
  congrArg o.maxDepth.or (Config.layered_foldl base o.changes).maxDepth

theorem respectGitignore_onTop : (o.onTop base).respectGitignore = (o.gitignore || base.respectGitignore) :=
  congrArg (o.gitignore || ·) (Config.layered_foldl base o.changes).respectGitignore

end onTop

/-- Changes leave extensions in normal form. -/
theorem isNormal_onTop (h : base.IsNormal) (o : Options) : (o.onTop base).IsNormal := h.foldl o.changes

theorem overrides_onTop (h : parse arguments = .ok o) (base : Config) :
    Overrides (occurrences arguments) base (o.onTop base) := by
  obtain ⟨-, hset, honce⟩ := parse_eq_ok_iff.1 h
  have hadded {a : Argument} (ha : a ∈ added) (text : String) :
      text ∈ o.texts a ↔ (a, some (Utf8.encode text)) ∈ occurrences arguments := by
    rw [mem_texts_iff ha hset]
    exact or_iff_right (by cases a <;> exact List.not_mem_nil)
  have hextensions : ∀ text, text ∈ o.extensions ↔ _ := hadded (a := .ext) (by decide)
  have hdirs : ∀ name, name ∈ o.excludeDirs ↔ _ := hadded (a := .excludeDir) (by decide)
  have hfiles : ∀ name, name ∈ o.excludeFiles ↔ _ := hadded (a := .excludeFile) (by decide)
  constructor
  · rw [includedExtensions_onTop]
    constructor
    · intro value hvalue extension
      obtain ⟨text, rfl⟩ := exists_encode_of_mem (by decide) hset hvalue
      have hpresent : o.extensions.isEmpty = false :=
        List.isEmpty_eq_false_iff.2 (List.ne_nil_of_mem ((hextensions text).2 hvalue))
      rw [hpresent, if_neg Bool.false_ne_true, NameSet.mem_ofList, List.mem_map]
      simp only [hextensions]
    · intro hnone
      have hempty : o.extensions = [] :=
        List.eq_nil_iff_forall_not_mem.2 fun text htext => hnone _ ((hextensions text).1 htext)
      rw [hempty, List.isEmpty_nil, if_pos rfl]
  · intro name
    rw [mem_excludedDirs_onTop, hdirs]
  · intro name
    rw [mem_excludedFiles_onTop, hfiles]
  · rw [structureDepth_onTop]
    refine (settles_level.settled hset honce).map (·.getD base.structureDepth) ?_
    rintro value ⟨n, hn, hlevel⟩
    rw [hlevel]
    exact hn
  · rw [maxDepth_onTop]
    refine (settles_maxDepth.settled hset honce).map (·.or base.maxDepth) ?_
    rintro value ⟨n, hn, hmax⟩
    rw [hmax]
    exact ⟨n, hn, rfl⟩
  · rw [respectGitignore_onTop, Bool.or_eq_true, gitignore_iff hset]
    simp

theorem configOf_of_isBase (h : parse arguments = .ok o) (hbase : IsBase fs (occurrences arguments) base) :
    configOf fs o = .ok (o.onTop base) := by
  obtain ⟨-, hset, honce⟩ := parse_eq_ok_iff.1 h
  have hsettled := settles_config.settled hset honce
  rw [configOf_eq]
  by_cases hmet : ∃ file, (.config, some file) ∈ occurrences arguments
  · obtain ⟨file, hfile⟩ := hmet
    obtain ⟨path, hpath, hconfig⟩ := hsettled.given file hfile
    have hload : Config.load fs ⟨file⟩ = .ok base := hbase.given file hfile
    rw [pathValue] at hpath
    split at hpath
    · cases hpath
    · cases hpath
      rw [hconfig]
      dsimp only
      rw [hload]
      rfl
  · have hnone (file : Bytes) : (.config, some file) ∉ occurrences arguments := fun hfile => hmet ⟨file, hfile⟩
    rw [hsettled.kept hnone, hbase.kept hnone]
    rfl

theorem IsBase.of_mem (h : IsBase fs met base) (hmem : ∀ x, x ∈ met ↔ x ∈ met') : IsBase fs met' base :=
  Settled.of_mem h hmem

theorem begunOf_of_configOf_eq {e : Environment} {config : Config} (h : configOf fs o = .ok config) :
    begunOf fs e o = if fs.isDir (rootOf fs o) then some (collectedOf fs e o config) else none := by
  rw [begunOf, h]
  rfl

/-- Changes to a configuration are layers on it, in whatever way changes of different kinds alternate; one that is made
again changes nothing, and names to leave out only come in addition. A command line asks for the configuration of its
file, or for the standard one, with what occurs on it on top, and with that the project is collected; it keeps
extensions in normal form, and any rearrangement of the extensions and names given asks for the same. -/
theorem configuration_layered :
    (∀ (base : Config) (changes : List Change),
      Config.Layered base changes (changes.foldl Config.change base) ∧
      (∀ changes' : List Change, (∀ kind, changes.filter (·.kind = kind) = changes'.filter (·.kind = kind)) →
        changes.foldl Config.change base = changes'.foldl Config.change base) ∧
      (∀ name ∈ base.excludedDirs, name ∈ (changes.foldl Config.change base).excludedDirs) ∧
      ∀ name ∈ base.excludedFiles, name ∈ (changes.foldl Config.change base).excludedFiles) ∧
    (∀ (c : Config) (x y : Change), x.kind ≠ y.kind → (c.change x).change y = (c.change y).change x) ∧
    (∀ (c : Config) (x : Change), (c.change x).change x = c.change x) ∧
    ∀ (fs : FileSystem) (arguments : List Bytes) (o : Options) (base : Config), parse arguments = .ok o →
      IsBase fs (occurrences arguments) base →
      ∃ config, configOf fs o = .ok config ∧ Overrides (occurrences arguments) base config ∧ config.IsNormal ∧
        (∀ e terminal, Course fs e terminal o
          (if fs.isDir (rootOf fs o) then some (collectedOf fs e o config) else none) (run fs e terminal arguments)) ∧
        ∀ other, isLegible other → Rearranged (occurrences arguments) (occurrences other) →
          ∃ o', parse other = .ok o' ∧ configOf fs o' = .ok config := by
  refine ⟨?_, fun c x y h => Config.change_comm c h, Config.change_change, ?_⟩
  · intro base changes
    have hlayered := Config.layered_foldl base changes
    refine ⟨hlayered, fun changes' => Config.foldl_change_congr base, ?_, ?_⟩
    · intro name hname
      exact (hlayered.excludedDirs name).2 (.inl hname)
    · intro name hname
      exact (hlayered.excludedFiles name).2 (.inl hname)
  · intro fs arguments o base hparse hbase
    have hconfig := configOf_of_isBase hparse hbase
    have hoverrides := overrides_onTop hparse base
    refine ⟨o.onTop base, hconfig, hoverrides, isNormal_onTop hbase.isNormal o, ?_, ?_⟩
    · intro e terminal
      rw [run, hparse, ← begunOf_of_configOf_eq hconfig]
      exact course_runOptions fs e terminal o
    · intro other hlegible hrearranged
      obtain ⟨o', hparse'⟩ := hrearranged.exists_parse hlegible hparse
      have hsame := (hoverrides.of_mem hrearranged.mem_iff).unique (overrides_onTop hparse' base)
      refine ⟨o', hparse', ?_⟩
      rw [configOf_of_isBase hparse' (hbase.of_mem hrearranged.mem_iff), hsame]

/-- A file `c` of some content, with a project beside it. -/
def projectWith (content : Bytes) : FileSystem where
  top := .dir [(.ofString "c", .file content false), (.ofString "p", .dir [])]
  distinct_top := by
    simp only [Node.Distinct, Node.AllDistinct, List.map_cons, List.map_nil]
    decide

theorem read_projectWith (content : Bytes) : (projectWith content).read (.ofString "c") = .ok content := rfl

def configuredBase : Config := Config.standard.excludeDirs ["t"]

def configuredProject : FileSystem := projectWith (Utf8.encode configuredBase.toJson)

theorem load_configuredProject : Config.load configuredProject (.ofString "c") = .ok configuredBase := by
  have hnormal : configuredBase.IsNormal := Config.isNormal_standard.change (.excludeDirs ["t"])
  have hparse : Config.ofJson (configuredBase.toJson ++ "") = .ok configuredBase := hnormal.ofJson_append_toJson nofun
  rw [String.append_empty] at hparse
  exact load_of_read (read_projectWith _) hparse

def layeredArguments : List Bytes :=
  ["--config", "c", "-e", "GO", "-x", "a", "--ext=md", "-L2", "p", "-I", "d"].map Utf8.encode

def rearrangedArguments : List Bytes :=
  ["-Id", "-xa", "--config=c", "-L", "2", "-emd", "--exclude-file", "a", "p", "-e", "GO", "-e=md"].map Utf8.encode

theorem configuration_layered_rearranged : ∃ o o' config,
    parse layeredArguments = .ok o ∧ IsBase configuredProject (occurrences layeredArguments) configuredBase ∧
    configOf configuredProject o = .ok config ∧ Overrides (occurrences layeredArguments) configuredBase config ∧
    isLegible rearrangedArguments ∧ Rearranged (occurrences layeredArguments) (occurrences rearrangedArguments) ∧
    parse rearrangedArguments = .ok o' ∧ configOf configuredProject o' = .ok config := by
  have hoccurrences : occurrences layeredArguments = [(.config, some [0x63]), (.ext, some [0x47, 0x4F]),
    (.excludeFile, some [0x61]), (.ext, some [0x6D, 0x64]), (.level, some [0x32]), (.path, some [0x70]),
    (.excludeDir, some [0x64])] := rfl
  have hoccurrences' : occurrences rearrangedArguments = [(.excludeDir, some [0x64]), (.excludeFile, some [0x61]),
    (.config, some [0x63]), (.level, some [0x32]), (.ext, some [0x6D, 0x64]), (.excludeFile, some [0x61]),
    (.path, some [0x70]), (.ext, some [0x47, 0x4F]), (.ext, some [0x6D, 0x64])] := rfl
  obtain ⟨o, hparse⟩ : ∃ o, parse layeredArguments = .ok o := ⟨_, rfl⟩
  have hbase : IsBase configuredProject (occurrences layeredArguments) configuredBase := by
    rw [hoccurrences]
    constructor
    · intro file hfile
      obtain rfl : file = [0x63] := by simpa using hfile
      exact load_configuredProject
    · intro hnone
      exact absurd (List.mem_cons_self ..) (hnone [0x63])
  have hrearranged : Rearranged (occurrences layeredArguments) (occurrences rearrangedArguments) := by
    rw [hoccurrences, hoccurrences']
    constructor
    · decide
    · rintro ⟨a, value⟩ hx
      simp only [added, List.mem_cons, List.not_mem_nil, or_false] at hx
      rcases hx with rfl | rfl | rfl <;> grind
  have hlegible : isLegible rearrangedArguments := rfl
  obtain ⟨-, -, -, hlayered⟩ := configuration_layered
  obtain ⟨config, hconfig, hoverrides, -, -, hagain⟩ := hlayered configuredProject layeredArguments o _ hparse hbase
  obtain ⟨o', hparse', hconfig'⟩ := hagain rearrangedArguments hlegible hrearranged
  exact ⟨o, o', config, hparse, hbase, hconfig, hoverrides, hlegible, hrearranged, hparse', hconfig'⟩

end SourceSnapshot.CommandLine
