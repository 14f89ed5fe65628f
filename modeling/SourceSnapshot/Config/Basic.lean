import SourceSnapshot.NameSet
import SourceSnapshot.Path
import SourceSnapshot.Text.Blank

/-! What to collect: the names and extensions that a run leaves out or takes in, and its depths. A
configuration is layered: a base, then replacements and additions. -/
namespace SourceSnapshot

/-- An extension as the configuration keeps it: one leading dot, lower case, no blanks around it. -/
def normalizeExtension (extension : String) : String :=
  dotted (String.ofList ((Blank.trim extension.toList).dropWhile (· == '.')))

structure Config where
  /-- Directories of these names are left out with all beneath them. -/
  excludedDirs : NameSet := ⟨[".git", "build", "dist", "node_modules", "vendor"], by decide⟩
  /-- Files of these names are left out. -/
  excludedFiles : NameSet := ⟨["go.sum", "go.work.sum"], by decide⟩
  /-- Files with these extensions are taken in. -/
  includedExtensions : NameSet := ⟨[".go", ".mod", ".yaml", ".yml"], by decide⟩
  /-- Levels that the drawing of the structure shows. -/
  structureDepth : UInt64 := 4
  /-- Levels below the root that are searched for files; all of them if absent. -/
  maxDepth : Option UInt64 := none
  /-- Whether ignore files are obeyed. -/
  respectGitignore : Bool := false
  deriving DecidableEq

namespace Config

def standard : Config := {}

def withExtensions (c : Config) (extensions : List String) : Config :=
  { c with includedExtensions := NameSet.ofList (extensions.map normalizeExtension) }

def excludeDirs (c : Config) (names : List String) : Config :=
  { c with excludedDirs := c.excludedDirs.addAll names }

def excludeFiles (c : Config) (names : List String) : Config :=
  { c with excludedFiles := c.excludedFiles.addAll names }

def normalized (c : Config) : Config :=
  { c with includedExtensions := c.includedExtensions.map normalizeExtension }

def isExcludedDir (c : Config) (name : String) : Bool := c.excludedDirs.contains name

def isExcludedFile (c : Config) (name : String) : Bool := c.excludedFiles.contains name

def includesExtension (c : Config) (p : Path) : Bool :=
  match p.dottedExtension? with
  | some extension => c.includedExtensions.contains extension
  | none => false

end Config

/-- Where the artifact goes unless a place is named. -/
def defaultOutputPath (root : Path) : Path :=
  (root.join (.ofString "scripts")).join (.ofString "go_project_code.txt")

end SourceSnapshot
