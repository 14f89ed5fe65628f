import SourceSnapshot.Artifact.Writer
import SourceSnapshot.FileSystem.Change
import SourceSnapshot.Log.Record
import SourceSnapshot.RunError
import SourceSnapshot.Search
import SourceSnapshot.Structure
import SourceSnapshot.Summary.Basic

/-! Collecting a project: the drawing of its structure first, then a block for each file that is to
be collected, in the order of the search. Nothing but a failure to make or to write the artifact
ends a run. -/
namespace SourceSnapshot

/-- What a run does: its settings, and who draws the structure. -/
structure Collection where
  config : Config
  renderer : Renderer

namespace Collection

/-- A run under way: the artifact so far, the account so far, and what was told, latest first. -/
structure Progress where
  writer : Artifact.Writer
  summary : Summary := {}
  told : List Log.Record := []

abbrev Run := EStateM IoError Progress

def tell (level : Log.Level) (target message : String) (fields : List (String × String)) :
    Run Unit :=
  modify fun p => { p with told := { level, target, message, fields } :: p.told }

def tellAll (records : List Log.Record) : Run Unit :=
  modify fun p => { p with told := records.reverse ++ p.told }

def account (f : Summary → Summary) : Run Unit :=
  modify fun p => { p with summary := f p.summary }

def write (step : Artifact.Write Unit) : Run Unit := fun p =>
  match step p.writer with
  | .ok () writer => .ok () { p with writer }
  | .error e writer => .error e { p with writer }

def collectorTarget : String := "gather::collector"

def outcomeOf (fs : FileSystem) (path : Path) : Outcome := .ofRead (fs.read path)

def tellOutcome (file : FoundFile) : Outcome → Run Unit
  | .included _ => tell .debug collectorTarget "included" [("path", file.relative.display)]
  | .binary => tell .debug collectorTarget "binary file skipped" [("path", file.relative.display)]
  | .unreadable message => tell .warn collectorTarget "error reading file"
      [("path", file.relative.display), ("error", message)]

/-- What a run finds on the disk by then: it may have written there itself. -/
abbrev Sight := Artifact.Writer → FileSystem

def look (sight : Sight) : Run FileSystem := fun p => .ok (sight p.writer) p

def takeFile (c : Collection) (fs : FileSystem) (file : FoundFile) : Run Unit := do
  let decision := c.config.decide file.path
  account (·.recordDecision decision)
  if decision = .included then
    let outcome := outcomeOf fs file.path
    tellOutcome file outcome
    write (Artifact.writeBlock file.relative outcome)
    account (·.recordOutcome outcome)
  else
    tell .trace collectorTarget "skipped"
      [("path", file.relative.display), ("decision", decision.label)]

def takeEvent (c : Collection) (sight : Sight) : Event → Run Unit
  | .file file => do c.takeFile (← look sight) file
  | .notice notice => tellAll notice.records

def takeStructure (c : Collection) (fs : FileSystem) (root : Path) : Run Unit := do
  if !fs.isDir root then
    tell .warn collectorTarget "root is not a readable directory" [("root", root.display)]
  match c.renderer fs root c.config.structureDepth c.config.excludedDirs with
  | .ok drawing =>
    account ({ · with drawn := true })
    write (Artifact.writeOpening (some drawing))
  | .error e =>
    tell .debug collectorTarget "structure summary unavailable, writing fallback note"
      [("error", e.message)]
    write (Artifact.writeOpening none)

/-- The search of a run; the artifact itself is not found. -/
def search (c : Collection) (fs : FileSystem) (root : Path) (output : Option Path) : Search :=
  let all : Search := { fs, config := c.config, root }
  match output with
  | none => all
  | some output => all.skipping output

def take (c : Collection) (sight : Sight) (root : Path) (output : Option Path) : Run Summary := do
  let fs ← look sight
  c.takeStructure fs root
  (c.search fs root output).forEachEventIn (look sight) (c.takeEvent sight)
  modify fun p => { p with summary := { p.summary with lines := p.writer.lines } }
  write Artifact.finish
  return (← get).summary

structure Snapshot where
  result : Except IoError Summary
  /-- What the sink has taken, also of a snapshot that failed. -/
  artifact : Bytes
  log : List Log.Record

def startOf (sink : Sink) (output : Option Path) : Progress :=
  { writer := { sink }, summary := { output := output.getD ⟨[]⟩ } }

/-- Writes a snapshot of the project at `root` into a sink, by what is seen of it meanwhile. -/
def snapshotSeeing (c : Collection) (sight : Sight) (root : Path) (sink : Sink) (output : Option Path) :
    Snapshot :=
  match c.take sight root output (startOf sink output) with
  | .ok summary p => ⟨.ok summary, p.writer.sink.accepted, p.told.reverse⟩
  | .error e p => ⟨.error e, p.writer.sink.accepted, p.told.reverse⟩

/-- Writes the snapshot of the project at `root` into a sink that is none of its files. -/
def snapshot (c : Collection) (fs : FileSystem) (root : Path) (sink : Sink)
    (output : Option Path := none) : Snapshot :=
  c.snapshotSeeing (fun _ => fs) root sink output

structure Collected where
  result : Except RunError Summary
  fs : FileSystem
  log : List Log.Record := []

def prepareOutput (fs : FileSystem) (output : Path) : Except RunError Unit × FileSystem :=
  match output.parent? with
  | none => (.ok (), fs)
  | some dir =>
    if dir.bytes.isEmpty then (.ok (), fs)
    else match fs.makeDirs dir with
      | (.ok (), fs) => (.ok (), fs)
      | (.error e, fs) => (.error (.createOutputDir dir e), fs)

/-- The sink that writes to what was opened. -/
def sinkOf (fs : FileSystem) : FileSystem.Opened → Sink
  | .file loc =>
    match fs.limit loc with
    | none => .unlimited
    | some limit => .bounded limit.size limit.failure limit.lasting
  | .device .null => .unlimited
  | .device .full => .withoutSpace

def keep (fs : FileSystem) (artifact : Bytes) : FileSystem.Opened → FileSystem
  | .file loc => fs.setContent loc artifact
  | .device _ => fs

def sightOf (emptied : FileSystem) (opened : FileSystem.Opened) : Sight :=
  fun writer => keep emptied writer.sink.stored opened

/-- Writes the snapshot of the project at `root` into what was opened for `output`. -/
def snapshotInto (c : Collection) (emptied : FileSystem) (opened : FileSystem.Opened) (root output : Path) :
    Snapshot :=
  c.snapshotSeeing (sightOf emptied opened) root (sinkOf emptied opened) (some output)

/-- Collects the project at `root` into the file at `output`, which is made with the directory that
it needs, or emptied first. -/
def collect (c : Collection) (fs : FileSystem) (root output : Path) : Collected :=
  let opening : Log.Record := {
    level := .info, target := collectorTarget, message := "collecting project"
    fields := [("root", root.display), ("output", output.display)] }
  match prepareOutput fs output with
  | (.error e, fs) => ⟨.error e, fs, [opening]⟩
  | (.ok (), fs) =>
    match fs.openToWrite output with
    | .error e => ⟨.error (.createOutput output e), fs, [opening]⟩
    | .ok (opened, fs) =>
      let snapshot := c.snapshotInto fs opened root output
      let fs := keep fs snapshot.artifact opened
      match snapshot.result with
      | .error e => ⟨.error (.write output e), fs, opening :: snapshot.log⟩
      | .ok summary =>
        let closing : Log.Record := {
          level := .info, target := collectorTarget, message := "collection complete"
          fields := [
            ("included", toString summary.included), ("lines", toString summary.lines),
            ("binary", toString summary.skippedBinary), ("errors", toString summary.readErrors)] }
        ⟨.ok summary, fs, opening :: snapshot.log ++ [closing]⟩

end Collection
end SourceSnapshot
