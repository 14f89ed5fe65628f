import SourceSnapshot.Ignore.Worktree

/-! The rules that a user has for all directories. They stand in a file that the user's settings name, or else
in one of a usual name beside these settings. -/
namespace SourceSnapshot.Ignore

def isSpace (b : UInt8) : Bool := b == 0x20 || (0x09 ≤ b && b ≤ 0x0D)

/-- Whether a line ends here, after spaces at most. Line feeds are spaces too. -/
def endsLine (text : Bytes) : Bool := (text.takeWhile isSpace).contains 0x0A || text.all isSpace

/-- Whether a value ends here: there may be a quotation mark before the end of the line. -/
def endsValue (text : Bytes) : Bool :=
  endsLine text || match text.dropWhile isSpace with
    | 0x22 :: rest => endsLine rest
    | _ => false

def value? : Bytes → Option Bytes
  | [] => none
  | b :: rest =>
    if isSpace b then none
    else if endsValue rest then some [b]
    else (value? rest).map (b :: ·)

def settingName : Bytes := Utf8.encode "excludesfile"

/-- The value that a line gives to the setting, if it does. A mark before it is left out if there is a value
behind the mark. -/
def settingAt? (line : Bytes) : Option Bytes :=
  let line := line.dropWhile isSpace
  let name := line.take settingName.length
  if name.map (fun b => if 0x41 ≤ b ∧ b ≤ 0x5A then b + 0x20 else b) != settingName then none
  else match (line.drop settingName.length).dropWhile isSpace with
    | 0x3D :: rest =>
      let rest := rest.dropWhile isSpace
      (match rest with
        | 0x22 :: marked => value? (marked.dropWhile isSpace)
        | _ => none).or (value? rest)
    | _ => none

/-- The value that the lines after the first give to the setting: the first of them that gives one. -/
def settingAfter? : Bytes → Option Bytes
  | [] => none
  | b :: rest => if b = 0x0A then (settingAt? rest).or (settingAfter? rest) else settingAfter? rest

def withHome (home : Option Path) (value : Bytes) : Bytes :=
  match home with
  | none => value
  | some home => value.flatMap fun b => if b = 0x7E then Utf8.encode home.display else [b]

def namedIn? (fs : FileSystem) (settings : Path) : Option Path := do
  let text ← (fs.read settings).toOption
  let value ← (settingAt? text).or (settingAfter? text)
  let _ ← Utf8.decode? value
  return ⟨withHome fs.process.home value⟩

def configDir? (p : Process) : Option Path :=
  (p.configHome.filter (!·.bytes.isEmpty)).or (p.home.map (·.join (.ofString ".config")))

def settingsOf (p : Process) : List Path :=
  (p.home.map (·.join (.ofString ".gitconfig"))).toList ++
    ((configDir? p).map (·.join (.ofString "git/config"))).toList

def userFile? (fs : FileSystem) : Option Path :=
  ((settingsOf fs.process).findSome? (namedIn? fs)).or
    ((configDir? fs.process).map (·.join (.ofString "git/ignore")))

structure UserRules where
  file : RuleFile
  stem : Option Bytes

/-- Reads the user's rules. They are in force only where there is a working directory. -/
def UserRules.read? (fs : FileSystem) : Option UserRules := do
  let cwd ← fs.workingDir?
  let path ← userFile? fs
  guard (isFile fs path)
  let file ← RuleFile.read? fs path
  return { file, stem := stemOf cwd }

def UserRules.judge (r : UserRules) (path : Path) (isDir : Bool) : Option Verdict :=
  r.file.judge (seenFrom r.stem path) isDir

end SourceSnapshot.Ignore
