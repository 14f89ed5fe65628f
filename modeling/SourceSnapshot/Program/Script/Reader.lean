import SourceSnapshot.Program.Script.Token

/-! A script is read into its commands, line by line: what stands before a line that cannot be read
is run all the same. A reader takes tokens and gives a command, or fails if none stands there. -/
namespace SourceSnapshot.Script

abbrev Reader := StateT (List Token) Option

def plainWord (text : String) : Token := .word [.text (Utf8.encode text) false]

namespace Reader

def takes (token : Token) : Reader Bool := do
  match ← get with
  | [] => return false
  | first :: rest =>
    if first = token then
      set rest
      return true
    else return false

def expect (token : Token) : Reader Unit := do
  if !(← takes token) then failure

def withoutLines : List Token → List Token
  | .sign "\n" :: rest => withoutLines rest
  | tokens => tokens

def skipLines : Reader Unit := modify withoutLines

/-- Whether nothing that begins a command comes next: the end of a list of commands. -/
def atEnd : Reader Bool := do
  match ← get with
  | [] => return true
  | .sign text :: _ => return text = ")" || text = ";;"
  | token :: _ =>
    return ["then", "do", "done", "fi", "else", "elif", "esac", "\x7d"].any (plainWord · = token)

def word : Reader Word := do
  match ← get with
  | .word word :: rest =>
    set rest
    return word
  | _ => failure

def nameOf? : Token → Option Bytes
  | .word [.text name false] => if isName name then some name else none
  | _ => none

def name : Reader Bytes := do
  match ← get with
  | token :: rest =>
    set rest
    nameOf? token
  | [] => failure

def splitWords : List Token → List Word × List Redirection × List Token
  | .word word :: rest =>
    let (words, redirections, rest) := splitWords rest
    (word :: words, redirections, rest)
  | .lead stream lead :: .word target :: rest =>
    let (words, redirections, rest) := splitWords rest
    (words, ⟨stream, lead, target⟩ :: redirections, rest)
  | tokens => ([], [], tokens)

def words : Reader (List Word × List Redirection) := do
  let (words, redirections, rest) := splitWords (← get)
  set rest
  return (words, redirections)

def led (command : Command) : Reader Command := do
  match ← words with
  | ([], []) => return command
  | ([], redirections) => return .led command redirections
  | _ => failure

def simple : Reader Command := do
  let (words, redirections) ← words
  if words.isEmpty && redirections.isEmpty then failure
  let command : Command := if words.isEmpty then .nothing else .simple words
  return if redirections.isEmpty then command else .led command redirections

def turns : Reader (Option (List Word)) := do
  let tokens ← get
  skipLines
  if ← takes (plainWord "in") then
    let (words, redirections) ← words
    if !redirections.isEmpty then failure
    if !(← takes (.sign ";")) then expect (.sign "\n")
    return some words
  else
    set tokens
    discard (takes (.sign ";"))
    return none

def patternsIn : List Token → Option (List Word × List Token)
  | .word word :: .sign ")" :: rest => some ([word], rest)
  | .word word :: .sign "|" :: rest =>
    (patternsIn rest).map fun (words, rest) => (word :: words, rest)
  | _ => none

def patterns : Reader (List Word) := fun tokens => patternsIn tokens

def inBackground (command : Command) : Command :=
  .both (.apart command) (.simple [[.text (Utf8.encode ":") false]])

mutual

/-- Commands with signs between them. A line ends at a line feed, any other list where a word or a
sign ends it. -/
def list (isLine : Bool) : Nat → Reader Command
  | 0 => failure
  | fuel + 1 => do
    if !isLine then skipLines
    let command ← joined fuel
    let inBack ← takes (.sign "&")
    let command := if inBack then inBackground command else command
    if isLine then
      if !inBack && !(← takes (.sign ";")) then
        if !(← get).isEmpty then expect (.sign "\n")
        return command
      if (← get).isEmpty || (← takes (.sign "\n")) then return command
      return .both command (← list isLine fuel)
    else
      if !inBack && !(← takes (.sign ";")) && !(← takes (.sign "\n")) then return command
      skipLines
      if ← atEnd then return command
      return .both command (← list isLine fuel)

def joined : Nat → Reader Command
  | 0 => failure
  | fuel + 1 => do joinedTo fuel (← pipe fuel)

def joinedTo : Nat → Command → Reader Command
  | 0, _ => failure
  | fuel + 1, first => do
    if ← takes (.sign "&&") then
      skipLines
      joinedTo fuel (.ifDone first (← pipe fuel))
    else if ← takes (.sign "||") then
      skipLines
      joinedTo fuel (.ifFailed first (← pipe fuel))
    else return first

def pipe : Nat → Reader Command
  | 0 => failure
  | fuel + 1 => do
    if ← takes (plainWord "!") then return .negated (← pipeOn fuel)
    else pipeOn fuel

def pipeOn : Nat → Reader Command
  | 0 => failure
  | fuel + 1 => do
    let first ← command fuel
    if ← takes (.sign "|") then
      skipLines
      return .piped first (← pipeOn fuel)
    else return first

def command : Nat → Reader Command
  | 0 => failure
  | fuel + 1 => do
    if ← takes (.sign "(") then
      let body ← list false fuel
      expect (.sign ")")
      led (.apart body)
    else if ← takes (plainWord "\x7b") then
      let body ← list false fuel
      expect (plainWord "\x7d")
      led body
    else if ← takes (plainWord "if") then led (← branch fuel)
    else if ← takes (plainWord "while") then led (.loop false (← list false fuel) (← body fuel))
    else if ← takes (plainWord "until") then led (.loop true (← list false fuel) (← body fuel))
    else if ← takes (plainWord "for") then
      let name ← name
      let words ← turns
      skipLines
      led (.each name words (← body fuel))
    else if ← takes (plainWord "case") then
      let word ← word
      skipLines
      expect (plainWord "in")
      skipLines
      led (.choice word (← arms fuel))
    else if (← atEnd) || (← takes (plainWord "!")) then failure
    else
      match ← get with
      | first :: .sign "(" :: .sign ")" :: rest =>
        let name ← nameOf? first
        set rest
        skipLines
        return .define name (← command fuel)
      | _ => simple

def body : Nat → Reader Command
  | 0 => failure
  | fuel + 1 => do
    expect (plainWord "do")
    let body ← list false fuel
    expect (plainWord "done")
    return body

def branch : Nat → Reader Command
  | 0 => failure
  | fuel + 1 => do
    let condition ← list false fuel
    expect (plainWord "then")
    let yes ← list false fuel
    if ← takes (plainWord "elif") then return .branch condition yes (← branch fuel)
    else if ← takes (plainWord "else") then
      let no ← list false fuel
      expect (plainWord "fi")
      return .branch condition yes no
    else
      expect (plainWord "fi")
      return .branch condition yes .nothing

def arms : Nat → Reader Command
  | 0 => failure
  | fuel + 1 => do
    if ← takes (plainWord "esac") then return .nothing
    discard (takes (.sign "("))
    let patterns ← patterns
    skipLines
    let body ← if ← atEnd then pure Command.nothing else list false fuel
    if ← takes (.sign ";;") then
      skipLines
      return .arm patterns body (← arms fuel)
    else
      expect (plainWord "esac")
      return .arm patterns body .nothing

end

def lines : Nat → List Token → List Command × Bool
  | 0, _ => ([], true)
  | fuel + 1, tokens =>
    match withoutLines tokens with
    | [] => ([], false)
    | tokens =>
      match list true fuel tokens with
      | none => ([], true)
      | some (command, rest) =>
        let (later, isBroken) := lines fuel rest
        (command :: later, isBroken)

end Reader

/-- The commands of a script, one for each line that has any and can be read, and whether there is a
line that cannot. No more than ten readers are entered before a token is taken. -/
def read (s : Bytes) : List Command × Bool :=
  let tokens := tokensOf s
  Reader.lines (10 * tokens.length + 10) tokens

end SourceSnapshot.Script
