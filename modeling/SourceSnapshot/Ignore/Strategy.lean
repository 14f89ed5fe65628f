import SourceSnapshot.Ignore.Glob
import SourceSnapshot.Path

/-! How patterns are matched in sets: most have a shape that needs no regular expression. A set is
described by how many patterns of each shape it has. -/
namespace SourceSnapshot.Glob

inductive Strategy
  /-- The whole path. -/
  | path (text : Bytes)
  /-- The last name. -/
  | name (text : Bytes)
  /-- The extension alone. -/
  | extension (text : Bytes)
  /-- The beginning of the path. -/
  | beginning (text : Bytes)
  /-- The end of the path; `whole` says that it may be all of it, but for its slash. -/
  | ending (text : Bytes) (whole : Bool)
  /-- The extension first, and then the pattern. -/
  | thenExtension (text : Bytes)
  /-- The pattern, on the last name. -/
  | onName
  /-- The pattern. -/
  | onPath
  deriving DecidableEq

def Token.byte? : Token → Option UInt8
  | .byte b => some b
  | _ => none

def textOf? (tokens : List Token) : Option Bytes := tokens.mapM Token.byte?

def behindDirectories? : List Token → Option (List Token)
  | .directories :: rest => some rest
  | _ => none

def Token.isWithinName : Token → Bool
  | .byte b => b != slash
  | .any => true
  | .star => true
  | _ => false

/-- The tokens for the last name, if a pattern asks for nothing else. -/
def nameTokens? (tokens : List Token) : Option (List Token) :=
  (behindDirectories? tokens).filter fun rest => !rest.isEmpty && rest.all Token.isWithinName

def extensionOf? (tokens : List Token) : Option Bytes := do
  let .star :: .byte point :: rest ← behindDirectories? tokens | none
  let text ← textOf? rest
  if point = dot && !text.contains dot && !text.contains slash then some (dot :: text) else none

def beginningOf? (tokens : List Token) : Option Bytes := do
  let .beneath :: before := tokens.reverse | none
  (textOf? before.reverse).map (· ++ [slash])

def endingOf? (tokens : List Token) : Option Bytes := do
  let text ← textOf? (← behindDirectories? tokens)
  if text.isEmpty then none else some (slash :: text)

def requiredExtension? (tokens : List Token) : Option Bytes :=
  let last := (tokens.reverse.map Token.byte?).takeWhile fun b? =>
    b?.any fun b => b != dot && b != slash
  if (tokens.reverse.drop last.length).head?.bind Token.byte? = some dot then
    some (dot :: (last.filterMap id).reverse)
  else none

def strategyOf (tokens : List Token) : Strategy :=
  let nonempty (text? : Option Bytes) := text?.filter (!·.isEmpty)
  match (nameTokens? tokens).bind textOf? with
  | some text => .name text
  | none =>
    match nonempty (textOf? tokens) with
    | some text => .path text
    | none =>
      match extensionOf? tokens with
      | some text => .extension text
      | none =>
        match beginningOf? tokens with
        | some text => .beginning text
        | none =>
          match endingOf? tokens with
          | some text => .ending text true
          | none =>
            match requiredExtension? tokens with
            | some text => .thenExtension text
            | none => if (nameTokens? tokens).isSome then .onName else .onPath

/-- The description of a set of patterns. What is compared without the pattern is counted once for
each text. -/
def describeSet (patterns : List (List Token)) : String :=
  let all := patterns.map strategyOf
  let texts (select : Strategy → Option Bytes) : Nat := (all.filterMap select).eraseDups.length
  let count (select : Strategy → Bool) : Nat := all.countP select
  let paths := texts fun
    | .path text => some text
    | .ending text true => some (text.drop 1)
    | _ => none
  let names := texts fun
    | .name text => some text
    | _ => none
  let extensions := texts fun
    | .extension text => some text
    | _ => none
  let beginnings := count fun s => s matches .beginning _
  let endings := count fun s => s matches .ending _ _
  let required := texts fun
    | .thenExtension text => some text
    | _ => none
  let onNames := count (· = .onName)
  let onPaths := count (· = .onPath)
  s!"built glob set; {paths} literals, {names} basenames, {extensions} extensions, " ++
  s!"{beginnings} prefixes, {endings} suffixes, {required} required extensions, " ++
  s!"{onNames} basename regexes, {onPaths} regexes"

/-! Regular expressions. -/

def marks : List Char :=
  ['\\', '.', '+', '*', '?', '(', ')', '|', '[', ']', '\x7b', '\x7d', '^', '$', '#', '&', '-', '~']

def byteText (b : UInt8) : List Char :=
  let c := Char.ofNat b.toNat
  if b ≥ 0x80 then '\\' :: 'x' :: (Nat.toDigits 16 b.toNat)
  else if marks.contains c then ['\\', c]
  else [c]

def rangeText (range : UInt8 × UInt8) : List Char :=
  if range.1 = range.2 then byteText range.1
  else byteText range.1 ++ '-' :: byteText range.2

mutual

def Token.expression : Token → List Char
  | .byte b => byteText b
  | .any => "[^/]".toList
  | .star => "[^/]*".toList
  | .directories => "(?:/?|.*/)".toList
  | .beneath => "/.*".toList
  | .between => "(?:/|/.*/)".toList
  | .oneOf negated ranges =>
    '[' :: (if negated then ['^'] else []) ++ ranges.flatMap rangeText ++ [']']
  | .branches all =>
    let parts := (expressionsOf all).filter (!·.isEmpty)
    if parts.isEmpty then [] else "(?:".toList ++ ['|'].intercalate parts ++ [')']

def expressionOf : List Token → List Char
  | [] => []
  | token :: rest => token.expression ++ expressionOf rest

def expressionsOf : List (List Token) → List (List Char)
  | [] => []
  | branch :: rest => expressionOf branch :: expressionsOf rest

end

def expression (tokens : List Token) : String :=
  let inner := match tokens with
    | [.directories] => ".*".toList
    | _ => expressionOf tokens
  String.ofList ("(?-u)^".toList ++ inner ++ ['$'])

end SourceSnapshot.Glob
