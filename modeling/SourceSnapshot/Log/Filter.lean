import SourceSnapshot.Log.Pattern
import SourceSnapshot.Log.Record
import SourceSnapshot.Text.Numeral
import SourceSnapshot.Text.Utf8

/-! Which records are shown. A filter is a list of directives between commas, each a level for a
part of the program; of those that speak of a record the most specific one decides. -/
namespace SourceSnapshot.Log

/-- A directive for the parts whose names begin with `target`, and for records that carry all the
named values. Everything up to the level of rank `limit` is shown. -/
structure Directive where
  target : Option String := none
  fields : List String := []
  limit : Nat
  deriving DecidableEq

private def lowerAscii (s : List Char) : List Char := s.map Char.toLower

def levelRank? (s : List Char) : Option Nat :=
  match Numeral.readUpTo 18446744073709551615 s with
  | .ok n => if n ≤ 5 then some n else none
  | .error _ =>
    match String.ofList (lowerAscii s) with
    | "" => some 1
    | "error" => some 1
    | "warn" => some 2
    | "info" => some 3
    | "debug" => some 4
    | "trace" => some 5
    | "off" => some 0
    | _ => none

inductive Reading
  | start
  | levelOrTarget (start : Nat)
  | span (start : Nat)
  | field (start : Nat)
  | fields
  | target
  | level (start : Nat)

structure Draft where
  target : Option String := none
  inSpan : Bool := false
  fields : List (String × Bool) := []
  limit : Nat := 5

def Draft.aim (d : Draft) (target : List Char) : Draft :=
  { d with target := some (String.ofList target) }

/-- Whether a text is a number without a sign: digits with a point among or around them, and a
power of ten behind them; or a word for none or for one without end. -/
def isNumber (s : List Char) : Bool :=
  let mantissa := s.takeWhile fun c => c.isDigit || c == '.'
  let isWhole : Bool := match s.drop mantissa.length with
    | [] => true
    | 'e' :: power | 'E' :: power =>
      let digits := if power.head? = some '-' || power.head? = some '+' then power.drop 1 else power
      !digits.isEmpty && digits.all Char.isDigit
    | _ => false
  (isWhole && mantissa.any Char.isDigit && mantissa.count '.' ≤ 1) ||
    ["inf", "infinity", "nan"].contains (String.ofList (lowerAscii s))

/-- Whether a text can be asked of a value: it is a regular expression, or a number with a plus
sign. Every other number is a regular expression, too. -/
def isValue (s : List Char) : Bool :=
  match s with
  | '+' :: number => isNumber number
  | s => Pattern.isValid s

/-- A field's name, and whether a value is asked of it. What is asked stands between the first two
equals signs. -/
def fieldOf? (s : List Char) : Option (String × Bool) :=
  match cutWhere (· == '=') s with
  | name :: value :: _ => if isValue value then some (String.ofList name, true) else none
  | _ => some (String.ofList s, false)

def beginsName (c : Char) : Bool :=
  c == '-' || c == ':' || c == '_' || Letter.isAlphanumeric c

/-- Reads on with character number `i`. Names are cut out of `text`, which is the whole directive
with its blanks, while characters are counted after the blanks in front. -/
def readOn (text : List Char) (d : Draft) (reading : Reading) (i : Nat) :
    List Char → Option (Draft × Reading)
  | [] => some (d, reading)
  | c :: rest =>
    let since (begun : Nat) : List Char := (text.drop begun).take (i - begun)
    match reading with
    | .start =>
      if c = '[' then readOn text d (.span (i + 1)) (i + 1) rest
      else if beginsName c then readOn text d (.levelOrTarget i) (i + 1) rest
      else none
    | .levelOrTarget begun =>
      if c = '=' then
        readOn text (d.aim (since begun)) (.level (i + 1)) (i + 1) rest
      else if c = '[' then
        readOn text (d.aim (since begun)) (.span (i + 1)) (i + 1) rest
      else readOn text d reading (i + 1) rest
    | .span begun =>
      if c = ']' then readOn text { d with inSpan := true } .target (i + 1) rest
      else if c = '{' then
        let inSpan := d.inSpan || !(since begun).isEmpty
        readOn text { d with inSpan } (.field (i + 1)) (i + 1) rest
      else readOn text d reading (i + 1) rest
    | .field begun =>
      if c = '}' then
        if (since begun).isEmpty then none
        else match fieldOf? (since begun) with
          | none => none
          | some field =>
            readOn text { d with fields := d.fields ++ [field] } .fields (i + 1) rest
      else readOn text d reading (i + 1) rest
    | .fields => if c = ']' then readOn text d .target (i + 1) rest else none
    | .target => if c = '=' then readOn text d (.level (i + 1)) (i + 1) rest else none
    | .level _ => readOn text d reading (i + 1) rest

def draftOf? (text : List Char) : Option Draft :=
  match readOn text {} .start 0 (Blank.trim text) with
  | none => none
  | some (d, .levelOrTarget begun) =>
    let rest := text.drop begun
    match rest with
    | [] => some d
    | _ =>
      match levelRank? rest with
      | some limit => some { d with limit, target := none }
      | none => some { d with target := some (String.ofList rest) }
  | some (d, .level begun) =>
    match text.drop begun with
    | [] => some d
    | rest => (levelRank? rest).map fun limit => { d with limit }
  | some (d, .target) => some d
  | some _ => none

/-- The directive about records that a draft gives. One about a span or about a field's value gives
none: no record of this program is inside a span. -/
def Draft.directive? (d : Draft) : Option Directive :=
  if d.inSpan || d.fields.any (·.2) then none
  else some { target := d.target, fields := d.fields.map (·.1), limit := d.limit }

structure Filter where
  directives : List Directive

/-- Shown if nothing is asked for. -/
def leastLimit : Nat := 1

def Filter.parse? (text : String) : Option Filter :=
  let parts : List (List Char) := (cutWhere (· == ',') text.toList).filter (!·.isEmpty)
  match parts.mapM draftOf? with
  | none => none
  | some [] => some ⟨[{ limit := leastLimit }]⟩
  | some drafts => some ⟨drafts.filterMap Draft.directive?⟩

/-- Whether a directive speaks of a record. The message is a value of it, too. -/
def Directive.concerns (d : Directive) (r : Record) : Bool :=
  (d.target.all fun target => target.isPrefixOf r.target) &&
  d.fields.all fun field =>
    field == "message" || r.fields.any (·.1 == field) || r.unshown.contains field

/-- Whether `a` is at least as specific as `b`: its target is longer, or it names more values, or
later ones in the order of names. -/
def Directive.notBelow (a b : Directive) : Bool :=
  let size (d : Directive) : Nat := match d.target with
    | none => 0
    | some target => target.utf8ByteSize + 1
  size a > size b || (size a == size b &&
    (a.fields.length > b.fields.length ||
      (a.fields.length == b.fields.length && !decide (a.fields < b.fields))))

/-- Whether a record is shown. Of equal directives the later one counts. -/
def Filter.shows (f : Filter) (r : Record) : Bool :=
  let concerned := f.directives.filter (·.concerns r)
  match concerned with
  | [] => false
  | first :: rest =>
    let deciding := rest.foldl (fun best d => if d.notBelow best then d else best) first
    r.level.rank ≤ deciding.limit

/-- The filter of a run: the one asked for, or this program's records up to a level that is the
higher the more often more was asked for. -/
def Filter.ofRun (asked : Option Bytes) (verbosity : Nat) : Filter :=
  match (asked.bind Utf8.decode?).bind Filter.parse? with
  | some filter => filter
  | none => ⟨[{ target := some "gather", limit := min 5 (verbosity + 2) }]⟩

end SourceSnapshot.Log
