import SourceSnapshot.Proofs.CommandLine.Occurrence

/-! Which command lines are read to their end. A command line is refused for a text that says nothing, for a value that
is missing or none, or for an argument that is given once more than it may; in any other case it means what occurs on
it, whatever the order in which that is judged. -/
namespace SourceSnapshot.CommandLine

/-- Whether reading goes on after an argument without a value. -/
def Argument.goesOn (a : Argument) : Bool := a ≠ .help && a ≠ .version

def isLegibleLong (text : Bytes) : Bool :=
  match (Utf8.decode? (text.takeWhile (· != 0x3D))).bind Argument.ofLong? with
  | none => false
  | some a => a.valueName?.isSome || (text.dropWhile (· != 0x3D)).isEmpty && a.goesOn

/-- Whether the letters after one dash say something, up to one that takes the rest for its value. -/
def isLegibleShort : List (Option Char × Bytes) → Bool
  | [] => true
  | (letter, _) :: rest =>
    match letter.bind Argument.ofShort? with
    | none => false
    | some a => a.valueName?.isSome || a.goesOn && isLegibleShort rest

/-- Whether texts say something from a place on where an argument may wait for its value and the path may have been
given: no option is met while a value is waited for, and there is one path at most. -/
def isLegibleFrom (given : Bool) (waiting : Option Argument) : List Bytes → Bool
  | [] => waiting.isNone
  | text :: rest =>
    match formOf text with
    | .dashes => waiting.isNone && rest.length + given.toNat ≤ 1
    | .long name => waiting.isNone && isLegibleLong name && isLegibleFrom given (occurrencesLong name).2 rest
    | .short letters =>
      let found := withRest letters (Utf8.read letters)
      waiting.isNone && isLegibleShort found && isLegibleFrom given (occurrencesShort found).2 rest
    | .plain => (waiting.isSome || !given) && isLegibleFrom (given || waiting.isNone) none rest

def isLegible (arguments : List Bytes) : Bool := isLegibleFrom false none arguments

/-- What was said so far: the options, and the arguments that may not be met again. -/
structure Account where
  options : Options := {}
  met : List Argument := []

/-- The account with an argument met, unless it was met before and may not be met again. -/
def Account.meet (t : Account) (a : Argument) : Option Account :=
  if a.isRepeatable then some t else if a ∈ t.met then none else some { t with met := a :: t.met }

/-- The account with an occurrence more, unless it may not occur or has no value. -/
def Account.take (t : Account) (x : Occurrence) : Option Account :=
  (t.meet x.1).bind fun t => (t.options.set x).toOption.map fun o => { t with options := o }

def Account.hold (t : Account) (a : Argument) (value : Bytes) (given : Bool) : State where
  options := t.options
  met := t.met
  pending := some (a, some value)
  pathGiven := given

theorem toOption_bind {α β : Type} (x : Reading α) (f : α → Reading β) :
    (x >>= f).toOption = x.toOption.bind fun a => (f a).toOption := by
  cases x <;> rfl

namespace State
variable {s : State} {a : Argument}

def account (s : State) : Option Account :=
  match s.pending with
  | some (a, some value) => Account.take ⟨s.options, s.met⟩ (a, some value)
  | _ => some ⟨s.options, s.met⟩

/-- The state with an account and nothing to judge, but perhaps an argument that waits for its value. -/
def stand (s : State) (t : Account) (waiting : Option Argument) : State :=
  { s with options := t.options, met := t.met, pending := waiting.map (·, none), waiting := waiting.isSome }

/-- An argument waits for its value exactly if it is pending without one. -/
def Waits (s : State) : Prop := s.waiting ↔ ∃ a, s.pending = some (a, none)

theorem waits_stand (t : Account) (waiting : Option Argument) : (s.stand t waiting).Waits := by
  cases waiting <;> simp [Waits, stand]

@[simp] theorem account_stand (t : Account) (waiting : Option Argument) : (s.stand t waiting).account = some t := by
  cases waiting <;> rfl

@[simp] theorem waitsFor_stand (t : Account) (waiting : Option Argument) :
    (s.stand t waiting).waitsFor = waiting := by
  cases waiting <;> rfl

@[simp] theorem pathGiven_stand (t : Account) (waiting : Option Argument) :
    (s.stand t waiting).pathGiven = s.pathGiven := rfl

theorem waits_hold (t : Account) (value : Bytes) (given : Bool) : (t.hold a value given).Waits := by
  simp [Waits, Account.hold]

/-- In such a state nothing waits, or the argument that does is what is pending. -/
theorem Waits.cases (h : s.Waits) :
    (s.waiting = false ∧ s.waitsFor = none ∧ (s.pending = none ∨ ∃ a value, s.pending = some (a, some value))) ∨
    ∃ a, s.waiting = true ∧ s.waitsFor = some a ∧ s.pending = some (a, none) := by
  cases hwaiting : s.waiting with
  | true =>
    obtain ⟨a, ha⟩ := h.1 hwaiting
    exact .inr ⟨a, rfl, by rw [waitsFor, hwaiting, ha], ha⟩
  | false =>
    refine .inl ⟨rfl, by rw [waitsFor, hwaiting], ?_⟩
    cases hpending : s.pending with
    | none => exact .inl rfl
    | some pending =>
      obtain ⟨a, value⟩ := pending
      cases value with
      | some value => exact .inr ⟨a, value, rfl⟩
      | none =>
        have hwaits := h.2 ⟨a, hpending⟩
        rw [hwaiting] at hwaits
        cases hwaits

def tell (s : State) (t : Account) : State := { s with options := t.options, met := t.met }

theorem toOption_meet : (s.meet a).toOption = (Account.meet ⟨s.options, s.met⟩ a).map s.tell := by
  rw [meet, Account.meet]
  split
  · rfl
  · split
    · rfl
    · rfl

theorem toOption_judge (value : Bytes) :
    (s.judge a (some value)).toOption = (Account.take ⟨s.options, s.met⟩ (a, some value)).map s.tell := by
  rw [judge, toOption_bind, toOption_meet, Account.take]
  cases Account.meet ⟨s.options, s.met⟩ a with
  | none => rfl
  | some t =>
    simp only [Option.map_some, Option.bind_some, toOption_bind, Options.set]
    change (setValue t.options a value).toOption.bind _ = _
    cases setValue t.options a value <;> rfl

theorem toOption_settle (h : s.Waits) :
    s.settle.toOption = if s.waitsFor.isNone then s.account.map (s.stand · none) else none := by
  obtain ⟨hwaiting, hwaits, hpending | ⟨a, value, hpending⟩⟩ | ⟨a, hwaiting, hwaits, hpending⟩ := h.cases
  · rw [hwaits, settle, account, hpending]
    cases s
    cases hwaiting
    cases hpending
    rfl
  · rw [hwaits, settle, account, hpending]
    dsimp only
    rw [toOption_judge]
    rfl
  · rw [hwaits, settle, hpending]
    rfl

/-- What is taken from a state on: nothing if what is met says nothing, and else what occurs in it. -/
def taken (s : State) (legible : Bool) (met : Occurrences) : Option State :=
  if s.waitsFor.isNone && legible then (s.account.bind fun t => met.1.foldlM Account.take t).map (s.stand · met.2)
  else none

theorem taken_false (met : Occurrences) : s.taken false met = none := by
  rw [taken, Bool.and_false, if_neg Bool.false_ne_true]

/-- What comes next goes on from the state in which what is taken ends. -/
theorem taken_bind {α : Type} {legible legible' : Bool} {met : Occurrences} {next : State → Option α}
    {more : Account → Option α} (hnext : ∀ t, next (s.stand t met.2) = if legible' then more t else none) :
    (s.taken legible met).bind next = if s.waitsFor.isNone && legible && legible' then
      s.account.bind fun t => (met.1.foldlM Account.take t).bind more else none := by
  rw [taken]
  cases s.waitsFor.isNone && legible with
  | false => rfl
  | true =>
    cases s.account with
    | none => cases legible' <;> rfl
    | some t =>
      simp only [if_true, Bool.true_and, Option.bind_some]
      cases met.1.foldlM Account.take t with
      | none => cases legible' <;> rfl
      | some t => exact hnext t

theorem toOption_takeFlag {full : Bool} (h : s.Waits) :
    (s.takeFlag a full).toOption = s.taken a.goesOn ([(a, none)], none) := by
  rw [takeFlag, toOption_bind, toOption_settle h, taken]
  cases s.waitsFor with
  | some => rfl
  | none =>
    cases s.account with
    | none => simp
    | some t =>
      have hmeet : ((s.stand t none).meet a).toOption = (t.meet a).map (s.stand t none).tell := toOption_meet
      cases a with
      | help => rfl
      | version => rfl
      | _ =>
        simp only [Option.isNone_none, if_true, Option.map_some, Option.bind_some, toOption_bind, hmeet,
          List.foldlM_cons, List.foldlM_nil, bind_pure, Account.take]
        cases t.meet _ <;> rfl

theorem toOption_takeOption {attached : Option Bytes} (h : s.Waits) :
    (s.takeOption a attached).toOption = s.taken true (occurrencesOf a attached) := by
  rw [takeOption, toOption_bind, toOption_settle h, taken, Bool.and_true]
  cases s.waitsFor with
  | some => rfl
  | none =>
    cases s.account with
    | none => rfl
    | some t =>
      cases attached with
      | none => rfl
      | some value =>
        have hjudge : ((s.stand t none).judge a (some value)).toOption =
          (t.take (a, some value)).map (s.stand t none).tell := toOption_judge value
        simp only [Option.isNone_none, if_true, Option.map_some, Option.bind_some, hjudge, occurrencesOf,
          List.foldlM_cons, List.foldlM_nil, bind_pure]
        rfl

theorem toOption_takeLong {text : Bytes} (h : s.Waits) :
    (s.takeLong text).toOption = s.taken (isLegibleLong text) (occurrencesLong text) := by
  rw [takeLong]
  split
  · rename_i hname
    have hfound : (Utf8.decode? (text.takeWhile (· != 0x3D))).bind Argument.ofLong? = none := hname
    rw [isLegibleLong, hfound, taken_false]
    rfl
  · rename_i a hname
    have hfound : (Utf8.decode? (text.takeWhile (· != 0x3D))).bind Argument.ofLong? = some a := hname
    rw [occurrencesLong, isLegibleLong, hfound]
    dsimp only
    cases a.valueName?.isSome with
    | true => exact toOption_takeOption h
    | false =>
      simp only [Bool.false_eq_true, if_false, Bool.false_or]
      split
      · rename_i hvalue
        split at hvalue
        · cases hvalue
        · rename_i b value hrest
          have hattached : text.dropWhile (· != 0x3D) = b :: value := hrest
          rw [hattached, List.isEmpty_cons, Bool.false_and, taken_false]
          rfl
      · rename_i hvalue
        split at hvalue
        · rename_i hrest
          have hattached : text.dropWhile (· != 0x3D) = [] := hrest
          rw [hattached]
          exact toOption_takeFlag h
        · cases hvalue

theorem toOption_takeLetters {letters : List (Option Char × Bytes)} (h : s.Waits)
    (hletters : letters = [] → s.pending = none) :
    (s.takeLetters letters).toOption = s.taken (isLegibleShort letters) (occurrencesShort letters) := by
  induction letters generalizing s with
  | nil =>
    have hsettle := toOption_settle h
    rw [settle, hletters rfl] at hsettle
    change (Except.ok s : Reading State).toOption = _
    rw [taken, isLegibleShort, Bool.and_true, occurrencesShort]
    simpa using hsettle
  | cons first rest ih =>
    obtain ⟨letter, text⟩ := first
    cases letter with
    | none =>
      rw [isLegibleShort, Option.bind_none, taken_false]
      rfl
    | some letter =>
      rw [takeLetters.eq_def, occurrencesShort.eq_def, isLegibleShort.eq_def]
      dsimp only [Option.bind_some]
      cases Argument.ofShort? letter with
      | none =>
        rw [taken_false]
        rfl
      | some a =>
        dsimp only
        cases a.valueName?.isSome with
        | true => exact toOption_takeOption h
        | false =>
          simp only [Bool.false_eq_true, if_false, Bool.false_or]
          have hrest (t : Account) : ((s.stand t none).takeLetters rest).toOption = if isLegibleShort rest then
              ((occurrencesShort rest).1.foldlM Account.take t).map (s.stand · (occurrencesShort rest).2) else none := by
            rw [ih (waits_stand t none) fun _ => rfl, taken, waitsFor_stand, account_stand]
            rfl
          rw [toOption_bind, toOption_takeFlag h, taken_bind hrest, taken, Bool.and_assoc]
          simp only [List.foldlM_cons, List.foldlM_nil, bind_pure, Option.map_bind, Option.bind_eq_bind,
            Function.comp_def]

theorem toOption_takeShort {text : Bytes} (htext : text ≠ []) (h : s.Waits) : (s.takeShort text).toOption =
    s.taken (isLegibleShort (withRest text (Utf8.read text))) (occurrencesShort (withRest text (Utf8.read text))) := by
  refine toOption_takeLetters h fun hletters => absurd ?_ htext
  rw [← Utf8.read_eq_nil_iff]
  generalize Utf8.read text = found at hletters
  cases found with
  | nil => rfl
  | cons first rest => cases first <;> cases hletters

theorem toOption_takePath {text : Bytes} (h : s.Waits) : (s.takePath text).toOption =
    if s.pathGiven || s.waitsFor.isSome then none else s.account.map (·.hold .path text true) := by
  rw [takePath]
  cases s.pathGiven with
  | true => rfl
  | false =>
    simp only [Bool.false_eq_true, if_false, Bool.false_or]
    rw [toOption_bind, toOption_settle h]
    cases s.waitsFor with
    | some => rfl
    | none => cases s.account <;> rfl

def finish (s : State) : Option Account := s.settle.toOption.map fun s => ⟨s.options, s.met⟩

theorem finish_eq (h : s.Waits) : s.finish = if s.waitsFor.isNone then s.account else none := by
  rw [finish, toOption_settle h]
  cases s.waitsFor with
  | some => rfl
  | none => cases s.account <;> rfl

def finishAll (s : State) (texts : List Bytes) : Option Account := (s.takeAll texts).toOption.bind finish

theorem finish_hold (t : Account) (value : Bytes) (given : Bool) :
    (t.hold a value given).finish = t.take (a, some value) := by
  rw [finish_eq (waits_hold t value given)]
  rfl

/-- Only one path can be given. -/
theorem finish_takePaths {texts : List Bytes} (h : s.Waits) (hwaits : s.waitsFor = none) :
    (s.takePaths texts).toOption.bind finish = if texts.length + s.pathGiven.toNat ≤ 1 then
      s.account.bind fun t => (texts.map fun text => (Argument.path, some text)).foldlM Account.take t else none := by
  match texts with
  | [] =>
    change s.finish = _
    rw [finish_eq h, hwaits]
    cases s.pathGiven <;> simp
  | [text] =>
    rw [takePaths, toOption_bind, toOption_takePath h, hwaits]
    cases s.pathGiven with
    | true => rfl
    | false =>
      cases s.account with
      | none => rfl
      | some t =>
        change (t.hold .path text true).finish = _
        rw [finish_hold]
        simp
  | text :: other :: rest =>
    rw [if_neg (by simp; omega), takePaths, toOption_bind, toOption_takePath h, hwaits]
    cases s.pathGiven with
    | true => rfl
    | false => cases s.account <;> rfl

theorem finishAll_eq {texts : List Bytes} (h : s.Waits) : s.finishAll texts =
    if isLegibleFrom s.pathGiven s.waitsFor texts then
      s.account.bind fun t => (occurrencesFrom s.waitsFor texts).foldlM Account.take t else none := by
  induction texts generalizing s with
  | nil =>
    change s.finish = _
    rw [finish_eq h, isLegibleFrom]
    simp [occurrencesFrom]
  | cons text rest ih =>
    have hstand (t : Account) (waiting : Option Argument) : (s.stand t waiting).finishAll rest =
        if isLegibleFrom s.pathGiven waiting rest then (occurrencesFrom waiting rest).foldlM Account.take t else none := by
      rw [ih (waits_stand t waiting), pathGiven_stand, waitsFor_stand, account_stand, Option.bind_some]
    have hhold (t : Account) (a : Argument) (given : Bool) : (t.hold a text given).finishAll rest =
        if isLegibleFrom given none rest then
          ((a, some text) :: occurrencesFrom none rest).foldlM Account.take t else none := ih (waits_hold t text given)
    rw [finishAll, takeAll_cons, isLegibleFrom, occurrencesFrom]
    cases hform : formOf text with
    | dashes =>
      dsimp only
      obtain ⟨hwaiting, hwaits, -⟩ | ⟨a, hwaiting, hwaits, hpending⟩ := h.cases
      · have hsame : { s with waiting := false } = s := by rw [← hwaiting]
        rw [hsame, finish_takePaths h hwaits, hwaits]
        simp
      · -- the value that is missing is missed with the path or, if there is none, at the end
        rw [hwaits]
        cases rest with
        | nil =>
          change finish _ = _
          rw [finish, settle, hpending]
          rfl
        | cons path rest =>
          rw [takePaths, takePath, settle, hpending]
          cases s.pathGiven <;> rfl
    | long name =>
      simp only [List.foldlM_append]
      rw [toOption_bind, toOption_takeLong h, Option.bind_assoc]
      exact taken_bind fun t => hstand t _
    | short letters =>
      simp only [List.foldlM_append]
      rw [toOption_bind, toOption_takeShort (ne_nil_of_formOf hform) h, Option.bind_assoc]
      exact taken_bind fun t => hstand t _
    | plain =>
      obtain ⟨hwaiting, hwaits, -⟩ | ⟨a, hwaiting, hwaits, hpending⟩ := h.cases
      · rw [hwaits]
        dsimp only
        rw [toOption_bind, toOption_takePath h, hwaits]
        cases s.pathGiven with
        | true => rfl
        | false =>
          cases s.account with
          | none => simp
          | some t => exact hhold t .path true
      · have haccount : s.account = some ⟨s.options, s.met⟩ := by rw [account, hpending]
        rw [hwaits, haccount, Option.isNone_some, Bool.or_false]
        exact hhold ⟨s.options, s.met⟩ a s.pathGiven

end State

def once (met : List Occurrence) : List Argument := (met.map Prod.fst).filter (!·.isRepeatable)

theorem toOption_eq_some_iff {α : Type} {x : Reading α} {a : α} : x.toOption = some a ↔ x = .ok a := by
  cases x <;> simp [Except.toOption]

theorem once_cons (x : Occurrence) (met : List Occurrence) :
    once (x :: met) = if x.1.isRepeatable then once met else x.1 :: once met := by
  rw [once, List.map_cons, List.filter_cons]
  cases x.1.isRepeatable <;> rfl

theorem Account.take_of_isRepeatable {t : Account} {x : Occurrence} (h : x.1.isRepeatable) :
    t.take x = (t.options.set x).toOption.map fun o => { t with options := o } := by
  rw [take, meet, if_pos h]
  rfl

theorem Account.take_of_mem {t : Account} {x : Occurrence} (h : x.1.isRepeatable = false) (hmem : x.1 ∈ t.met) :
    t.take x = none := by
  rw [take, meet, h, if_neg Bool.false_ne_true, if_pos hmem]
  rfl

theorem Account.take_of_notMem {t : Account} {x : Occurrence} (h : x.1.isRepeatable = false) (hmem : x.1 ∉ t.met) :
    t.take x = (t.options.set x).toOption.map fun o => ⟨o, x.1 :: t.met⟩ := by
  rw [take, meet, h, if_neg Bool.false_ne_true, if_neg hmem]
  rfl

/-- An account is kept of occurrences exactly if they can be set and none is met again that may not be. -/
theorem foldlM_take_eq_some_iff {met : List Occurrence} {t t' : Account} (ht : t.met.Nodup) :
    met.foldlM Account.take t = some t' ↔
      met.foldlM Options.set t.options = .ok t'.options ∧ t'.met = (once met).reverse ++ t.met ∧ t'.met.Nodup := by
  obtain ⟨o', m'⟩ := t'
  induction met generalizing t with
  | nil =>
    obtain ⟨o, m⟩ := t
    rw [List.foldlM_nil, List.foldlM_nil]
    constructor
    · intro h
      cases h
      exact ⟨rfl, rfl, ht⟩
    · rintro ⟨ho, hm, -⟩
      cases ho
      cases hm
      rfl
  | cons x met ih =>
    rw [List.foldlM_cons, List.foldlM_cons, once_cons]
    cases hrepeatable : x.1.isRepeatable with
    | true =>
      rw [Account.take_of_isRepeatable hrepeatable]
      cases t.options.set x with
      | error stop => exact ⟨nofun, nofun⟩
      | ok o => exact ih ht
    | false =>
      rw [if_neg Bool.false_ne_true, List.reverse_cons, List.append_assoc, List.singleton_append]
      by_cases hmem : x.1 ∈ t.met
      · rw [Account.take_of_mem hrepeatable hmem]
        refine ⟨nofun, ?_⟩
        rintro ⟨-, hm, hnodup⟩
        rw [hm] at hnodup
        exact absurd hmem (List.nodup_cons.1 (List.nodup_append.1 hnodup).2.1).1
      · rw [Account.take_of_notMem hrepeatable hmem]
        cases t.options.set x with
        | error stop => exact ⟨nofun, nofun⟩
        | ok o => exact ih (List.nodup_cons.2 ⟨hmem, ht⟩)

theorem toOption_parse (arguments : List Bytes) : (parse arguments).toOption =
    if isLegible arguments then ((occurrences arguments).foldlM Account.take {}).map Account.options else none := by
  have hfinish : (parse arguments).toOption = (State.finishAll {} arguments).map Account.options := by
    rw [parse, toOption_bind, State.finishAll, Option.map_bind]
    apply congrArg
    funext s
    rw [toOption_bind, Function.comp, State.finish, Option.map_map]
    cases s.settle <;> rfl
  have hwaits : State.Waits {} := by simp [State.Waits]
  rw [hfinish, State.finishAll_eq hwaits]
  change Option.map _ (if isLegible arguments then _ else _) = _
  split <;> rfl

/-- A command line is read to its end exactly if every text of it says something, every value is one, and no argument is
given twice that may be given once; it means what occurs on it, one after another. -/
theorem parse_eq_ok_iff {arguments : List Bytes} {o : Options} : parse arguments = .ok o ↔
    isLegible arguments ∧ (occurrences arguments).foldlM Options.set {} = .ok o ∧
      (once (occurrences arguments)).Nodup := by
  rw [← toOption_eq_some_iff, toOption_parse]
  cases isLegible arguments with
  | false => simp
  | true =>
    have hnil : ({} : Account).met.Nodup := List.nodup_nil
    rw [if_pos rfl, Option.map_eq_some_iff]
    simp only [foldlM_take_eq_some_iff hnil, List.append_nil, true_and]
    constructor
    · rintro ⟨t, ⟨hset, hmet, hnodup⟩, rfl⟩
      rw [hmet, (List.reverse_perm _).nodup_iff] at hnodup
      exact ⟨hset, hnodup⟩
    · rintro ⟨hset, hnodup⟩
      exact ⟨⟨o, _⟩, ⟨hset, rfl, (List.reverse_perm _).nodup_iff.2 hnodup⟩, rfl⟩

/-- A command line that is read to its end means what occurs on it, one after another. -/
theorem foldlM_set_of_parse {arguments : List Bytes} {o : Options} (h : parse arguments = .ok o) :
    (occurrences arguments).foldlM Options.set {} = .ok o := (parse_eq_ok_iff.1 h).2.1

example : isLegible (["-vo=a", "--json", "-L", "3", "--", "-v"].map Utf8.encode) = true := rfl

end SourceSnapshot.CommandLine
