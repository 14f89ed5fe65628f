import SourceSnapshot.CommandLine.Run

/-! The codes in the message about a run. They stand around the pieces that have a style, and without them the message is
the one that is printed where no colour is wanted. Whether colour is wanted is not all that counts: no code is written
unless the environment allows any. -/
namespace SourceSnapshot

/-- Colour is wanted if it is asked for, or if nothing is said about it and the environment or the terminal speaks for
it. -/
theorem ColorMode.wanted_iff {mode : ColorMode} {e : Environment} {terminal : Bool} : mode.wanted e terminal ↔
    mode = .always ∨
      mode = .auto ∧ e.noColor = none ∧ (e.forceColor ≠ none ∨ e.term ≠ some Environment.dumb ∧ terminal) := by
  cases mode <;> simp [wanted, Option.isSome_iff_ne_none]

theorem Environment.allowsCodes_iff {e : Environment} :
    e.allowsCodes ↔ e.term ≠ none ∧ e.term ≠ some dumb ∧ e.noColor = none := by
  simp [allowsCodes, Option.isSome_iff_ne_none, and_assoc]

namespace Summary

def codes : List String := [resetCode, Style.bold.code, Style.green.code, Style.yellow.code]

/-- A part of what is printed: a code, or a text of its own. -/
inductive Part
  | code (c : String)
  | text (t : String)

def Part.printed : Part → String
  | code c => c
  | text t => t

/-- What is left of a part without the codes. -/
def Part.bare : Part → String
  | code _ => ""
  | text t => t

def Span.parts (colored : Bool) (s : Span) : List Part :=
  if colored && s.style != .plain then
    [.code resetCode, .code s.style.code, .text s.text, .code resetCode]
  else [.text s.text]

theorem Span.join_printed (colored : Bool) (s : Span) :
    String.join ((s.parts colored).map Part.printed) = s.render colored := by
  rw [parts, render]
  split
  · simp [Part.printed, String.append_assoc]
  · simp [Part.printed]

theorem Span.join_bare (colored : Bool) (s : Span) : String.join ((s.parts colored).map Part.bare) = s.text := by
  rw [parts]
  split
  · simp [Part.bare]
  · simp [Part.bare]

theorem Span.mem_codes {colored : Bool} {s : Span} {c : String} (h : .code c ∈ s.parts colored) : c ∈ codes := by
  rw [parts] at h
  split at h
  · have hc : c = resetCode ∨ c = s.style.code := by simpa [or_comm, or_left_comm] using h
    rcases hc with rfl | rfl
    · exact List.mem_cons_self
    · rename_i hstyle
      cases hs : s.style with
      | plain => simp [hs] at hstyle
      | _ => decide
  · simp at h

variable (s : Summary)

def parts (colored : Bool) : List Part := s.spans.flatMap (Span.parts colored)

theorem join_map_parts {f : Part → String} {g : Span → String} {colored : Bool}
    (h : ∀ span : Span, String.join ((span.parts colored).map f) = g span) :
    String.join ((s.parts colored).map f) = String.join (s.spans.map g) := by
  rw [parts]
  induction s.spans with
  | nil => rfl
  | cons span rest ih =>
    rw [List.flatMap_cons, List.map_append, String.join_append, h, ih, List.map_cons, String.join_cons]

theorem report_eq (color : Bool) (e : Environment) :
    s.report color e = String.join ((s.parts (color && e.allowsCodes)).map Part.printed) :=
  (s.join_map_parts (Span.join_printed _)).symm

/-- Where no colour is wanted, the message is the same in any environment. -/
theorem report_false (colored : Bool) (e : Environment) :
    s.report false e = String.join ((s.parts colored).map Part.bare) := by
  rw [s.join_map_parts (Span.join_bare colored), report]
  apply congrArg
  apply List.map_congr_left
  intro span _
  rfl

/-- The message begins with a piece that has a style. -/
theorem exists_code_mem_iff {colored : Bool} : (∃ c, .code c ∈ s.parts colored) ↔ colored := by
  constructor
  · rintro ⟨c, hc⟩
    obtain ⟨span, -, hc⟩ := List.mem_flatMap.1 hc
    cases colored with
    | true => rfl
    | false => simp [Span.parts] at hc
  · intro hcolored
    refine ⟨resetCode, List.mem_flatMap.2 ⟨⟨.bold, "Project code collected into: "⟩, ?_, ?_⟩⟩
    · simp [spans]
    · simp [Span.parts, hcolored]

end Summary

namespace CommandLine
open Summary

/-- A message is the message without colour with codes put into it. There are any exactly if colour is wanted
and, besides, the terminal has a name that is not `dumb` and nothing is said against colour. -/
theorem printed_codes_iff {o : Options} (hjson : o.json = false) (e : Environment) (terminal : Bool) (s : Summary) :
    (o.color.wanted e terminal ↔ o.color = .always ∨ o.color = .auto ∧ e.noColor = none ∧
      (e.forceColor ≠ none ∨ e.term ≠ some Environment.dumb ∧ terminal)) ∧
    ∃ parts : List Part, printed o e terminal s = .ok (String.join (parts.map Part.printed)) ∧
      (∀ e' terminal', printed { o with color := .never } e' terminal' s =
        .ok (String.join (parts.map Part.bare))) ∧
      (∀ c, .code c ∈ parts → c ∈ codes) ∧
      ((∃ c, .code c ∈ parts) ↔ o.color.wanted e terminal ∧
        e.term ≠ none ∧ e.term ≠ some Environment.dumb ∧ e.noColor = none) := by
  refine ⟨ColorMode.wanted_iff, s.parts (o.color.wanted e terminal && e.allowsCodes), ?_, ?_, ?_, ?_⟩
  · simp [printed, hjson, report_eq]
  · intro e' terminal'
    simp only [printed, hjson, Bool.false_eq_true, if_false, ColorMode.wanted]
    rw [report_false]
  · intro c hc
    obtain ⟨span, -, hc⟩ := List.mem_flatMap.1 hc
    exact Span.mem_codes hc
  · rw [exists_code_mem_iff, Bool.and_eq_true, Environment.allowsCodes_iff]

def xterm : Bytes := "xterm".toUTF8.toList

/-- On such a terminal, of which the output is none, colour that is asked for is printed, with all pieces of the
message. -/
theorem printed_codes_iff_xterm : ({ color := .always } : Options).json = false ∧
    ∃ parts : List Part,
      printed { color := .always } { term := some xterm } false { included := 1500, skippedBinary := 1 } =
        .ok (String.join (parts.map Part.printed)) ∧
      printed { color := .never } {} true { included := 1500, skippedBinary := 1 } =
        .ok (String.join (parts.map Part.bare)) ∧
      ∃ c ∈ codes, .code c ∈ parts := by
  obtain ⟨-, parts, hprinted, hbare, hcodes, hiff⟩ := printed_codes_iff (o := { color := .always }) rfl
    { term := some xterm } false { included := 1500, skippedBinary := 1 }
  obtain ⟨c, hc⟩ := hiff.2 ⟨rfl, by simp, by decide +kernel, rfl⟩
  exact ⟨rfl, parts, hprinted, hbare {} true, c, hcodes c hc, hc⟩

/-- Colour is wanted, and what is printed is the plain text all the same. -/
def Withheld (mode : ColorMode) (e : Environment) (terminal : Bool) (s : Summary) : Prop :=
  mode.wanted e terminal ∧ printed { color := mode } e terminal s = printed { color := .never } {} terminal s

/-- Where the environment allows no codes, it does not count that colour is wanted. -/
theorem withheld_of_not_allowsCodes {mode : ColorMode} {e : Environment} {terminal : Bool}
    (hwanted : mode.wanted e terminal) (h : e.allowsCodes = false) (s : Summary) : Withheld mode e terminal s := by
  have hreport : s.report (mode.wanted e terminal) e = s.report false {} := by
    rw [report_eq, report_eq, h, Bool.and_false, Bool.false_and]
  refine ⟨hwanted, ?_⟩
  simp only [printed, Bool.false_eq_true, if_false, hreport]
  rfl

/-- Colour that is asked for is left out where the terminal has no name, or where something is said against colour; and
so is colour that is forced on a terminal without a name. -/
theorem printed_plain_of_wanted :
    Withheld .always {} true { included := 1 } ∧
    Withheld .always { term := some xterm, noColor := some [0x31] } true { included := 1 } ∧
    Withheld .auto { forceColor := some [0x31] } true { included := 1 } := by
  refine ⟨withheld_of_not_allowsCodes rfl rfl _, withheld_of_not_allowsCodes rfl ?_ _,
    withheld_of_not_allowsCodes rfl rfl _⟩
  exact Bool.and_false _

end CommandLine
end SourceSnapshot
