import SourceSnapshot.Proofs.Artifact.Numbering
import SourceSnapshot.Proofs.Artifact.Writing

/-! A text written with numbered lines. What is appended is cut after each line feed into as many numbered
lines as were counted; they are numbered from 1 without gaps, and without their numbers they are the text
again, byte for byte. -/
namespace SourceSnapshot.Artifact
open SourceSnapshot.Numbering

/-- The written lines are the numbered lines of the text. -/
theorem split_numbered (content : String) :
    Lines.split (numbered content).toList = number content.toList := by
  rw [numbered, String.toList_ofList, split_flatten_number]

/-- Numbers are printed in decimal, in a column of four. -/
theorem rightAligned_width (n : Nat) :
    Numeral.rightAligned width n = (toString n).toList.leftpad 4 ' ' := by
  have hdigits : (toString n).toList = Nat.toDigits 10 n := String.toList_ofList
  rw [Numeral.rightAligned, Numeral.digits, hdigits, width]

/-- In each line that was written the first bar parts its number from a line of the text. -/
theorem exists_line_of_piece {content : String} {i : Nat} {piece : List Char}
    (h : (number content.toList)[i]? = some piece) : ∃ line,
    piece = (toString (i + 1)).toList.leftpad 4 ' ' ++ bar ++ line ∧
      cutAtBar piece = some ((toString (i + 1)).toList.leftpad 4 ' ', line) ∧
      stripNumber? piece = some line := by
  rw [getElem?_number] at h
  obtain ⟨line, -, rfl⟩ := Option.map_eq_some_iff.1 h
  refine ⟨line, ?_, ?_, stripNumber?_numberLine (i + 1) line⟩
  · rw [numberLine, rightAligned_width]
  · rw [cutAtBar_numberLine, rightAligned_width]

/-- The lines of any text are numbered, into a sink that takes them, just as they are: as many are counted as
are written, each stands behind its own number, and together they give the text back. -/
theorem writeNumbered_reversible (content : String) (w : Writer)
    (hfits : w.sink.Fits (Utf8.encode (numbered content)).length) :
    ∃ (text : String) (count : Nat) (w' : Writer) (pieces lines : List (List Char)),
      writeNumbered content w = .ok count w' ∧
      w'.sink.accepted = w.sink.accepted ++ Utf8.encode text ∧
      Lines.IsCut pieces text.toList ∧ pieces.length = count ∧
      count = content.toList.count '\n' +
        (if content = "" ∨ content.toList.getLast? = some '\n' then 0 else 1) ∧
      (∀ i piece, pieces[i]? = some piece → ∃ line,
        piece = (toString (i + 1)).toList.leftpad 4 ' ' ++ bar ++ line ∧
          cutAtBar piece = some ((toString (i + 1)).toList.leftpad 4 ' ', line) ∧
          stripNumber? piece = some line) ∧
      pieces.map stripNumber? = lines.map some ∧ String.ofList lines.flatten = content := by
  obtain ⟨w', hwrite, htook, -⟩ := (writes_writeNumbered content).ok w hfits
  refine ⟨numbered content, _, w', number content.toList, Lines.split content.toList, hwrite,
    htook.accepted, ?_, ?_, ?_, ?_, ?_, ?_⟩
  · exact Lines.isCut_iff.2 (split_numbered content).symm
  · rw [number, List.length_map, List.length_zipIdx]
  · rw [Lines.length_split]
    simp only [Lines.Whole, String.toList_eq_nil_iff]
  · intro i piece hpiece
    exact exists_line_of_piece hpiece
  · exact map_stripNumber?_number content.toList
  · rw [Lines.flatten_split, String.ofList_toList]

/-- A text with bars, digits and a return of its own, and no line feed at its end. -/
theorem writeNumbered_reversible_lookalike :
    Sink.Fits {} (Utf8.encode (numbered "7 | a\r\n\n  2")).length ∧
    ∃ (text : String) (w' : Writer) (pieces lines : List (List Char)),
      writeNumbered "7 | a\r\n\n  2" {} = .ok 3 w' ∧ w'.sink.accepted = Utf8.encode text ∧
      Lines.IsCut pieces text.toList ∧ pieces.length = 3 ∧
      pieces.map stripNumber? = lines.map some ∧ String.ofList lines.flatten = "7 | a\r\n\n  2" := by
  have hfits : Sink.Fits {} (Utf8.encode (numbered "7 | a\r\n\n  2")).length :=
    fun _ hroom => by cases hroom
  obtain ⟨text, count, w', pieces, lines, hwrite, haccepted, hcut, hlength, hcount, -, hstrip, hcontent⟩ :=
    writeNumbered_reversible "7 | a\r\n\n  2" {} hfits
  have hthree : count = 3 := by
    rw [hcount]
    decide
  rw [hthree] at hwrite hlength
  exact ⟨hfits, text, w', pieces, lines, hwrite, haccepted, hcut, hlength, hstrip, hcontent⟩

end SourceSnapshot.Artifact
