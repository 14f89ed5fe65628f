import SourceSnapshot.Artifact.Reader
import SourceSnapshot.Proofs.Artifact.Numbering
import SourceSnapshot.Proofs.Artifact.Writing

/-! An artifact gives back what was written in it. Nothing in the format is escaped: a line of a file
stands behind a number, so it cannot be taken for the line of a header, and what lies between two
headers tells one outcome only. -/
namespace SourceSnapshot.Artifact

def writeArtifact (drawing : Option String) (blocks : List (Path × Outcome)) : Write Unit := do
  writeOpening drawing
  blocks.forM fun (path, outcome) => writeBlock path outcome

theorem writes_writeArtifact (drawing : Option String) (blocks : List (Path × Outcome)) :
    Writes (writeArtifact drawing blocks) (text drawing blocks) () (blocksLines blocks) := by
  have hblocks : Writes (blocks.forM fun (path, outcome) => writeBlock path outcome)
      (blocksText blocks) () (blocksLines blocks) := by
    induction blocks with
    | nil => exact Emits.silent fun w => ⟨w, rfl, rfl, rfl⟩
    | cons b blocks ih =>
      rw [blocksText, List.map_cons, String.join_cons, blocksLines, List.map_cons, List.sum_cons]
      exact (writes_writeBlock b.1 b.2).seq ih
  have h := (writes_writeOpening drawing).seq hblocks
  rw [Nat.zero_add] at h
  exact h

theorem between?_eq_some_iff {front back s mid : List Char} :
    between? front back s = some mid ↔ s = front ++ (mid ++ back) := by
  unfold between?
  constructor
  · intro h
    split at h
    · rename_i hfront
      obtain ⟨rest, rfl⟩ := List.isPrefixOf_iff_prefix.1 hfront
      simp only [List.drop_left] at h
      split at h
      · rename_i hback
        obtain ⟨start, rfl⟩ := List.isSuffixOf_iff_suffix.1 hback
        simp only [List.length_append, Nat.add_sub_cancel, List.take_left, Option.some.injEq] at h
        rw [h]
      · cases h
    · cases h
  · rintro rfl
    have hfront : front.isPrefixOf (front ++ (mid ++ back)) :=
      List.isPrefixOf_iff_prefix.2 (List.prefix_append _ _)
    have hback : back.isSuffixOf (mid ++ back) :=
      List.isSuffixOf_iff_suffix.2 (List.suffix_append _ _)
    simp [hfront, hback]

/-! Which lines are the lines of headers. -/

private theorem headerStart_toList : headerStart.toList =
    ['/', '/', ' ', '=', '=', '=', '=', '=', '=', ' ', 'F', 'I', 'L', 'E', ':', ' '] := rfl

def headerLine (path : String) : List Char :=
  headerStart.toList ++ (path.toList ++ (headerEnd ++ "\n").toList)

theorem headerPath?_headerLine (path : String) : headerPath? (headerLine path) = some path.toList :=
  between?_eq_some_iff.2 rfl

private theorem headerPath?_eq_none {line : List Char} (h : ¬ headerStart.toList <+: line) :
    headerPath? line = none := by
  cases hpath : headerPath? line with
  | none => rfl
  | some path => exact absurd (between?_eq_some_iff.1 hpath ▸ List.prefix_append _ _) h

private theorem not_header_of_head? {line : List Char} {c : Char} (h : line.head? = some c)
    (hc : c ≠ '/') : ¬ headerStart.toList <+: line := by
  obtain ⟨rest, rfl⟩ := List.head?_eq_some_iff.1 h
  rw [headerStart_toList, List.cons_prefix_cons]
  exact fun hp => hc hp.1.symm

private theorem headerPath?_newline : headerPath? ['\n'] = none :=
  headerPath?_eq_none (not_header_of_head? rfl (by decide))

/-- A text that holds the line of no header. -/
def Headless (s : List Char) : Prop := ∀ line ∈ Lines.split s, ¬ headerStart.toList <+: line

private theorem headless_newlines (n : Nat) : Headless (List.replicate n '\n') := by
  induction n with
  | zero => exact fun line hline => absurd hline List.not_mem_nil
  | succ n ih =>
    intro line hline
    rw [List.replicate_succ, ← List.nil_append ('\n' :: _),
      Lines.split_line_append List.not_mem_nil] at hline
    rcases List.mem_cons.1 hline with rfl | hline
    · exact not_header_of_head? rfl (by decide)
    · exact ih line hline

private theorem headless_line_append {line s : List Char} (h : '\n' ∉ line) :
    Headless (line ++ '\n' :: s) ↔ ¬ headerStart.toList <+: line ++ ['\n'] ∧ Headless s := by
  rw [Headless, Lines.split_line_append h, List.forall_mem_cons, Headless]

/-- Empty lines after a text add no line of a header, nor does the end that they give to its last. -/
private theorem Headless.append_newlines {s : List Char} (h : Headless s) (n : Nat) :
    Headless (s ++ List.replicate n '\n') := by
  induction s using Lines.lineInduction with
  | nil => exact headless_newlines n
  | last line hne hline =>
    cases n with
    | zero => rwa [List.replicate_zero, List.append_nil]
    | succ n =>
      rw [List.replicate_succ, headless_line_append hline]
      refine ⟨fun hp => ?_, headless_newlines n⟩
      rcases List.prefix_concat_iff.1 hp with he | hp
      · have hmem : '\n' ∈ headerStart.toList := he ▸ List.mem_append_right _ List.mem_cons_self
        exact absurd hmem (by decide)
      · exact h line (by simp [Lines.split_of_notMem hne hline]) hp
  | cons line rest hline ih =>
    rw [headless_line_append hline] at h
    rw [List.append_assoc, List.cons_append, headless_line_append hline]
    exact ⟨h.1, ih h.2⟩

private theorem headless_opening {drawing : Option String} (h : ∀ d ∈ drawing, Headless d.toList) :
    Headless (opening drawing).toList := by
  have hshown : Headless (drawing.getD missingDrawing).toList := by
    cases drawing with
    | none =>
      have hsplit : Lines.split missingDrawing.toList = [missingDrawing.toList] :=
        Lines.split_of_notMem (by decide) (by decide)
      intro line hline
      rw [Option.getD_none, hsplit, List.mem_singleton] at hline
      have hhead : line.head? = some '#' := by rw [hline]; decide
      exact not_header_of_head? hhead (by decide)
    | some d => exact h d rfl
  rw [opening, String.toList_append, String.toList_append, String.toList_append, List.append_assoc,
    List.append_assoc]
  have hbanner : ¬ headerStart.toList <+: banner.toList ++ ['\n'] :=
    not_header_of_head? (c := '=') (by decide) (by decide)
  have hline : '\n' ∉ banner.toList := by decide
  exact (headless_line_append hline).2 ⟨hbanner, hshown.append_newlines 2⟩

private theorem headless_numbered (content : String) : Headless (numbered content).toList := by
  intro line hline
  rw [numbered, String.toList_ofList, Numbering.split_flatten_number] at hline
  obtain ⟨⟨text, n⟩, -, rfl⟩ := List.mem_map.1 hline
  obtain ⟨c, hc, hblank | hdigit⟩ := Numbering.head?_numberLine n text
  · exact not_header_of_head? hc (hblank ▸ by decide)
  · exact not_header_of_head? hc (by rintro rfl; exact absurd hdigit (by decide))

private theorem headless_notice {notice : String} {c : Char} (h : '\n' ∉ notice.toList)
    (hbegin : ['/', '/', ' ', c] <+: notice.toList) (hc : c ≠ '=') :
    Headless (notice ++ "\n").toList := by
  rw [String.toList_append]
  refine (headless_line_append h).2 ⟨?_, headless_newlines 0⟩
  obtain ⟨rest, hrest⟩ := hbegin
  rw [← hrest, headerStart_toList]
  simp only [List.cons_append, List.cons_prefix_cons, true_and, not_and]
  exact fun he => absurd he.symm hc

private theorem binaryNotice_eq (path : String) :
    binaryNotice path = "// Binary file skipped: " ++ path ++ "\n" := rfl

private theorem errorNotice_eq (path message : String) : errorNotice path message =
    "// Error reading file: " ++ path ++ ": " ++ message ++ "\n" := rfl

/-- A body holds the line of no header, even if the file does. -/
private theorem headless_body {path : String} {outcome : Outcome} (h : '\n' ∉ path.toList)
    (hm : ∀ message, outcome = .unreadable message → '\n' ∉ message.toList) :
    Headless (body (.ofString path) outcome).toList := by
  have hpath : (Path.ofString path).display = path := Utf8.decodeLossy_encode path
  cases outcome with
  | included content => exact headless_numbered content
  | binary =>
    have hstart : '\n' ∉ "// Binary file skipped: ".toList := by decide
    rw [body, hpath, binaryNotice_eq]
    refine headless_notice (c := 'B') ?_ ?_ (by decide)
    · simp only [String.toList_append, List.mem_append, h, hstart, or_self, not_false_eq_true]
    · rw [String.toList_append]
      exact List.prefix_append_of_prefix (by decide)
  | unreadable message =>
    have hstart : '\n' ∉ "// Error reading file: ".toList := by decide
    have hcolon : '\n' ∉ ": ".toList := by decide
    rw [body, hpath, errorNotice_eq]
    refine headless_notice (c := 'E') ?_ ?_ (by decide)
    · simp only [String.toList_append, List.mem_append, h, hm message rfl, hstart, hcolon, or_self,
        not_false_eq_true]
    · rw [String.toList_append, String.toList_append, String.toList_append]
      exact List.prefix_append_of_prefix (List.prefix_append_of_prefix
        (List.prefix_append_of_prefix (by decide)))

/-! What a body tells. -/

private theorem stripNumber?_slash (rest : List Char) : Numbering.stripNumber? ('/' :: rest) = none := by
  cases h : Numbering.cutAtBar rest with
  | none => simp [Numbering.stripNumber?, Numbering.cutAtBar, h]
  | some parts =>
    have hslash : Blank.isBlank '/' = false := by decide
    simp [Numbering.stripNumber?, Numbering.cutAtBar, h, Blank.trimStart, hslash]

private theorem outcomeOfBody?_slash (path : String) (rest : List Char) :
    outcomeOfBody? path ('/' :: rest) =
      if '/' :: rest = (binaryNotice path).toList then some .binary
      else (between? (errorNoticeStart path).toList ['\n'] ('/' :: rest)).map fun message =>
        .unreadable (String.ofList message) := by
  obtain ⟨line, hline⟩ := Lines.head?_split_cons '/' rest
  simp only [outcomeOfBody?, hline, Option.all_some, stripNumber?_slash]
  rfl

private theorem outcomeOfBody?_numbered (path content : String) :
    outcomeOfBody? path (numbered content).toList = some (.included content) := by
  have hstrip : (Numbering.number content.toList).mapM Numbering.stripNumber? =
      some (Lines.split content.toList) :=
    Utf8.mapM_eq_some_iff.2 (Numbering.map_stripNumber?_number _)
  have hhead : (Numbering.number content.toList).head?.all fun line =>
      (Numbering.stripNumber? line).isSome := by
    cases h : Numbering.number content.toList with
    | nil => rfl
    | cons line rest =>
      have hmap := Numbering.map_stripNumber?_number content.toList
      rw [h, List.map_cons] at hmap
      cases hs : Lines.split content.toList with
      | nil => simp [hs] at hmap
      | cons text texts =>
        rw [hs, List.map_cons, List.cons.injEq] at hmap
        simp [hmap.1]
  simp only [outcomeOfBody?, numbered, String.toList_ofList, Numbering.split_flatten_number, hhead,
    if_true, hstrip, Option.map_some, Lines.flatten_split, String.ofList_toList]

private theorem binaryNotice_toList (path : String) :
    ∃ rest, (binaryNotice path).toList = '/' :: '/' :: ' ' :: 'B' :: rest := by
  rw [binaryNotice_eq, String.toList_append, String.toList_append]
  exact ⟨_, rfl⟩

private theorem errorNotice_toList (path message : String) :
    ∃ rest, (errorNotice path message).toList = '/' :: '/' :: ' ' :: 'E' :: rest := by
  rw [errorNotice_eq, String.toList_append, String.toList_append, String.toList_append,
    String.toList_append]
  exact ⟨_, rfl⟩

/-- A body tells the outcome that it was written for. -/
theorem outcomeOfBody?_body (path : String) (outcome : Outcome) :
    outcomeOfBody? path (body (.ofString path) outcome).toList = some outcome := by
  have hpath : (Path.ofString path).display = path := Utf8.decodeLossy_encode path
  obtain ⟨afterB, hbinary⟩ := binaryNotice_toList path
  cases outcome with
  | included content => exact outcomeOfBody?_numbered path content
  | binary => rw [body, hpath, hbinary, outcomeOfBody?_slash, if_pos hbinary.symm]
  | unreadable message =>
    obtain ⟨afterE, herror⟩ := errorNotice_toList path message
    have hne : (errorNotice path message).toList ≠ (binaryNotice path).toList := by
      simp [herror, hbinary]
    have hbetween : between? (errorNoticeStart path).toList ['\n'] (errorNotice path message).toList =
        some message.toList := by
      rw [between?_eq_some_iff, ← List.append_assoc]
      exact (String.toList_append ..).trans (congrArg (· ++ "\n".toList) (String.toList_append ..))
    rw [herror] at hne hbetween
    rw [body, hpath, herror, outcomeOfBody?_slash, if_neg hne, hbetween, Option.map_some,
      String.ofList_toList]

/-! The lines of an artifact, and the sections between the headers. -/

private theorem text_toList (drawing : Option String) (blocks : List (Path × Outcome)) :
    (text drawing blocks).toList = (opening drawing).toList ++
      blocks.flatMap fun b => (block b.1 b.2).toList := by
  rw [text, String.toList_append, String.toList_join, List.flatMap_map]

private theorem cutAtHeaders_append {front : List (List Char)}
    (h : ∀ line ∈ front, headerPath? line = none)
    (rest : List (List Char)) :
    cutAtHeaders (front ++ rest) = (front ++ (cutAtHeaders rest).1, (cutAtHeaders rest).2) := by
  induction front with
  | nil => rfl
  | cons line front ih =>
    rw [List.forall_mem_cons] at h
    rw [List.cons_append, cutAtHeaders, ih h.2, h.1]
    rfl

private theorem cutAtHeaders_headerLine (path : String) (rest : List (List Char)) :
    cutAtHeaders (headerLine path :: rest) =
      ([], (path.toList, (cutAtHeaders rest).1) :: (cutAtHeaders rest).2) := by
  rw [cutAtHeaders, headerPath?_headerLine]

private def tail (b : String × Outcome) : List Char :=
  (body (.ofString b.1) b.2).toList ++ separator.toList

private def blockLines (b : String × Outcome) : List (List Char) :=
  ['\n'] :: headerLine b.1 :: ['\n'] :: Lines.split (tail b)

private theorem whole_tail (b : String × Outcome) : Lines.Whole (tail b) :=
  .inr (by rw [tail, List.getLast?_append]; rfl)

private theorem block_toList (b : String × Outcome) : (block (.ofString b.1) b.2).toList =
    '\n' :: (headerLine b.1 ++ '\n' :: tail b) := by
  have hpath : (Path.ofString b.1).display = b.1 := Utf8.decodeLossy_encode b.1
  rw [block, header, hpath, tail, headerLine]
  simp only [String.toList_append, List.append_assoc]
  rfl

private theorem split_headerLine_append {path : String} (h : '\n' ∉ path.toList) (rest : List Char) :
    Lines.split (headerLine path ++ rest) = headerLine path :: Lines.split rest := by
  have hstart : '\n' ∉ headerStart.toList := by decide
  have hend : '\n' ∉ headerEnd.toList := by decide
  have hline : '\n' ∉ headerStart.toList ++ (path.toList ++ headerEnd.toList) := by
    simp only [List.mem_append, hstart, h, hend, or_self, not_false_eq_true]
  have hshape : headerLine path = headerStart.toList ++ (path.toList ++ headerEnd.toList) ++ ['\n'] := by
    rw [headerLine, String.toList_append, List.append_assoc, List.append_assoc]
    rfl
  rw [hshape, List.append_assoc, List.singleton_append, Lines.split_line_append hline]

private theorem split_block_append {b : String × Outcome} (h : '\n' ∉ b.1.toList) (rest : List Char) :
    Lines.split ((block (.ofString b.1) b.2).toList ++ rest) = blockLines b ++ Lines.split rest := by
  have hempty (s : List Char) : Lines.split ('\n' :: s) = ['\n'] :: Lines.split s := rfl
  rw [block_toList, List.cons_append, List.append_assoc, List.cons_append, hempty,
    split_headerLine_append h, hempty, Lines.split_append (whole_tail b)]
  rfl

private theorem split_blocks {blocks : List (String × Outcome)} (h : ∀ b ∈ blocks, '\n' ∉ b.1.toList) :
    Lines.split (blocks.flatMap fun b => (block (.ofString b.1) b.2).toList) =
      blocks.flatMap blockLines := by
  induction blocks with
  | nil => rfl
  | cons b blocks ih =>
    rw [List.forall_mem_cons] at h
    rw [List.flatMap_cons, split_block_append h.1, ih h.2, List.flatMap_cons]

private def sections : List (String × Outcome) → List (List Char × List (List Char))
  | [] => []
  | b :: rest => (b.1.toList, ['\n'] :: Lines.split (tail b) ++ if rest.isEmpty then [] else [['\n']]) ::
      sections rest

/-- The blocks of an artifact can be told apart: no path and no message has a line feed of its own. -/
def Plain (b : String × Outcome) : Prop :=
  '\n' ∉ b.1.toList ∧ ∀ message, b.2 = .unreadable message → '\n' ∉ message.toList

private theorem headless_tail {b : String × Outcome} (h : Plain b) : Headless (tail b) :=
  (headless_body h.1 h.2).append_newlines 2

private theorem cutAtHeaders_blocks {blocks : List (String × Outcome)} (h : ∀ b ∈ blocks, Plain b) :
    cutAtHeaders (blocks.flatMap blockLines) =
      (if blocks.isEmpty then [] else [['\n']], sections blocks) := by
  induction blocks with
  | nil => rfl
  | cons b blocks ih =>
    rw [List.forall_mem_cons] at h
    have htail : ∀ line ∈ ['\n'] :: Lines.split (tail b), headerPath? line = none := by
      rw [List.forall_mem_cons]
      exact ⟨headerPath?_newline, fun line hline => headerPath?_eq_none (headless_tail h.1 line hline)⟩
    have hshape : (b :: blocks).flatMap blockLines =
        [['\n']] ++ headerLine b.1 :: (['\n'] :: Lines.split (tail b) ++ blocks.flatMap blockLines) := rfl
    rw [hshape, cutAtHeaders_append (by simpa using headerPath?_newline), cutAtHeaders_headerLine,
      cutAtHeaders_append htail, ih h.2]
    rfl

private theorem isEmpty_sections (blocks : List (String × Outcome)) :
    (sections blocks).isEmpty = blocks.isEmpty := by
  cases blocks <;> rfl

private theorem readSections_sections (blocks : List (String × Outcome)) :
    readSections (sections blocks) = some blocks := by
  induction blocks with
  | nil => rfl
  | cons b blocks ih =>
    have hbetween : between? ['\n'] (separator.toList ++ if blocks.isEmpty then [] else ['\n'])
        (['\n'] :: Lines.split (tail b) ++ if blocks.isEmpty then [] else [['\n']]).flatten =
          some (body (.ofString b.1) b.2).toList := by
      rw [between?_eq_some_iff, List.flatten_append, List.flatten_cons, Lines.flatten_split, tail]
      cases blocks.isEmpty <;> simp
    simp only [sections, readSections, isEmpty_sections, String.ofList_toList, hbetween,
      outcomeOfBody?_body, ih, Option.bind_eq_bind, Option.bind_some, Option.pure_def]

private theorem whole_opening (drawing : Option String) : Lines.Whole (opening drawing).toList :=
  .inr (by rw [opening, String.toList_append, List.getLast?_append]; rfl)

private theorem split_text (drawing : Option String) {blocks : List (String × Outcome)}
    (h : ∀ b ∈ blocks, Plain b) :
    Lines.split (text drawing (blocks.map fun b => (.ofString b.1, b.2))).toList =
      Lines.split (opening drawing).toList ++ blocks.flatMap blockLines := by
  rw [text_toList, List.flatMap_map, Lines.split_append (whole_opening drawing),
    split_blocks fun b hb => (h b hb).1]

private theorem filterMap_headerPath?_of_headless {lines : List (List Char)}
    (h : ∀ line ∈ lines, ¬ headerStart.toList <+: line) : lines.filterMap headerPath? = [] :=
  List.filterMap_eq_nil_iff.2 fun line hline => headerPath?_eq_none (h line hline)

private theorem filterMap_headerPath?_blocks {blocks : List (String × Outcome)}
    (h : ∀ b ∈ blocks, Plain b) :
    (blocks.flatMap blockLines).filterMap headerPath? = blocks.map (·.1.toList) := by
  induction blocks with
  | nil => rfl
  | cons b blocks ih =>
    rw [List.forall_mem_cons] at h
    rw [List.flatMap_cons, List.filterMap_append, ih h.2, blockLines,
      List.filterMap_cons_none headerPath?_newline, List.filterMap_cons_some (headerPath?_headerLine b.1),
      List.filterMap_cons_none headerPath?_newline,
      filterMap_headerPath?_of_headless (headless_tail h.1)]
    rfl

/-- The lines of headers in an artifact are those of its blocks. -/
theorem filterMap_headerPath?_text {drawing : Option String} {blocks : List (String × Outcome)}
    (hdrawing : ∀ d ∈ drawing, Headless d.toList) (hplain : ∀ b ∈ blocks, Plain b) :
    (Lines.split (text drawing (blocks.map fun b => (.ofString b.1, b.2))).toList).filterMap headerPath? =
      blocks.map (·.1.toList) := by
  rw [split_text drawing hplain, List.filterMap_append,
    filterMap_headerPath?_of_headless (headless_opening hdrawing), filterMap_headerPath?_blocks hplain,
    List.nil_append]

theorem read?_text {drawing : Option String} {blocks : List (String × Outcome)}
    (hdrawing : ∀ d ∈ drawing, Headless d.toList) (hplain : ∀ b ∈ blocks, Plain b) :
    read? (text drawing (blocks.map fun b => (.ofString b.1, b.2))) = some blocks := by
  have hopening : ∀ line ∈ Lines.split (opening drawing).toList, headerPath? line = none :=
    fun line hline => headerPath?_eq_none (headless_opening hdrawing line hline)
  rw [read?, split_text drawing hplain, cutAtHeaders_append hopening, cutAtHeaders_blocks hplain]
  exact readSections_sections blocks

/-- An artifact gives back the paths in its headers and, from the text between one header and the
next, the outcome of each file. Files may hold what looks like a header, a bar, a notice or an empty
line, and may end without a line feed; only a path, a reason and the drawing must not. -/
theorem read?_writeArtifact (drawing : Option String) (blocks : List (String × Outcome))
    (hdrawing : ∀ d ∈ drawing, ∀ line ∈ Lines.split d.toList, ¬ headerStart.toList <+: line)
    (hpaths : ∀ b ∈ blocks, '\n' ∉ b.1.toList)
    (hreasons : ∀ b ∈ blocks, ∀ message, b.2 = .unreadable message → '\n' ∉ message.toList) :
    ∃ w artifact,
      writeArtifact drawing (blocks.map fun b => (.ofString b.1, b.2)) {} = .ok () w ∧
      w.sink.accepted = Utf8.encode artifact ∧
      (Lines.split artifact.toList).filterMap headerPath? = blocks.map (·.1.toList) ∧
      read? artifact = some blocks := by
  have hplain : ∀ b ∈ blocks, Plain b := fun b hb => ⟨hpaths b hb, hreasons b hb⟩
  obtain ⟨w, hw, htook, -⟩ := (writes_writeArtifact drawing
    (blocks.map fun b => (.ofString b.1, b.2))).ok {} (fun _ hr => by cases hr)
  exact ⟨w, _, hw, htook.accepted, filterMap_headerPath?_text hdrawing hplain,
    read?_text hdrawing hplain⟩

/-- A drawing, a path with a bar, and files that look like other parts of an artifact. -/
theorem read?_writeArtifact_lookalikes :
    ∃ w artifact,
      writeArtifact (some ".\n└── a | b.go\n") [
        (.ofString "a | b.go", .included "\n// ====== FILE: c.go ======\n\n   1 | x\r\n\n"),
        (.ofString "c.go", .included ""),
        (.ofString "c.go", .included "   1 | y"),
        (.ofString "c.go", .binary),
        (.ofString "d.go", .unreadable "// Binary file skipped: d.go")] {} = .ok () w ∧
      w.sink.accepted = Utf8.encode artifact ∧
      (Lines.split artifact.toList).filterMap headerPath? =
        ["a | b.go".toList, "c.go".toList, "c.go".toList, "c.go".toList, "d.go".toList] ∧
      read? artifact = some [
        ("a | b.go", .included "\n// ====== FILE: c.go ======\n\n   1 | x\r\n\n"),
        ("c.go", .included ""),
        ("c.go", .included "   1 | y"),
        ("c.go", .binary),
        ("d.go", .unreadable "// Binary file skipped: d.go")] :=
  read?_writeArtifact (some ".\n└── a | b.go\n") [
    ("a | b.go", .included "\n// ====== FILE: c.go ======\n\n   1 | x\r\n\n"),
    ("c.go", .included ""),
    ("c.go", .included "   1 | y"),
    ("c.go", .binary),
    ("d.go", .unreadable "// Binary file skipped: d.go")]
    (by
      intro d hd
      obtain rfl := Option.some.inj hd
      decide)
    (by decide)
    (by
      intro b hb message hm
      simp only [List.mem_cons, List.not_mem_nil, or_false] at hb
      rcases hb with rfl | rfl | rfl | rfl | rfl <;> first | cases hm
      all_goals decide)

end SourceSnapshot.Artifact
