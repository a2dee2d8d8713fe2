import JumpArrows.Proofs.Decorations
import JumpArrows.Proofs.Segments

/-! # The lines of an annotated text

Cut at its line feeds, an annotated text has as many segments as the text itself, and each of them
is a segment of the text behind its decoration, without the carriage returns at its end. The number
of lines is kept with one exception: a text can end in a line of carriage returns alone, and
without them nothing is left of that line. -/

namespace JumpArrows

/-! ## Records of a text -/

namespace Record

variable {l : List Char}

theorem raw_ofLine (h : '\n' ∉ l) : (ofLine l).raw.toList = Text.dropEndWhile (· == '\r') l := by
  rw [ofLine, String.toList_ofList, Text.dropEndWhile_isLineEnd h]

theorem ofLine_dropReturn (l : List Char) : ofLine (Text.dropReturn l) = ofLine l := by
  rw [ofLine, ofLine, Text.dropEndWhile_dropReturn]

/-- A line of carriage returns alone is passed through. -/
theorem kind_of_returns (h : ∀ c ∈ l, c = '\r') : (ofLine l).kind = .other := by
  have hnone : Text.dropEndWhile Text.isLineEnd l = [] := by
    rw [Text.dropEndWhile_eq_nil_iff]
    intro c hc
    rw [h c hc]
    rfl
  rw [ofLine, hnone]
  decide

/-- The records are those of the lines, and of the rest if there is one. -/
theorem ofText_of_cut {text : String} {ls : List (List Char)} {r : List Char}
    (hls : ∀ l ∈ ls, '\n' ∉ l) (hr : '\n' ∉ r) (htext : text.toList = Text.unlines ls ++ r) :
    ofText text = (ls ++ if r.isEmpty then [] else [r]).map ofLine := by
  rw [ofText, htext, Text.lines_unlines_append hls hr, List.map_append, List.map_append,
    List.map_map]
  congr 1
  exact List.map_congr_left fun l _ => ofLine_dropReturn l

end Record

/-! ## Segments -/

/-- The text in front of a record; behind the last record there is none. -/
def decorationAt (lines : List DecoratedLine) (i : ℕ) : List Char :=
  (lines[i]?.elim "" DecoratedLine.decoration).toList

def annotatedSegment (lines : List DecoratedLine) (i : ℕ) (segment : List Char) : List Char :=
  decorationAt lines i ++ Text.dropEndWhile (· == '\r') segment

theorem texts_eq_mapIdx {lines : List DecoratedLine} {segments : List (List Char)}
    (hrecords : lines.map DecoratedLine.record = segments.map Record.ofLine)
    (hsegments : ∀ s ∈ segments, '\n' ∉ s) :
    lines.map (·.text.toList) = segments.mapIdx (annotatedSegment lines) := by
  have hlength : lines.length = segments.length := by
    simpa using congrArg List.length hrecords
  apply List.ext_getElem
  · rw [List.length_map, List.length_mapIdx, hlength]
  · intro i hi hi'
    rw [List.length_map] at hi
    rw [List.length_mapIdx] at hi'
    have hrecord : lines[i].record = .ofLine segments[i] := by
      simpa [hi, hi'] using congrArg (·[i]?) hrecords
    have hraw := Record.raw_ofLine (hsegments _ (List.getElem_mem hi'))
    rw [← hrecord] at hraw
    simp [annotatedSegment, decorationAt, DecoratedLine.text, hraw, hi]

section Decorated

variable {config : Config} {records : List Record} {i : ℕ}

theorem decorationAt_of_length_le (h : records.length ≤ i) :
    decorationAt (decorate config records) i = [] := by
  rw [decorationAt, List.getElem?_eq_none (length_decorate config records ▸ h)]
  rfl

theorem decorationAt_of_other {record : Record} (h : records[i]? = some record)
    (hkind : record.kind = .other) : decorationAt (decorate config records) i = [] := by
  rw [decorationAt]
  cases hline : (decorate config records)[i]? with
  | none => rfl
  | some line =>
    have hrecord := getElem?_of_decorate hline
    rw [h, Option.some_inj] at hrecord
    have hempty : line.decoration = "" := by
      apply decoration_eq_empty hline
      intro address
      rw [← hrecord, hkind]
      exact Record.Kind.noConfusion
    rw [Option.elim_some, hempty]
    rfl

/-- No decoration brings a line feed with it. -/
theorem not_mem_annotatedSegments (hfeed : '\n' ∉ config.alphabet.chars)
    {segments : List (List Char)} (hsegments : ∀ s ∈ segments, '\n' ∉ s) :
    ∀ l ∈ segments.mapIdx (annotatedSegment (decorate config records)), '\n' ∉ l := by
  intro l hl
  obtain ⟨i, hi, rfl⟩ := List.mem_mapIdx.mp hl
  rw [annotatedSegment, List.mem_append, not_or]
  refine ⟨?_, Text.not_mem_dropEndWhile (hsegments _ (List.getElem_mem hi))⟩
  rw [decorationAt]
  cases hline : (decorate config records)[i]? with
  | none => exact List.not_mem_nil
  | some line =>
    exact fun hmem => hfeed (mem_chars_of_mem_decoration (List.mem_of_getElem? hline) hmem)

end Decorated

/-! ## Annotated texts -/

section Cut

variable {config : Config} (hfeed : '\n' ∉ config.alphabet.chars) {text : String}
  {ls : List (List Char)} {r : List Char} (hls : ∀ l ∈ ls, '\n' ∉ l) (hr : '\n' ∉ r)

theorem toList_annotate (config : Config) (text : String) :
    (annotate config text).toList =
      ['\n'].intercalate ((decorate config (Record.ofText text)).map (·.text.toList)) ++
        if Text.endsLine text.toList then ['\n'] else [] := by
  rw [annotate, String.toList_append, String.toList_intercalate, List.map_map]
  congr 1
  split_ifs <;> rfl

include hfeed hls

/-- A text in which every line has its line feed. -/
theorem splitOn_annotate_lines (htext : text.toList = Text.unlines ls) :
    (annotate config text).toList.splitOn '\n' =
      ls.mapIdx (annotatedSegment (decorate config (Record.ofText text))) ++ [[]] := by
  have hcut : text.toList = Text.unlines ls ++ [] := by rw [htext, List.append_nil]
  have hrecords := Record.ofText_of_cut hls List.not_mem_nil hcut
  simp only [List.isEmpty_nil, if_true, List.append_nil] at hrecords
  have htexts : (decorate config (Record.ofText text)).map (·.text.toList) =
      ls.mapIdx (annotatedSegment (decorate config (Record.ofText text))) :=
    texts_eq_mapIdx (by rw [records_decorate, hrecords]) hls
  rw [toList_annotate, htexts]
  by_cases hne : ls = []
  · rw [htext, hne]
    rfl
  · have hends : Text.endsLine text.toList = true := by
      rw [hcut, Text.endsLine_unlines_append hls List.not_mem_nil]
      exact ⟨hne, rfl⟩
    rw [if_pos hends, Text.intercalate_append_feed (by simpa using hne)]
    exact Text.splitOn_unlines (not_mem_annotatedSegments hfeed hls)

include hr

/-- A text with something behind its last line feed. -/
theorem splitOn_annotate_rest (hrest : r ≠ []) (htext : text.toList = Text.unlines ls ++ r) :
    (annotate config text).toList.splitOn '\n' =
      (ls ++ [r]).mapIdx (annotatedSegment (decorate config (Record.ofText text))) := by
  have hsegments : ∀ s ∈ ls ++ [r], '\n' ∉ s := by
    rw [List.forall_mem_append, List.forall_mem_singleton]
    exact ⟨hls, hr⟩
  have hrecords := Record.ofText_of_cut hls hr htext
  rw [if_neg (by simpa using hrest)] at hrecords
  have htexts : (decorate config (Record.ofText text)).map (·.text.toList) =
      (ls ++ [r]).mapIdx (annotatedSegment (decorate config (Record.ofText text))) :=
    texts_eq_mapIdx (by rw [records_decorate, hrecords]) hsegments
  have hends : ¬ Text.endsLine text.toList = true := by
    rw [htext, Text.endsLine_unlines_append hls hr]
    exact fun h => hrest h.2
  rw [toList_annotate, htexts, if_neg hends, List.append_nil]
  exact List.splitOn_intercalate '\n' (not_mem_annotatedSegments hfeed hsegments) (by simp)

/-- The segments of an annotated text are those of its lines and that of its rest. -/
theorem splitOn_annotate_of_cut (htext : text.toList = Text.unlines ls ++ r) :
    (annotate config text).toList.splitOn '\n' =
      ls.mapIdx (annotatedSegment (decorate config (Record.ofText text))) ++
        [annotatedSegment (decorate config (Record.ofText text)) ls.length r] := by
  by_cases hrest : r = []
  · subst hrest
    have hlast : annotatedSegment (decorate config (Record.ofText text)) ls.length [] = [] := by
      rw [annotatedSegment, decorationAt_of_length_le]
      · rfl
      · rw [Record.ofText_of_cut hls hr htext]
        simp
    rw [hlast]
    exact splitOn_annotate_lines hfeed hls (by rw [htext, List.append_nil])
  · rw [splitOn_annotate_rest hfeed hls hr hrest htext, List.mapIdx_append, List.mapIdx_singleton,
      Nat.zero_add]

end Cut

/-- Annotation loses and alters nothing: the annotated text has the segments of the text, each
behind its decoration and without the carriage returns at its end. -/
theorem splitOn_annotate (config : Config) (hfeed : '\n' ∉ config.alphabet.chars) (text : String) :
    (annotate config text).toList.splitOn '\n' =
      (text.toList.splitOn '\n').mapIdx
        (annotatedSegment (decorate config (Record.ofText text))) := by
  obtain ⟨ls, r, hls, hr, htext⟩ := Text.exists_eq_unlines_append text.toList
  rw [splitOn_annotate_of_cut hfeed hls hr htext, htext, Text.splitOn_unlines_append hls hr,
    List.mapIdx_append, List.mapIdx_singleton, Nat.zero_add]

theorem splitOn_annotate_returns :
    '\n' ∉ Alphabet.boxes.chars ∧
      (annotate {} "1000:\t90\tjmp 1000\r\r\n\r").toList.splitOn '\n' =
        ("1000:\t90\tjmp 1000\r\r\n\r".toList.splitOn '\n').mapIdx
          (annotatedSegment (decorate {} (Record.ofText "1000:\t90\tjmp 1000\r\r\n\r"))) :=
  ⟨by decide, splitOn_annotate {} (by decide) _⟩

/-! ## The number of lines -/

/-- Of the rest nothing is left if it is carriage returns alone. -/
theorem annotatedSegment_rest_eq_nil_iff (config : Config) {text : String} {ls : List (List Char)}
    {r : List Char} (hls : ∀ l ∈ ls, '\n' ∉ l) (hr : '\n' ∉ r)
    (htext : text.toList = Text.unlines ls ++ r) :
    annotatedSegment (decorate config (Record.ofText text)) ls.length r = [] ↔
      ∀ c ∈ r, c = '\r' := by
  have hstripped : Text.dropEndWhile (· == '\r') r = [] ↔ ∀ c ∈ r, c = '\r' := by
    simp only [Text.dropEndWhile_eq_nil_iff, beq_iff_eq]
  rw [annotatedSegment, List.append_eq_nil_iff, hstripped, and_iff_right_iff_imp]
  intro hreturns
  have hrecords := Record.ofText_of_cut hls hr htext
  by_cases hrest : r = []
  · apply decorationAt_of_length_le
    simp [hrecords, hrest]
  · refine decorationAt_of_other ?_ (Record.kind_of_returns hreturns)
    simp [hrecords, hrest]

/-- Annotation keeps the number of lines, and a line feed at the end, of all texts but those that
end in a line of carriage returns alone; these lose that line. -/
theorem annotate_keeps_lines_iff (config : Config) (hfeed : '\n' ∉ config.alphabet.chars)
    (text : String) :
    ((Text.lines (annotate config text).toList).length = (Text.lines text.toList).length ∧
        Text.endsLine (annotate config text).toList = Text.endsLine text.toList ↔
      ¬ Text.EndsInReturns text.toList) ∧
    (Text.EndsInReturns text.toList →
      (Text.lines (annotate config text).toList).length + 1 = (Text.lines text.toList).length) := by
  obtain ⟨ls, r, hls, hr, htext⟩ := Text.exists_eq_unlines_append text.toList
  have hin := Text.splitOn_unlines_append hls hr
  rw [← htext] at hin
  have hout := splitOn_annotate_of_cut hfeed hls hr htext
  have hlast := annotatedSegment_rest_eq_nil_iff config hls hr htext
  have hends : Text.EndsInReturns text.toList ↔ r ≠ [] ∧ ∀ c ∈ r, c = '\r' := by
    rw [Text.EndsInReturns, htext, Text.rest_unlines_append hls hr]
  rw [Bool.eq_iff_iff, Text.endsLine_of_splitOn hin, Text.endsLine_of_splitOn hout,
    Text.length_lines_of_splitOn hin, Text.length_lines_of_splitOn hout, List.length_mapIdx, hends]
  simp only [hlast]
  by_cases hrest : r = []
  · simp [hrest]
  · by_cases hreturns : ∀ c ∈ r, c = '\r'
    · simp only [if_pos hreturns, if_neg hrest]
      simpa [hrest] using hreturns
    · simp [hrest, hreturns]

theorem annotate_keeps_lines_iff_mixed :
    '\n' ∉ Alphabet.boxes.chars ∧
      ((Text.lines (annotate {} "a\r\n\r\n\rb").toList).length =
            (Text.lines "a\r\n\r\n\rb".toList).length ∧
          Text.endsLine (annotate {} "a\r\n\r\n\rb").toList =
            Text.endsLine "a\r\n\r\n\rb".toList ↔
        ¬ Text.EndsInReturns "a\r\n\r\n\rb".toList) ∧
      (Text.EndsInReturns "a\r\n\r\n\rb".toList →
        (Text.lines (annotate {} "a\r\n\r\n\rb").toList).length + 1 =
          (Text.lines "a\r\n\r\n\rb".toList).length) :=
  ⟨by decide, annotate_keeps_lines_iff {} (by decide) _⟩

/-- A last line that is one carriage return is lost, and the line feed before it ends the text. -/
theorem annotate_loses_last_return :
    '\n' ∉ Alphabet.boxes.chars ∧ '\r' ∉ Alphabet.boxes.chars ∧
      annotate {} "a\n\r" = "a\n" ∧
      ¬ ((Text.lines (annotate {} "a\n\r").toList).length = (Text.lines "a\n\r".toList).length) ∧
      ¬ (Text.endsLine (annotate {} "a\n\r").toList = true ↔
        Text.endsLine "a\n\r".toList = true) := by
  decide

end JumpArrows
