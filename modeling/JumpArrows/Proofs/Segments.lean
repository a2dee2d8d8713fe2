import JumpArrows.Proofs.Words

/-! # Lines and the rest of a text

Every text is in one way a list of lines with a line feed behind each, and a rest without one. The
cut into segments, the lines and the last character of a text are told from these two. -/

namespace JumpArrows.Text

/-- What stands behind the last line feed. -/
def rest (s : List Char) : List Char :=
  (s.splitOn '\n').getLastD []

/-- The text ends in a line that is carriage returns alone, with no line feed behind them. -/
def EndsInReturns (s : List Char) : Prop :=
  rest s ≠ [] ∧ ∀ c ∈ rest s, c = '\r'

instance (s : List Char) : Decidable (EndsInReturns s) :=
  inferInstanceAs (Decidable (_ ∧ _))

theorem exists_eq_unlines_append (s : List Char) :
    ∃ ls rest, (∀ l ∈ ls, '\n' ∉ l) ∧ '\n' ∉ rest ∧ s = unlines ls ++ rest := by
  induction s with
  | nil => exact ⟨[], [], by simp, List.not_mem_nil, rfl⟩
  | cons c s ih =>
    obtain ⟨ls, rest, hls, hrest, rfl⟩ := ih
    by_cases hc : c = '\n'
    · subst hc
      exact ⟨[] :: ls, rest, by simpa using hls, hrest, rfl⟩
    · cases ls with
      | nil => exact ⟨[], c :: rest, by simp, by simp [Ne.symm hc, hrest], rfl⟩
      | cons l ls =>
        rw [List.forall_mem_cons] at hls
        refine ⟨(c :: l) :: ls, rest, ?_, hrest, rfl⟩
        rw [List.forall_mem_cons]
        exact ⟨by simp [Ne.symm hc, hls.1], hls.2⟩

section Cut

variable {ls : List (List Char)} {r : List Char} (hls : ∀ l ∈ ls, '\n' ∉ l) (hr : '\n' ∉ r)

include hls hr

theorem rest_unlines_append : rest (unlines ls ++ r) = r := by
  rw [rest, splitOn_unlines_append hls hr, List.getLastD_concat]

theorem lines_unlines_append :
    lines (unlines ls ++ r) = ls.map dropReturn ++ if r.isEmpty then [] else [r] := by
  simp only [lines, splitOn_unlines_append hls hr, List.getLastD_concat, List.dropLast_concat]

/-- The last character is a line feed if there are lines and no rest. -/
theorem endsLine_unlines_append : endsLine (unlines ls ++ r) = true ↔ ls ≠ [] ∧ r = [] := by
  rw [endsLine, beq_iff_eq]
  rcases List.eq_nil_or_concat r with rfl | ⟨r, c, rfl⟩
  · rcases List.eq_nil_or_concat ls with rfl | ⟨ls, l, rfl⟩
    · simp [unlines]
    · simp [unlines]
  · have hc : c ≠ '\n' := by
      rintro rfl
      simp at hr
    simp [hc]

end Cut

variable {s : List Char} {init : List (List Char)} {last : List Char}

/-- A cut into segments is a cut into lines and a rest. -/
theorem cut_of_splitOn (h : s.splitOn '\n' = init ++ [last]) :
    (∀ l ∈ init, '\n' ∉ l) ∧ '\n' ∉ last ∧ s = unlines init ++ last := by
  obtain ⟨ls, r, hls, hr, rfl⟩ := exists_eq_unlines_append s
  rw [splitOn_unlines_append hls hr] at h
  obtain ⟨rfl, hlast⟩ := List.append_inj' h rfl
  cases hlast
  exact ⟨hls, hr, rfl⟩

theorem length_lines_of_splitOn (h : s.splitOn '\n' = init ++ [last]) :
    (lines s).length = init.length + if last = [] then 0 else 1 := by
  obtain ⟨hinit, hlast, rfl⟩ := cut_of_splitOn h
  rw [lines_unlines_append hinit hlast, List.length_append, List.length_map]
  cases last <;> rfl

theorem endsLine_of_splitOn (h : s.splitOn '\n' = init ++ [last]) :
    endsLine s = true ↔ init ≠ [] ∧ last = [] := by
  obtain ⟨hinit, hlast, rfl⟩ := cut_of_splitOn h
  exact endsLine_unlines_append hinit hlast

/-- Joined by line feeds, with one more at the end, lines stand with a line feed behind each. -/
theorem intercalate_append_feed {ls : List (List Char)} (h : ls ≠ []) :
    ['\n'].intercalate ls ++ ['\n'] = unlines ls := by
  induction ls with
  | nil => exact absurd rfl h
  | cons l ls ih =>
    cases ls with
    | nil => simp [unlines]
    | cons l' ls =>
      have htail := ih (List.cons_ne_nil l' ls)
      rw [unlines, List.flatMap_cons, ← unlines, ← htail]
      simp [List.intercalate]

/-! ## Line ends -/

theorem dropEndWhile_dropReturn (l : List Char) :
    dropEndWhile isLineEnd (dropReturn l) = dropEndWhile isLineEnd l := by
  rw [dropReturn]
  split_ifs with h
  · obtain ⟨l, rfl⟩ := List.getLast?_eq_some_iff.mp h
    rw [List.dropLast_concat]
    exact (List.rdropWhile_concat_pos _ _ _ rfl).symm
  · rfl

/-- Without a line feed in a line, only carriage returns are line ends at its end. -/
theorem dropEndWhile_isLineEnd {l : List Char} (h : '\n' ∉ l) :
    dropEndWhile isLineEnd l = dropEndWhile (· == '\r') l := by
  induction l using List.reverseRecOn with
  | nil => rfl
  | append_singleton l c ih =>
    have hl : '\n' ∉ l := fun hmem => h (List.mem_append_left _ hmem)
    have hc : isLineEnd c = (c == '\r') := by
      have hne : c ≠ '\n' := by
        rintro rfl
        simp at h
      simp [isLineEnd, hne]
    change List.rdropWhile _ _ = List.rdropWhile _ _
    rw [List.rdropWhile_concat, List.rdropWhile_concat, hc]
    split_ifs
    · exact ih hl
    · rfl

theorem not_mem_dropEndWhile {p : Char → Bool} {l : List Char} {c : Char} (h : c ∉ l) :
    c ∉ dropEndWhile p l :=
  fun hmem => h ((List.rdropWhile_prefix p l).subset hmem)

theorem dropEndWhile_eq_nil_iff {p : Char → Bool} {l : List Char} :
    dropEndWhile p l = [] ↔ ∀ c ∈ l, p c = true :=
  List.rdropWhile_eq_nil_iff

end JumpArrows.Text
