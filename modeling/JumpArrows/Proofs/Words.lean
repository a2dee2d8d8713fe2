import JumpArrows.Text.Blank
import JumpArrows.Text.Lines
import Mathlib.Data.List.DropRight
import Mathlib.Data.List.TakeWhile
import Mathlib.Tactic

/-! # Lines and words that are read back

What a printer puts into a text, and what the cuts find in it again: lines between line feeds,
fields between tabs, words between blanks. -/

namespace JumpArrows.Text

@[simp] theorem isBlank_space : isBlank ' ' = true := by decide

@[simp] theorem isBlank_tab : isBlank '\t' = true := by decide

@[simp] theorem isBlank_feed : isBlank '\n' = true := by decide

/-! ## Runs -/

theorem dropEndWhile_of_getLast {p : Char → Bool} {s : List Char}
    (h : ∀ c ∈ s.getLast?, p c = false) : dropEndWhile p s = s := by
  apply List.rdropWhile_eq_self_iff.mpr
  intro hne
  rw [h (s.getLast hne) (List.getLast?_eq_some_getLast hne)]
  exact Bool.false_ne_true

theorem dropWhile_of_head {p : Char → Bool} {s : List Char} (h : ∀ c ∈ s.head?, p c = false) :
    s.dropWhile p = s := by
  cases s with
  | nil => rfl
  | cons c s =>
    rw [List.dropWhile_cons_of_neg]
    rw [h c rfl]
    exact Bool.false_ne_true

section Runs

variable {p : Char → Bool} {s rest : List Char} (h : ∀ c ∈ s, p c = true)
  (hrest : ∀ c ∈ rest.head?, p c = false)

include h hrest

/-- A run of characters is cut off whole if it does not go on in what follows. -/
theorem takeWhile_run_append : (s ++ rest).takeWhile p = s := by
  rw [List.takeWhile_append_of_pos h]
  cases rest with
  | nil => simp
  | cons c rest => simp [hrest c (by simp)]

theorem dropWhile_run_append : (s ++ rest).dropWhile p = rest := by
  rw [List.dropWhile_append_of_pos h, dropWhile_of_head hrest]

end Runs

theorem head_dropWhile (p : Char → Bool) (s : List Char) :
    ∀ c ∈ (s.dropWhile p).head?, p c = false := by
  intro c hc
  have hstop := List.head?_dropWhile_not p s
  rwa [Option.mem_def.mp hc] at hstop

/-- A run at the front of a text is cut off just if it is all of one kind and what follows is not
of it. -/
theorem takeWhile_eq_iff {p : Char → Bool} {s run : List Char} :
    s.takeWhile p = run ↔
      ∃ rest, s = run ++ rest ∧ (∀ c ∈ run, p c = true) ∧ ∀ c ∈ rest.head?, p c = false := by
  constructor
  · rintro rfl
    exact ⟨s.dropWhile p, List.takeWhile_append_dropWhile.symm,
      fun c hc => List.mem_takeWhile_imp hc, head_dropWhile p s⟩
  · rintro ⟨rest, rfl, hrun, hrest⟩
    exact takeWhile_run_append hrun hrest

/-! ## Trimming -/

theorem trim_of_ends {s : List Char} (hhead : ∀ c ∈ s.head?, isBlank c = false)
    (hlast : ∀ c ∈ s.getLast?, isBlank c = false) : trim s = s := by
  rw [trim, dropWhile_of_head hhead, dropEndWhile_of_getLast hlast]

theorem trim_blank_cons {c : Char} (h : isBlank c = true) (s : List Char) :
    trim (c :: s) = trim s := by
  rw [trim, List.dropWhile_cons_of_pos h, trim]

theorem head_cons {c : Char} (h : isBlank c = false) (s : List Char) :
    ∀ d ∈ (c :: s).head?, isBlank d = false := by
  intro d hd
  rw [List.head?_cons, Option.mem_some_iff] at hd
  exact hd ▸ h

theorem last_concat {c : Char} (h : isBlank c = false) (s : List Char) :
    ∀ d ∈ (s ++ [c]).getLast?, isBlank d = false := by
  intro d hd
  rw [List.getLast?_concat, Option.mem_some_iff] at hd
  exact hd ▸ h

theorem isBlank_of_isLineEnd {c : Char} (h : isLineEnd c = true) : isBlank c = true := by
  rcases (by simpa [isLineEnd] using h : c = '\r' ∨ c = '\n') with rfl | rfl <;> decide

/-- A text that comes back as it was when a line is cut at its tabs. -/
structure IsField (s : List Char) : Prop where
  tab : '\t' ∉ s
  head : ∀ c ∈ s.head?, isBlank c = false
  last : ∀ c ∈ s.getLast?, isBlank c = false

theorem IsField.trim {s : List Char} (h : IsField s) : trim s = s :=
  trim_of_ends h.head h.last

theorem IsField.last_not_lineEnd {s : List Char} (h : IsField s) :
    ∀ c ∈ s.getLast?, isLineEnd c = false := by
  intro c hc
  by_contra hend
  have hblank := h.last c hc
  rw [isBlank_of_isLineEnd (by simpa using hend)] at hblank
  cases hblank

/-! ## Words -/

section Words

variable {word : List Char} (hword : ∀ c ∈ word, isBlank c = false)

include hword

theorem beforeBlank_word_append (b : Char) (hb : isBlank b = true) (s : List Char) :
    beforeBlank (word ++ b :: s) = word := by
  rw [beforeBlank, List.takeWhile_append_of_pos (by simpa using hword)]
  simp [hb]

theorem afterBlank_word_append (b : Char) (hb : isBlank b = true) (s : List Char) :
    afterBlank (word ++ b :: s) = s := by
  rw [afterBlank, List.dropWhile_append_of_pos (by simpa using hword)]
  simp [hb]

theorem firstWord_append (hne : word ≠ []) (b : Char) (hb : isBlank b = true) (s : List Char) :
    firstWord (word ++ b :: s) = word := by
  rw [firstWord, dropWhile_of_head, beforeBlank_word_append hword b hb]
  intro c hc
  rw [List.head?_append_of_ne_nil word hne] at hc
  exact hword c (List.mem_of_mem_head? hc)

end Words

/-! ## Lines -/

def unlines (ls : List (List Char)) : List Char :=
  ls.flatMap fun l => l ++ ['\n']

/-- Lines and a rest behind them are told apart again. -/
theorem splitOn_unlines_append {ls : List (List Char)} {rest : List Char}
    (h : ∀ l ∈ ls, '\n' ∉ l) (hrest : '\n' ∉ rest) :
    (unlines ls ++ rest).splitOn '\n' = ls ++ [rest] := by
  induction ls with
  | nil => exact List.splitOn_eq_singleton hrest
  | cons l ls ih =>
    rw [unlines, List.flatMap_cons, List.append_assoc, List.append_assoc, List.singleton_append,
      List.splitOn_append_cons_self_of_not_mem (h l List.mem_cons_self), List.cons_append]
    exact congrArg (l :: ·) (ih fun l' hl' => h l' (List.mem_cons_of_mem l hl'))

theorem splitOn_unlines {ls : List (List Char)} (h : ∀ l ∈ ls, '\n' ∉ l) :
    (unlines ls).splitOn '\n' = ls ++ [[]] := by
  rw [← splitOn_unlines_append h List.not_mem_nil, List.append_nil]

/-- Lines without line ends of their own are read back. -/
theorem lines_unlines {ls : List (List Char)} (hfeed : ∀ l ∈ ls, '\n' ∉ l)
    (hreturn : ∀ l ∈ ls, l.getLast? ≠ some '\r') : lines (unlines ls) = ls := by
  have hkeep : ls.map dropReturn = ls.map id :=
    List.map_congr_left fun l hl => if_neg (hreturn l hl)
  simp [lines, splitOn_unlines hfeed, hkeep]

end JumpArrows.Text
