import JumpArrows.Text.Hex
import JumpArrows.Text.Blank
import Mathlib.Tactic

/-! # Numerals and their values

A numeral is written with lower case digits only, and its value is the number it was written for,
also behind leading zeros. A word's numeral is a literal that gives the word back. -/

namespace JumpArrows.Hex

/-- A digit in either letter case, which is none of the characters that a line is cut at. -/
structure Plain (c : Char) : Prop where
  digit : isDigit c = true
  blank : Text.isBlank c = false
  comma : c ≠ ','

theorem digits_plain : ∀ c ∈ digits, Plain c := by
  have h : digits.all (fun c => isDigit c = true ∧ Text.isBlank c = false ∧
      c ≠ ',') = true := by
    decide
  intro c hc
  obtain ⟨hdigit, hblank, hcomma⟩ := of_decide_eq_true (List.all_eq_true.mp h c hc)
  exact ⟨hdigit, hblank, hcomma⟩

theorem mem_digits_of_isLowerDigit {c : Char} (h : isLowerDigit c = true) : c ∈ digits := by
  simpa [isLowerDigit] using h

theorem digitChar_spec :
    ∀ d < 16, digit? d.digitChar = some d ∧ isLowerDigit d.digitChar = true := by
  decide

theorem numeral_of_lt {n : ℕ} (h : n < 16) : numeral n = [n.digitChar] :=
  Nat.toDigits_of_lt_base h

theorem numeral_of_le {n : ℕ} (h : 16 ≤ n) : numeral n = numeral (n / 16) ++ [(n % 16).digitChar] :=
  Nat.toDigits_of_base_le (by omega) h

theorem value_concat (s : List Char) (c : Char) :
    value (s ++ [c]) = 16 * value s + (digit? c).getD 0 := by
  rw [value, List.foldl_append]
  rfl

theorem value_numeral (n : ℕ) : value (numeral n) = n := by
  induction n using Nat.strongRecOn with
  | ind n ih =>
    by_cases h : n < 16
    · rw [numeral_of_lt h, ← List.nil_append [n.digitChar], value_concat, (digitChar_spec n h).1]
      simp [value]
    · have hlt := digitChar_spec (n % 16) (Nat.mod_lt n (by omega))
      rw [numeral_of_le (by omega), value_concat, ih (n / 16) (by omega), hlt.1, Option.getD_some]
      omega

theorem isLowerDigit_of_mem_numeral {n : ℕ} {c : Char} (hc : c ∈ numeral n) :
    isLowerDigit c = true := by
  induction n using Nat.strongRecOn with
  | ind n ih =>
    by_cases h : n < 16
    · rw [numeral_of_lt h, List.mem_singleton] at hc
      exact hc ▸ (digitChar_spec n h).2
    · rw [numeral_of_le (by omega), List.mem_append, List.mem_singleton] at hc
      rcases hc with hc | rfl
      · exact ih (n / 16) (by omega) hc
      · exact (digitChar_spec (n % 16) (Nat.mod_lt n (by omega))).2

theorem numeral_ne_nil (n : ℕ) : numeral n ≠ [] :=
  Nat.toDigits_ne_nil

theorem length_numeral_le_iff {n k : ℕ} (hk : 0 < k) : (numeral n).length ≤ k ↔ n < 16 ^ k :=
  Nat.length_toDigits_le_iff (by omega) hk

theorem length_numeral_word_le (a : UInt64) : (numeral a.toNat).length ≤ 16 :=
  (length_numeral_le_iff (by omega)).mpr a.toNat_lt

/-! ## Leading zeros -/

def padded (width n : ℕ) : List Char :=
  (numeral n).leftpad width '0'

theorem value_zero_cons (s : List Char) : value ('0' :: s) = value s := rfl

theorem value_padded (width n : ℕ) : value (padded width n) = n := by
  have hzeros (k : ℕ) : value (List.replicate k '0' ++ numeral n) = n := by
    induction k with
    | zero => exact value_numeral n
    | succ k ih => rw [List.replicate_succ, List.cons_append, value_zero_cons, ih]
  exact hzeros _

theorem isLowerDigit_of_mem_padded {width n : ℕ} {c : Char} (hc : c ∈ padded width n) :
    isLowerDigit c = true := by
  rcases List.mem_append.mp hc with hc | hc
  · rw [List.eq_of_mem_replicate hc]
    rfl
  · exact isLowerDigit_of_mem_numeral hc

theorem length_padded {width n : ℕ} (h : (numeral n).length ≤ width) :
    (padded width n).length = width := by
  rw [padded, List.leftpad, List.length_append, List.length_replicate]
  omega

theorem plain_of_mem_numeral {n : ℕ} {c : Char} (h : c ∈ numeral n) : Plain c :=
  digits_plain c (mem_digits_of_isLowerDigit (isLowerDigit_of_mem_numeral h))

theorem plain_of_mem_padded {width n : ℕ} {c : Char} (h : c ∈ padded width n) : Plain c :=
  digits_plain c (mem_digits_of_isLowerDigit (isLowerDigit_of_mem_padded h))

section Blanks

variable {c : Char} (h : Text.isBlank c = true)

include h

theorem not_mem_numeral (n : ℕ) : c ∉ numeral n := by
  intro hc
  rw [(plain_of_mem_numeral hc).blank] at h
  cases h

theorem not_mem_padded (width n : ℕ) : c ∉ padded width n := by
  intro hc
  rw [(plain_of_mem_padded hc).blank] at h
  cases h

end Blanks

theorem head_numeral_append (n : ℕ) (s : List Char) :
    ∀ c ∈ (numeral n ++ s).head?, Text.isBlank c = false := by
  intro c hc
  rw [List.head?_append_of_ne_nil _ (numeral_ne_nil n)] at hc
  exact (plain_of_mem_numeral (List.mem_of_mem_head? hc)).blank

/-! ## Words and literals -/

theorem word?_toNat (a : UInt64) : word? a.toNat = some a := by
  rw [word?, dif_pos a.toNat_lt]
  simp

theorem dropMark_of_digits {s : List Char} (h : ∀ c ∈ s, isDigit c = true) : dropMark s = s := by
  rw [dropMark.eq_def]
  split
  · exact absurd (h 'x' (by simp)) (by decide)
  · exact absurd (h 'X' (by simp)) (by decide)
  · rfl

theorem literal?_numeral (a : UInt64) : literal? (numeral a.toNat) = some a := by
  have hdigits : ∀ c ∈ numeral a.toNat, isDigit c = true :=
    fun c hc => (plain_of_mem_numeral hc).digit
  rw [literal?, dropMark_of_digits hdigits,
    if_pos ⟨numeral_ne_nil _, length_numeral_word_le a, List.all_eq_true.mpr hdigits⟩,
    value_numeral, word?_toNat]

end JumpArrows.Hex
