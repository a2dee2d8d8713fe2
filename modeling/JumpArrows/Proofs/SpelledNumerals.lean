import JumpArrows.Proofs.LetterCase
import JumpArrows.Proofs.Numerals
import Mathlib.Data.List.Forall2
import Mathlib.Data.Nat.Digits.Defs

/-! # Numerals by their digits

A numeral is told here by the places of its digits, each a number below sixteen, and by the
characters that may stand for them: the digits in small letters, or in letters of either case. The
value that is read is the sum over the places, which is never longer than the numeral. -/

namespace JumpArrows

/-- Only a small character and its capital become that small character. -/
theorem Text.toLower_eq_iff {c d : Char} (hd : d.toLower = d) :
    c.toLower = d ↔ c = d ∨ c = d.toUpper := by
  have hcode := congrArg Char.toNat hd
  rw [toNat_toLower] at hcode
  rw [← Char.toNat_inj, ← Char.toNat_inj, ← Char.toNat_inj, toNat_toLower, toNat_toUpper]
  split_ifs at hcode ⊢ <;> omega

namespace Hex

/-- The character for a digit in small letters. -/
def IsSmall (d : ℕ) (c : Char) : Prop :=
  d < 16 ∧ c = d.digitChar

def IsEither (d : ℕ) (c : Char) : Prop :=
  d < 16 ∧ (c = d.digitChar ∨ c = d.digitChar.toUpper)

/-- A text that writes a number in base sixteen, the most significant digit first and any zeros in
front. Which characters stand for a digit is given. -/
def Spells (stands : ℕ → Char → Prop) (s : List Char) (n : ℕ) : Prop :=
  ∃ ds : List ℕ, List.Forall₂ stands ds s ∧ Nat.ofDigits 16 ds.reverse = n

/-! ## Digits -/

section Digits

variable {c : Char} {d : ℕ}

theorem IsSmall.isEither (h : IsSmall d c) : IsEither d c :=
  ⟨h.1, .inl h.2⟩

theorem isLowerDigit_iff : isLowerDigit c = true ↔ ∃ d, IsSmall d c := by
  have hdigits : digits = (List.range 16).map Nat.digitChar := by decide
  rw [isLowerDigit, List.contains_iff_mem, hdigits, List.mem_map]
  simp only [IsSmall, List.mem_range, eq_comm]

theorem toLower_digitChar : ∀ d < 16, d.digitChar.toLower = d.digitChar := by
  decide

theorem digit?_eq_some_iff : digit? c = some d ↔ IsEither d c := by
  constructor
  · intro h
    obtain ⟨hd, heq, -⟩ := List.findIdx?_eq_some_iff_getElem.mp h
    have hlower : isLowerDigit c.toLower = true := by
      rw [isLowerDigit, List.contains_iff_mem, ← eq_of_beq heq]
      exact List.getElem_mem hd
    obtain ⟨d', hd', hc⟩ := isLowerDigit_iff.mp hlower
    have hvalue := (digitChar_spec d' hd').1
    rw [← hc, digit?_toLower, h] at hvalue
    cases hvalue
    exact ⟨hd', (Text.toLower_eq_iff (toLower_digitChar d hd')).mp hc⟩
  · rintro ⟨hd, hc⟩
    rw [← digit?_toLower, (Text.toLower_eq_iff (toLower_digitChar d hd)).mpr hc,
      (digitChar_spec d hd).1]

theorem isDigit_iff : isDigit c = true ↔ ∃ d, IsEither d c := by
  simp only [isDigit, Option.isSome_iff_exists, digit?_eq_some_iff]

end Digits

/-! ## Values -/

section Values

variable {s : List Char} {n : ℕ}

/-- The digits of a text, zero where there is none. -/
def places (s : List Char) : List ℕ :=
  s.map fun c => (digit? c).getD 0

theorem value_eq_ofDigits (s : List Char) : value s = Nat.ofDigits 16 (places s).reverse := by
  rw [Nat.ofDigits_eq_foldr, List.foldr_reverse, places, List.foldl_map, value]
  simp only [Nat.cast_id, Nat.add_comm]

theorem lt_of_mem_places {d : ℕ} (h : d ∈ places s) : d < 16 := by
  obtain ⟨c, -, rfl⟩ := List.mem_map.mp h
  cases hc : digit? c with
  | none => decide
  | some d => exact (digit?_eq_some_iff.mp hc).1

/-- A numeral has a value of at most as many digits. -/
theorem value_lt (s : List Char) : value s < 16 ^ s.length := by
  have hlt := Nat.ofDigits_lt_base_pow_length (l := (places s).reverse) (by decide : 1 < 16)
    fun d hd => lt_of_mem_places (List.mem_reverse.mp hd)
  rwa [← value_eq_ofDigits, List.length_reverse, places, List.length_map] at hlt

/-- A digit is read as the number that it stands for. -/
theorem places_eq {stands : ℕ → Char → Prop} (heither : ∀ d c, stands d c → IsEither d c)
    {ds : List ℕ} (h : List.Forall₂ stands ds s) : places s = ds := by
  induction h with
  | nil => rfl
  | @cons d c ds s hd _ ih =>
    change (digit? c).getD 0 :: places s = d :: ds
    rw [digit?_eq_some_iff.mpr (heither d c hd), Option.getD_some, ih]

/-- A text of digits spells its value and no other number. -/
theorem spells_iff {stands : ℕ → Char → Prop} (heither : ∀ d c, stands d c → IsEither d c) :
    Spells stands s n ↔ (∀ c ∈ s, ∃ d, stands d c) ∧ value s = n := by
  constructor
  · rintro ⟨ds, hds, rfl⟩
    obtain rfl := places_eq heither hds
    rw [places, List.forall₂_map_left_iff, List.forall₂_same] at hds
    exact ⟨fun c hc => ⟨_, hds c hc⟩, value_eq_ofDigits s⟩
  · rintro ⟨hdigits, rfl⟩
    refine ⟨places s, ?_, (value_eq_ofDigits s).symm⟩
    rw [places, List.forall₂_map_left_iff, List.forall₂_same]
    intro c hc
    obtain ⟨d, hd⟩ := hdigits c hc
    rwa [digit?_eq_some_iff.mpr (heither d c hd), Option.getD_some]

theorem spells_small_iff :
    Spells IsSmall s n ↔ (∀ c ∈ s, isLowerDigit c = true) ∧ value s = n := by
  simp only [spells_iff fun _ _ => IsSmall.isEither, isLowerDigit_iff]

theorem spells_either_iff :
    Spells IsEither s n ↔ (∀ c ∈ s, isDigit c = true) ∧ value s = n := by
  simp only [spells_iff fun _ _ => id, isDigit_iff]

/-! ## Words -/

theorem word?_eq_some_iff {a : UInt64} : word? n = some a ↔ a.toNat = n := by
  constructor
  · intro h
    rw [word?] at h
    split at h
    · cases h
      exact UInt64.toNat_ofNatLT
    · cases h
  · rintro rfl
    exact word?_toNat a

/-- Up to sixteen digits always fit into a word. -/
theorem exists_word? (h : s.length ≤ 16) : ∃ a, word? (value s) = some a := by
  have hlt : value s < UInt64.size :=
    (value_lt s).trans_le (Nat.pow_le_pow_right (by decide) h)
  exact ⟨_, dif_pos hlt⟩

end Values

end Hex

end JumpArrows
