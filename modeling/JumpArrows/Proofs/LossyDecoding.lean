import JumpArrows.Text.Utf8
import Mathlib.Tactic

/-! # What is decoded

The text of any bytes is told without the machine: characters whose bytes stand there, and one
replacement character for each gap. A gap is a longest beginning of a character that does not go
on, or a byte that begins none. Only one text is told in this way, and the machine finds it. -/

namespace JumpArrows.Utf8

/-- Some character has these bytes and more. -/
def Begins (s : List UInt8) : Prop :=
  ∃ c t, t ≠ [] ∧ s ++ t = String.utf8EncodeChar c

/-- In front of `rest` the bytes `s` are a gap. -/
structure Gap (s rest : List UInt8) : Prop where
  ne_nil : s ≠ []
  unreadable : ∀ c, ¬ String.utf8EncodeChar c <+: s ++ rest
  begins : s.length = 1 ∨ Begins s
  longest : ∀ b ∈ rest.head?, ¬ Begins (s ++ [b])

/-- The text that bytes stand for. -/
inductive Decodes : List UInt8 → List Char → Prop where
  | nil : Decodes [] []
  | char {rest : List UInt8} {text : List Char} (c : Char) (h : Decodes rest text) :
      Decodes (String.utf8EncodeChar c ++ rest) (c :: text)
  | gap {s rest : List UInt8} {text : List Char} (hgap : Gap s rest) (h : Decodes rest text) :
      Decodes (s ++ rest) ('\uFFFD' :: text)

/-! ## Only one text -/

theorem encode_append_inj {c d : Char} {s t : List UInt8}
    (h : String.utf8EncodeChar c ++ s = String.utf8EncodeChar d ++ t) : c = d ∧ s = t := by
  have hchar : c = d := by
    have hread := congrArg (fun bytes => bytes.toByteArray.utf8DecodeChar? 0) h
    simpa only [List.toByteArray_append, ByteArray.utf8DecodeChar?_utf8EncodeChar_append,
      Option.some_inj] using hread
  subst hchar
  exact ⟨rfl, List.append_cancel_left h⟩

theorem Begins.of_append {s t : List UInt8} (h : Begins (s ++ t)) : Begins s := by
  obtain ⟨c, u, hne, hc⟩ := h
  refine ⟨c, t ++ u, List.append_ne_nil_of_right_ne_nil t hne, ?_⟩
  rw [← hc, List.append_assoc]

/-- No character ends inside another one. -/
theorem Begins.not_encode_prefix {s : List UInt8} (h : Begins s) (c : Char) :
    ¬ String.utf8EncodeChar c <+: s := by
  rintro ⟨u, rfl⟩
  obtain ⟨d, t, hne, hd⟩ := h
  rw [List.append_assoc, ← List.append_nil (String.utf8EncodeChar d)] at hd
  exact hne (List.append_eq_nil_iff.mp (encode_append_inj hd).2).2

namespace Gap

variable {s t rest rest' : List UInt8}

/-- For a gap only the next byte counts: no character goes on with it. -/
theorem of_stuck (hne : s ≠ []) (hbegins : s.length = 1 ∨ Begins s)
    (hshort : ∀ c, ¬ String.utf8EncodeChar c <+: s)
    (hstuck : ∀ b ∈ rest.head?, ∀ c u, s ++ b :: u ≠ String.utf8EncodeChar c) : Gap s rest where
  ne_nil := hne
  unreadable c hc := by
    obtain ⟨v, hv⟩ := hc
    rcases List.append_eq_append_iff.mp hv with ⟨u, hs, -⟩ | ⟨u, hc, hrest⟩
    · exact hshort c ⟨u, hs.symm⟩
    · cases u with
      | nil => exact hshort c (by rw [hc, List.append_nil])
      | cons b u => exact hstuck b (by rw [hrest]; rfl) c u hc.symm
  begins := hbegins
  longest b hb hbegins := by
    obtain ⟨c, u, -, hc⟩ := hbegins
    rw [List.append_assoc] at hc
    exact hstuck b hb c u hc

theorem stuck (h : Gap s rest) {b : UInt8} (hb : b ∈ rest.head?) (c : Char) (u : List UInt8) :
    s ++ b :: u ≠ String.utf8EncodeChar c := by
  intro hc
  cases u with
  | nil =>
    obtain ⟨rest, rfl⟩ := List.head?_eq_some_iff.mp hb
    exact h.unreadable c ⟨rest, by rw [← hc, List.append_assoc, List.singleton_append]⟩
  | cons x u => exact h.longest b hb ⟨c, x :: u, List.cons_ne_nil x u, by rw [← hc]; simp⟩

theorem encode_append_ne (h : Gap s rest) (c : Char) (u : List UInt8) :
    String.utf8EncodeChar c ++ u ≠ s ++ rest :=
  fun heq => h.unreadable c ⟨u, heq⟩

/-- A gap is no shorter than another one in its place. -/
theorem length_le (h : Gap s rest) (h' : Gap t rest') (heq : s ++ rest = t ++ rest') :
    t.length ≤ s.length := by
  by_contra hlt
  obtain ⟨u, rfl⟩ : s <+: t :=
    List.prefix_of_prefix_length_le (List.prefix_append s rest) ⟨rest', heq.symm⟩ (by omega)
  cases u with
  | nil => simp at hlt
  | cons b u =>
    have hpos := List.length_pos_of_ne_nil h.ne_nil
    have hbegins : Begins (s ++ b :: u) := by
      refine h'.begins.resolve_left ?_
      rw [List.length_append, List.length_cons]
      omega
    have hrest : rest = b :: u ++ rest' := by simpa using heq
    apply h.longest b (by rw [hrest]; rfl)
    rw [List.append_cons] at hbegins
    exact hbegins.of_append

theorem append_inj (h : Gap s rest) (h' : Gap t rest') (heq : s ++ rest = t ++ rest') :
    s = t ∧ rest = rest' :=
  List.append_inj heq (Nat.le_antisymm (h'.length_le h heq.symm) (h.length_le h' heq))

end Gap

theorem Decodes.unique {bytes : List UInt8} {text text' : List Char} (h : Decodes bytes text)
    (h' : Decodes bytes text') : text = text' := by
  induction h generalizing text' with
  | nil =>
    generalize hbytes : ([] : List UInt8) = bytes at h'
    cases h' with
    | nil => rfl
    | char c h' => simp [String.utf8EncodeChar_ne_nil] at hbytes
    | gap hgap h' => exact absurd (List.append_eq_nil_iff.mp hbytes.symm).1 hgap.ne_nil
  | @char rest text c h ih =>
    generalize hbytes : String.utf8EncodeChar c ++ rest = bytes at h'
    cases h' with
    | nil => simp [String.utf8EncodeChar_ne_nil] at hbytes
    | char d h' =>
      obtain ⟨rfl, rfl⟩ := encode_append_inj hbytes
      rw [ih h']
    | gap hgap h' => exact absurd hbytes (hgap.encode_append_ne c _)
  | @gap s rest text hgap h ih =>
    generalize hbytes : s ++ rest = bytes at h'
    cases h' with
    | nil => exact absurd (List.append_eq_nil_iff.mp hbytes).1 hgap.ne_nil
    | char d h' => exact absurd hbytes.symm (hgap.encode_append_ne d _)
    | gap hgap' h' =>
      obtain ⟨rfl, rfl⟩ := hgap.append_inj hgap' hbytes
      rw [ih h']

/-! ## The bytes of a character -/

/-- A code without its last `k` groups of six bits. -/
def bits (k n : ℕ) : ℕ :=
  n / 0x40 ^ k

def following (n : ℕ) : ℕ :=
  if n ≤ 0x7F then 0 else if n ≤ 0x7FF then 1 else if n ≤ 0xFFFF then 2 else 3

/-- What the first byte holds besides the highest bits. -/
def mark : ℕ → ℕ
  | 0 => 0
  | 1 => 0xC0
  | 2 => 0xE0
  | _ => 0xF0

def lead (n : ℕ) : ℕ :=
  bits (following n) n + mark (following n)

def trail (k n : ℕ) : ℕ :=
  bits k n % 0x40 + 0x80

def trails : ℕ → ℕ → List UInt8
  | 0, _ => []
  | k + 1, n => .ofNat (trail k n) :: trails k n

theorem bits_succ (k n : ℕ) : bits (k + 1) n = bits k n / 0x40 := by
  rw [bits, bits, Nat.pow_succ, Nat.div_div_eq_div_mul]

@[simp] theorem bits_zero (n : ℕ) : bits 0 n = n := by
  rw [bits, Nat.pow_zero, Nat.div_one]

@[simp] theorem bits_one (n : ℕ) : bits 1 n = n / 0x40 := rfl

@[simp] theorem bits_two (n : ℕ) : bits 2 n = n / 0x1000 := rfl

@[simp] theorem bits_three (n : ℕ) : bits 3 n = n / 0x40000 := rfl

theorem following_eq_iff {n k : ℕ} : following n = k ↔
    n ≤ 0x7F ∧ k = 0 ∨ 0x7F < n ∧ n ≤ 0x7FF ∧ k = 1 ∨ 0x7FF < n ∧ n ≤ 0xFFFF ∧ k = 2 ∨
      0xFFFF < n ∧ k = 3 := by
  rw [following]
  split_ifs <;> omega

theorem valid_toNat (c : Char) : c.toNat.isValidChar := c.valid

theorem encode_eq (c : Char) :
    String.utf8EncodeChar c = .ofNat (lead c.toNat) :: trails (following c.toNat) c.toNat := by
  have hvalid := valid_toNat c
  have hval : c.val.toNat = c.toNat := rfl
  rw [String.utf8EncodeChar, hval, lead, following]
  rw [Nat.isValidChar] at hvalid
  generalize c.toNat = n at hvalid
  split_ifs with h1 h2 h3
  · simp [mark, trails]
  · have h : n / 64 % 32 = n / 64 := by omega
    simp [mark, trails, trail, h]
  · have h : n / 4096 % 16 = n / 4096 := by omega
    simp [mark, trails, trail, h]
  · have h : n / 262144 % 8 = n / 262144 := by omega
    simp [mark, trails, trail, h]

theorem trail_lt (k n : ℕ) : trail k n < 0x100 := by
  rw [trail]
  omega

/-- No character starts with one of the other bytes. -/
theorem lead_range {n : ℕ} (h : n.isValidChar) :
    lead n < 0x80 ∨ 0xC2 ≤ lead n ∧ lead n ≤ 0xF4 := by
  rw [Nat.isValidChar] at h
  rw [lead, following]
  split_ifs <;> simp only [mark, bits_zero, bits_one, bits_two, bits_three] <;> omega

theorem lead_lt {n : ℕ} (h : n.isValidChar) : lead n < 0x100 := by
  have := lead_range h
  omega

theorem eq_ofNat_iff {b : UInt8} {n : ℕ} (h : n < 0x100) : b = .ofNat n ↔ b.toNat = n := by
  rw [← UInt8.toNat_inj, UInt8.toNat_ofNat', Nat.mod_eq_of_lt h]

theorem cons_eq_encode_iff {b : UInt8} {c : Char} {t : List UInt8} :
    b :: t = String.utf8EncodeChar c ↔
      b.toNat = lead c.toNat ∧ t = trails (following c.toNat) c.toNat := by
  rw [encode_eq, List.cons.injEq, eq_ofNat_iff (lead_lt (valid_toNat c))]

theorem cons_eq_trails_iff {b : UInt8} {k n : ℕ} {t : List UInt8} :
    b :: t = trails (k + 1) n ↔ b.toNat = trail k n ∧ t = trails k n := by
  rw [trails, List.cons.injEq, eq_ofNat_iff (trail_lt k n)]

theorem toNat_ofNat {n : ℕ} (h : n.isValidChar) : (Char.ofNat n).toNat = n := by
  rw [Char.ofNat, dif_pos h]
  rfl

/-- The first byte tells how many bytes follow, and the highest bits. -/
theorem lead_eq_iff {n more code : ℕ} (hmore : more ≤ 2) (hcode : code < 2 ^ (5 - more)) :
    code + mark (more + 1) = lead n ↔ following n = more + 1 ∧ bits (more + 1) n = code := by
  rw [lead, following]
  obtain rfl | rfl | rfl : more = 0 ∨ more = 1 ∨ more = 2 := by omega
  all_goals
    split_ifs <;>
    simp only [mark, bits_zero, bits_one, bits_two, bits_three, Nat.reduceAdd, Nat.reduceEqDiff,
      true_and, false_and, iff_false] <;>
    omega

/-! ## Open sequences -/

/-- After the bytes `s` the machine is inside a sequence: these are the characters that begin with
`s`, and the bytes from `lo` to `hi` are those that go on with one of them. -/
structure Open (lo hi more code : ℕ) (s : List UInt8) : Prop where
  ne_nil : s ≠ []
  continuation : 0x80 ≤ lo ∧ lo ≤ hi ∧ hi ≤ 0xBF
  encode_iff : ∀ (c : Char) (t : List UInt8), s ++ t = String.utf8EncodeChar c ↔
    (following c.toNat = s.length + more ∧ bits (more + 1) c.toNat = code) ∧
      t = trails (more + 1) c.toNat
  valid_iff : ∀ n, bits (more + 1) n = code →
    (n.isValidChar ∧ following n = s.length + more ↔ lo ≤ trail more n ∧ trail more n ≤ hi)

/-- The bits behind a byte that goes on. -/
theorem bits_eq_iff {b more code n : ℕ} (h : 0x80 ≤ b ∧ b ≤ 0xBF) :
    bits more n = 0x40 * code + (b - 0x80) ↔ bits (more + 1) n = code ∧ b = trail more n := by
  rw [bits_succ, trail]
  omega

namespace Open

variable {lo hi more code : ℕ} {s : List UInt8} {b : UInt8}

theorem isContinuation (h : Open lo hi more code s) {n : ℕ} (hn : lo ≤ n ∧ n ≤ hi) :
    0x80 ≤ n ∧ n ≤ 0xBF := by
  have := h.continuation
  omega

theorem encode_cons_iff (h : Open lo hi more code s) (c : Char) (t : List UInt8) :
    s ++ b :: t = String.utf8EncodeChar c ↔
      (following c.toNat = s.length + more ∧ bits (more + 1) c.toNat = code ∧
        b.toNat = trail more c.toNat) ∧ t = trails more c.toNat := by
  rw [h.encode_iff, cons_eq_trails_iff]
  tauto

theorem extend (h : Open lo hi (more + 1) code s) (hb : lo ≤ b.toNat ∧ b.toNat ≤ hi) :
    Open 0x80 0xBF more (0x40 * code + (b.toNat - 0x80)) (s ++ [b]) := by
  have hcontinuation := h.isContinuation hb
  have hlength : (s ++ [b]).length + more = s.length + (more + 1) := by
    rw [List.length_append, List.length_singleton]
    omega
  refine ⟨by simp, by omega, fun c t => ?_, fun n hn => ?_⟩
  · rw [List.append_assoc, List.singleton_append, h.encode_cons_iff, hlength,
      bits_eq_iff hcontinuation]
  · obtain ⟨hcode, htrail⟩ := (bits_eq_iff hcontinuation).mp hn
    rw [hlength, h.valid_iff n hcode, ← htrail]
    simp only [hb, trail, and_self, true_iff]
    omega

/-- A byte that goes on with the last one open ends a character. -/
theorem close (h : Open lo hi 0 code s) (hb : lo ≤ b.toNat ∧ b.toNat ≤ hi) :
    s ++ [b] = String.utf8EncodeChar (.ofNat (0x40 * code + (b.toNat - 0x80))) := by
  have hcontinuation := h.isContinuation hb
  obtain ⟨hcode, htrail⟩ := (bits_eq_iff hcontinuation).mp (bits_zero _)
  have hvalid := (h.valid_iff _ hcode).mpr (htrail ▸ hb)
  rw [h.encode_cons_iff, toNat_ofNat hvalid.1]
  exact ⟨⟨hvalid.2, hcode, htrail⟩, rfl⟩

/-- With the lowest byte that goes on, and no more bits, a character is begun. -/
theorem begins (h : Open lo hi more code s) : Begins s := by
  have hlo : lo ≤ lo ∧ lo ≤ hi := ⟨Nat.le_refl lo, h.continuation.2.1⟩
  let n := (0x40 * code + (lo - 0x80)) * 0x40 ^ more
  have hbits : bits more n = 0x40 * code + (lo - 0x80) := Nat.mul_div_cancel _ (by positivity)
  obtain ⟨hcode, htrail⟩ := (bits_eq_iff (h.isContinuation hlo)).mp hbits
  have hvalid := (h.valid_iff n hcode).mpr (htrail ▸ hlo)
  refine ⟨.ofNat n, trails (more + 1) n, List.cons_ne_nil _ _, ?_⟩
  rw [h.encode_iff, toNat_ofNat hvalid.1]
  exact ⟨⟨hvalid.2, hcode⟩, rfl⟩

theorem range_of_encode (h : Open lo hi more code s) {c : Char} {t : List UInt8}
    (hc : s ++ b :: t = String.utf8EncodeChar c) : lo ≤ b.toNat ∧ b.toNat ≤ hi := by
  obtain ⟨⟨hfollowing, hcode, htrail⟩, -⟩ := (h.encode_cons_iff c t).mp hc
  rw [htrail]
  exact (h.valid_iff _ hcode).mp ⟨valid_toNat c, hfollowing⟩

/-- A sequence that does not go on is a gap. -/
theorem gap (h : Open lo hi more code s) {rest : List UInt8}
    (hrest : ∀ b ∈ rest.head?, ¬ (lo ≤ b.toNat ∧ b.toNat ≤ hi)) : Gap s rest :=
  .of_stuck h.ne_nil (.inr h.begins) h.begins.not_encode_prefix
    fun b hb _ _ hc => hrest b hb (h.range_of_encode hc)

end Open

/-! ## First bytes -/

structure Opening (b lo hi more code : ℕ) : Prop where
  lead_eq : b = code + mark (more + 1)
  more_le : more ≤ 2
  code_lt : code < 2 ^ (5 - more)
  continuation : 0x80 ≤ lo ∧ lo ≤ hi ∧ hi ≤ 0xBF
  valid_iff : ∀ n, bits (more + 1) n = code →
    (n.isValidChar ∧ following n = 1 + more ↔ lo ≤ trail more n ∧ trail more n ≤ hi)

inductive FirstByte (b : ℕ) : State × List Piece → Prop where
  | ascii (h : b < 0x80) : FirstByte b (.between, [some (Char.ofNat b)])
  | opening {lo hi more code : ℕ} (h : Opening b lo hi more code) :
      FirstByte b (.inside lo hi more code, [])
  | stray (h : 0x80 ≤ b ∧ b < 0xC2 ∨ 0xF4 < b) : FirstByte b (.between, [none])

theorem firstByte_first (b : ℕ) : FirstByte b (first b) := by
  rw [first]
  split_ifs with hascii
  · exact .ascii hascii
  on_goal 8 => exact .stray (by omega)
  -- Seven classes open a sequence; in each, what is asked of the codes comes down to intervals.
  all_goals
    refine .opening ⟨by simp only [mark]; omega, by omega, by omega, by omega, fun n hn => ?_⟩
    simp only [Nat.isValidChar, following_eq_iff, trail, bits_zero, bits_one, bits_two,
      bits_three, Nat.reduceAdd, Nat.reduceEqDiff, and_true, and_false, or_false,
      false_or] at hn ⊢
    omega

section FirstByte

variable {b : UInt8}

theorem Opening.toOpen {lo hi more code : ℕ} (h : Opening b.toNat lo hi more code) :
    Open lo hi more code [b] := by
  refine ⟨List.cons_ne_nil b [], h.continuation, fun c t => ?_, h.valid_iff⟩
  rw [List.singleton_append, cons_eq_encode_iff, h.lead_eq, lead_eq_iff h.more_le h.code_lt,
    List.length_singleton, Nat.add_comm 1 more]
  exact and_congr_right fun hc => by rw [hc.1]

theorem encode_ascii (h : b.toNat < 0x80) :
    [b] = String.utf8EncodeChar (.ofNat b.toNat) := by
  have hvalid : b.toNat.isValidChar := .inl (by omega)
  have hfollowing : following b.toNat = 0 := if_pos (by omega)
  rw [cons_eq_encode_iff, toNat_ofNat hvalid, lead, hfollowing]
  simp [mark, trails]

/-- A byte that starts no character is a gap by itself. -/
theorem gap_stray (h : 0x80 ≤ b.toNat ∧ b.toNat < 0xC2 ∨ 0xF4 < b.toNat) (rest : List UInt8) :
    Gap [b] rest := by
  have hne (c : Char) (t : List UInt8) : b :: t ≠ String.utf8EncodeChar c := by
    intro hc
    have hlead := (cons_eq_encode_iff.mp hc).1
    have hrange := lead_range (valid_toNat c)
    omega
  refine .of_stuck (List.cons_ne_nil b []) (.inl rfl) (fun c hc => ?_) fun b' _ c t => hne c _
  cases hbytes : String.utf8EncodeChar c with
  | nil => exact String.utf8EncodeChar_ne_nil hbytes
  | cons x t =>
    rw [hbytes, List.cons_prefix_cons] at hc
    exact hne c t (hc.1 ▸ hbytes.symm)

end FirstByte

/-! ## The machine -/

/-- The bytes that are read and not yet told of. -/
inductive State.Holds : State → List UInt8 → Prop where
  | between : Holds .between []
  | inside {lo hi more code : ℕ} {s : List UInt8} (h : Open lo hi more code s) :
      Holds (.inside lo hi more code) s

/-- From any state, what comes out is the text of the bytes held there and of those to come. -/
theorem decodes_run {state : State} {s : List UInt8} (h : state.Holds s) (bytes : List UInt8) :
    Decodes (s ++ bytes) ((run state bytes).map (·.getD '\uFFFD')) := by
  induction bytes generalizing state s with
  | nil =>
    cases h with
    | between => exact .nil
    | inside h => exact .gap (h.gap (by simp)) .nil
  | cons b bytes ih =>
    have hfirst : Decodes (b :: bytes)
        (((first b.toNat).2 ++ run (first b.toNat).1 bytes).map (·.getD '\uFFFD')) := by
      have hbyte := firstByte_first b.toNat
      generalize first b.toNat = result at hbyte
      cases hbyte with
      | ascii hascii =>
        rw [← List.singleton_append, encode_ascii hascii]
        exact .char _ (ih .between)
      | opening hopening => exact ih (.inside hopening.toOpen)
      | stray hstray => exact .gap (gap_stray hstray bytes) (ih .between)
    cases h with
    | between => exact hfirst
    | @inside lo hi more code s h =>
      rw [run, step]
      split_ifs with hb
      · rw [List.append_cons]
        cases more with
        | zero =>
          rw [h.close hb]
          simp only [List.singleton_append, List.map_cons, Option.getD_some]
          exact .char _ (ih .between)
        | succ more => exact ih (.inside (h.extend hb))
      · exact .gap (h.gap (by simpa using hb)) hfirst

theorem decodes_decodeLossy (bytes : List UInt8) : Decodes bytes (decodeLossy bytes) :=
  decodes_run .between bytes

theorem decodes_iff {bytes : List UInt8} {text : List Char} :
    Decodes bytes text ↔ text = decodeLossy bytes :=
  ⟨fun h => h.unique (decodes_decodeLossy bytes), fun h => h ▸ decodes_decodeLossy bytes⟩

/-- The second byte goes on with the first, the third does not, and the last begins nothing. -/
example : decodeLossy [0xF0, 0x90, 0x41, 0xFF] = ['\uFFFD', 'A', '\uFFFD'] := by decide

end JumpArrows.Utf8
