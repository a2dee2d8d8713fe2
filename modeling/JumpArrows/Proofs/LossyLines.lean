import JumpArrows.Proofs.AnnotatedText
import JumpArrows.Proofs.LossyDecoding

/-! # Lines of bytes

A listing in bytes can be cut at its line feeds before it is decoded or after. A line feed ends
every sequence that is open, and no longer sequence has one inside, so both ways give the same
records, whatever is wrong with the bytes. -/

namespace JumpArrows

namespace Utf8

/-! ## Line feeds among the bytes -/

theorem ge_of_mem_trails {b : UInt8} {k n : ℕ} (h : b ∈ trails k n) : 0x80 ≤ b.toNat := by
  induction k with
  | zero => exact absurd h List.not_mem_nil
  | succ k ih =>
    rw [trails, List.mem_cons, eq_ofNat_iff (trail_lt k n)] at h
    rcases h with h | h
    · rw [h, trail]
      omega
    · exact ih h

theorem eq_feed_of_mem_encode {c : Char} (h : 0x0A ∈ String.utf8EncodeChar c) : c = '\n' := by
  rw [encode_eq, List.mem_cons, eq_ofNat_iff (lead_lt (valid_toNat c))] at h
  rcases h with h | h
  · apply Char.toNat_inj.mp
    change 0x0A = lead c.toNat at h
    change c.toNat = 0x0A
    rw [lead, following] at h
    split_ifs at h <;> simp only [mark, bits_zero, bits_one, bits_two, bits_three] at h <;> omega
  · exact absurd (ge_of_mem_trails h) (by decide)

/-- No sequence goes on with a line feed. -/
theorem append_feed_ne_encode {s : List UInt8} (hs : s ≠ []) (t : List UInt8) (c : Char) :
    s ++ 0x0A :: t ≠ String.utf8EncodeChar c := by
  intro h
  obtain rfl : c = '\n' := eq_feed_of_mem_encode (h ▸ by simp)
  have hlength := congrArg List.length h
  have hpos := List.length_pos_of_ne_nil hs
  have hone : (String.utf8EncodeChar '\n').length = 1 := by decide
  rw [List.length_append, List.length_cons, hone] at hlength
  omega

/-- What comes behind a line feed does not matter to a gap in front of it. -/
theorem Gap.append_feed {s rest : List UInt8} (h : Gap s rest) (t : List UInt8) :
    Gap s (rest ++ 0x0A :: t) := by
  refine .of_stuck h.ne_nil h.begins (fun c hc => ?_) fun b hb c u => ?_
  · exact h.unreadable c (hc.trans (List.prefix_append s rest))
  · cases rest with
    | nil =>
      obtain rfl : 0x0A = b := by simpa using hb
      exact append_feed_ne_encode h.ne_nil u c
    | cons x rest => exact h.stuck hb c u

namespace Decodes

variable {s t : List UInt8} {text text' : List Char}

/-- What stands in front of a line feed is decoded by itself, and so is what stands behind it. -/
theorem append_feed (h : Decodes s text) (h' : Decodes t text') :
    Decodes (s ++ 0x0A :: t) (text ++ '\n' :: text') := by
  induction h with
  | nil => exact .char '\n' h'
  | char c _ ih =>
    rw [List.append_assoc]
    exact .char c ih
  | gap hgap _ ih =>
    rw [List.append_assoc]
    exact .gap (hgap.append_feed t) ih

theorem feed_not_mem (h : Decodes s text) (hs : 0x0A ∉ s) : '\n' ∉ text := by
  induction h with
  | nil => exact List.not_mem_nil
  | char c _ ih =>
    rw [List.mem_append, not_or] at hs
    have hc : '\n' ≠ c := by
      rintro rfl
      exact hs.1 (by decide)
    exact List.not_mem_cons_of_ne_of_not_mem hc (ih hs.2)
  | gap _ _ ih =>
    rw [List.mem_append, not_or] at hs
    exact List.not_mem_cons_of_ne_of_not_mem (by decide) (ih hs.2)

theorem eq_nil_iff (h : Decodes s text) : text = [] ↔ s = [] := by
  cases h with
  | nil => simp
  | char c _ => simp [String.utf8EncodeChar_ne_nil]
  | gap hgap _ => simp [hgap.ne_nil]

end Decodes

theorem decodeLossy_append_feed (s t : List UInt8) :
    decodeLossy (s ++ 0x0A :: t) = decodeLossy s ++ '\n' :: decodeLossy t :=
  (decodes_iff.mp ((decodes_decodeLossy s).append_feed (decodes_decodeLossy t))).symm

/-- Decoding and cutting at line feeds commute. -/
theorem splitOn_decodeLossy (s : List UInt8) :
    (decodeLossy s).splitOn '\n' = (s.splitOn 0x0A).map decodeLossy := by
  by_cases hs : 0x0A ∈ s
  · obtain ⟨line, rest, rfl, hline⟩ := List.eq_append_cons_of_mem hs
    rw [decodeLossy_append_feed, List.splitOn_append_cons_self_of_not_mem hline,
      List.splitOn_append_cons_self_of_not_mem ((decodes_decodeLossy line).feed_not_mem hline),
      splitOn_decodeLossy rest, List.map_cons]
  · rw [List.splitOn_eq_singleton hs,
      List.splitOn_eq_singleton ((decodes_decodeLossy s).feed_not_mem hs), List.map_singleton]
termination_by s.length

end Utf8

/-! ## Records -/

theorem Text.cutLines_of_splitOn {α : Type} [BEq α] {sep : α} {s last : List α}
    {init : List (List α)} (h : s.splitOn sep = init ++ [last]) :
    cutLines sep s = init.map (· ++ [sep]) ++ if last.isEmpty then [] else [last] := by
  simp only [cutLines, h, List.getLastD_concat, List.dropLast_concat]

namespace Record

/-- The line feed of a line is no part of its record. -/
theorem ofLine_append_feed (l : List Char) : ofLine (l ++ ['\n']) = ofLine l := by
  have hdrop : Text.dropEndWhile Text.isLineEnd (l ++ ['\n']) =
      Text.dropEndWhile Text.isLineEnd l :=
    List.rdropWhile_concat_pos _ _ _ rfl
  rw [ofLine, ofLine, hdrop]

theorem ofBytes_of_splitOn {bytes last : List UInt8} {init : List (List UInt8)}
    (h : bytes.splitOn 0x0A = init ++ [last]) :
    ofBytes bytes =
      (init ++ if last.isEmpty then [] else [last]).map fun line =>
        ofLine (Utf8.decodeLossy line) := by
  rw [ofBytes, Text.cutLines_of_splitOn h, List.map_append, List.map_append, List.map_map]
  congr 1
  apply List.map_congr_left
  intro line _
  change ofLine (Utf8.decodeLossy (line ++ [0x0A])) = _
  rw [Utf8.decodeLossy_append_feed]
  exact ofLine_append_feed _

/-- Bytes are read like the text that they stand for. -/
theorem ofBytes_eq_ofText (bytes : List UInt8) :
    ofBytes bytes = ofText (.ofList (Utf8.decodeLossy bytes)) := by
  obtain ⟨init, last, hbytes⟩ : ∃ init last, bytes.splitOn 0x0A = init ++ [last] :=
    ⟨_, _, (List.dropLast_concat_getLast (List.splitOn_ne_nil 0x0A bytes)).symm⟩
  have htext : (Utf8.decodeLossy bytes).splitOn '\n' =
      init.map Utf8.decodeLossy ++ [Utf8.decodeLossy last] := by
    rw [Utf8.splitOn_decodeLossy, hbytes, List.map_append, List.map_singleton]
  obtain ⟨hinit, hlast, hcut⟩ := Text.cut_of_splitOn htext
  have hempty : (Utf8.decodeLossy last).isEmpty = last.isEmpty := by
    rw [Bool.eq_iff_iff, List.isEmpty_iff, List.isEmpty_iff]
    exact (Utf8.decodes_decodeLossy last).eq_nil_iff
  rw [ofBytes_of_splitOn hbytes,
    ofText_of_cut hinit hlast (by rw [String.toList_ofList, hcut]), hempty]
  cases last.isEmpty <;> simp

/-- Whatever the bytes of a file are, it is read, and its records are those of the one text that
the bytes stand for. -/
theorem ofFile_decodes (bytes : List UInt8) :
    (∀ text, Utf8.Decodes bytes text ↔ text = Utf8.decodeLossy bytes) ∧
      ofBytes bytes = ofText (.ofList (Utf8.decodeLossy bytes)) ∧
      ofFile (some bytes) = .ok (ofText (.ofList (Utf8.decodeLossy bytes))) := by
  refine ⟨fun text => Utf8.decodes_iff, ofBytes_eq_ofText bytes, ?_⟩
  rw [← ofBytes_eq_ofText]
  rfl

end Record

end JumpArrows
