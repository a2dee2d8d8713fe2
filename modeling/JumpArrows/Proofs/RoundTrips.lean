import JumpArrows.Codec.Config
import JumpArrows.Codec.Edge
import JumpArrows.Codec.Listing
import JumpArrows.Proofs.CompactText
import JumpArrows.Proofs.RecordFields

/-! # Values come back from their JSON

Every decoder undoes its encoder, from the characters and words up to whole records, so a value
comes back from its compact text. A configuration that is read from a text has to pass its check as
well. -/

namespace JumpArrows

namespace Json

/-- The compact text of the value is read as this value again. -/
def ComesBack {α : Type} (toJson : α → Json) (ofJson? : Json → Option α) (x : α) : Prop :=
  (parse? (compact (toJson x)).toList).bind ofJson? = some x

theorem comesBack_of_ofJson? {α : Type} {toJson : α → Json} {ofJson? : Json → Option α} {x : α}
    (h : ofJson? (toJson x) = some x) : ComesBack toJson ofJson? x := by
  rw [ComesBack, parse?_compact, Option.bind_some, h]

/-! ## Single data -/

@[simp]
theorem text?_string (s : String) : text? (.string s) = some s :=
  rfl

@[simp]
theorem bool?_bool (b : Bool) : bool? (.bool b) = some b :=
  rfl

@[simp]
theorem natural?_toNat (w : UInt64) : natural? (.natural w.toNat) = some w.toNat :=
  if_pos w.toNat_lt

@[simp]
theorem word?_toNat (w : UInt64) : word? (.natural w.toNat) = some w := by
  rw [word?, natural?_toNat, Option.map_some, UInt64.ofNat_toNat]

@[simp]
theorem char?_charJson (c : Char) : char? (Alphabet.charJson c) = some c := by
  simp [char?, Alphabet.charJson]

@[simp]
theorem nullable?_char (c? : Option Char) :
    nullable? char? ((c?.map Alphabet.charJson).getD .null) = some c? := by
  cases c? with
  | none => rfl
  | some c => exact congrArg (Option.map some) (char?_charJson c)

@[simp]
theorem nullable?_text (s? : Option String) :
    nullable? text? (ofString? s?) = some s? := by
  cases s? <;> rfl

@[simp]
theorem list?_text (texts : List String) :
    list? text? (.array (texts.map .string)) = some texts := by
  rw [list?]
  apply mapM_map_of_leftInverse
  exact fun _ => rfl

end Json

/-! ## Cases -/

@[simp]
theorem Glyph.ofJson?_toJson (g : Glyph) : ofJson? g.toJson = some g := by
  cases g <;> rfl

@[simp]
theorem Direction.ofJson?_toJson (d : Direction) : ofJson? d.toJson = some d := by
  cases d <;> rfl

@[simp]
theorem LoopPolicy.ofJson?_toJson (p : LoopPolicy) : ofJson? p.toJson = some p := by
  cases p <;> rfl

/-! ## Records -/

@[simp]
theorem Alphabet.ofJson?_toJson (a : Alphabet) : ofJson? a.toJson = some a := by
  rw [ofJson?, toJson, Json.fields?_record_all]
  · simp [ofFields]
  · rfl
  · decide

theorem Config.ofJson?_toJson (c : Config) : ofJson? c.toJson = some c := by
  rw [ofJson?, toJson, Json.fields?_record_all]
  · simp [ofFields]
  · rfl
  · decide

theorem Edge.ofJson?_toJson (source target : UInt64) (d : Direction) :
    ofJson? (toJson ⟨source.toNat, target.toNat, d⟩) = some ⟨source.toNat, target.toNat, d⟩ := by
  rw [ofJson?, toJson, Json.fields?_record_all]
  · simp
  · rfl
  · decide

theorem Instruction.ofJson?_toJson (index address : UInt64) (mnemonic operands : Option String) :
    ofJson? (toJson ⟨index.toNat, address, mnemonic, operands⟩) =
      some ⟨index.toNat, address, mnemonic, operands⟩ := by
  rw [ofJson?, toJson, Json.fields?_record_all]
  · simp
  · rfl
  · decide

theorem Record.ofJson?_toJson (r : Record) : ofJson? r.toJson = some r := by
  rw [ofJson?, toJson, Json.fields?_record_all]
  · simp
  · rfl
  · decide

/-! ## Checked configurations -/

namespace Config

def checked (c : Config) : Except Error Config :=
  match c.fault? with
  | none => .ok c
  | some fault => .error (.unsound fault)

theorem ofText_of_parse? {text : List Char} {c : Config}
    (h : (Json.parse? text).bind ofJson? = some c) : ofText text = c.checked := by
  simp only [ofText, h, checked]
  cases c.fault? <;> rfl

end Config

/-- Every value comes back from its compact text, whatever characters, texts and words it holds,
and whichever direction an edge bears. A configuration that is also checked comes back if it is
sound; otherwise its fault is told. -/
theorem comesBack_json :
    (∀ c : Config, Json.ComesBack Config.toJson Config.ofJson? c) ∧
    (∀ a : Alphabet, Json.ComesBack Alphabet.toJson Alphabet.ofJson? a) ∧
    (∀ (source target : UInt64) (d : Direction),
      Json.ComesBack Edge.toJson Edge.ofJson? ⟨source.toNat, target.toNat, d⟩) ∧
    (∀ d : Direction, Json.ComesBack Direction.toJson Direction.ofJson? d) ∧
    (∀ g : Glyph, Json.ComesBack Glyph.toJson Glyph.ofJson? g) ∧
    (∀ (index address : UInt64) (mnemonic operands : Option String),
      Json.ComesBack Instruction.toJson Instruction.ofJson?
        ⟨index.toNat, address, mnemonic, operands⟩) ∧
    (∀ r : Record, Json.ComesBack Record.toJson Record.ofJson? r) ∧
    ∀ c : Config, Config.ofText (Json.compact c.toJson).toList = c.checked := by
  refine ⟨fun c => ?config, fun a => ?alphabet, fun source target d => ?edge, fun d => ?direction,
    fun g => ?glyph, fun index address mnemonic operands => ?instruction, fun r => ?record,
    fun c => ?checked⟩
  case config => exact Json.comesBack_of_ofJson? c.ofJson?_toJson
  case alphabet => exact Json.comesBack_of_ofJson? a.ofJson?_toJson
  case edge => exact Json.comesBack_of_ofJson? (Edge.ofJson?_toJson source target d)
  case direction => exact Json.comesBack_of_ofJson? d.ofJson?_toJson
  case glyph => exact Json.comesBack_of_ofJson? g.ofJson?_toJson
  case instruction =>
    exact Json.comesBack_of_ofJson? (Instruction.ofJson?_toJson index address mnemonic operands)
  case record => exact Json.comesBack_of_ofJson? r.ofJson?_toJson
  case checked => exact Config.ofText_of_parse? (Json.comesBack_of_ofJson? c.ofJson?_toJson)

end JumpArrows
