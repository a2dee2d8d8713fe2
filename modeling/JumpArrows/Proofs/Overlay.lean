import JumpArrows.Proofs.AcceptedTexts
import JumpArrows.Proofs.RoundTrips

/-! # Partial configurations

An object with some of the fields of a configuration is laid over the defaults. The order of its
members, white space, the ways to spell a string and members of other names make no difference, in
the object as in the object of its alphabet. Only a field that is given twice does, and a name that
is no text. -/

namespace JumpArrows

namespace Json

/-! ## Objects with some of the fields -/

/-- An object in which some fields are set, each at most once and in any order. Members of any
other names, of which some may be no texts, and of any values, may stand among them. -/
structure Overlay {σ : Type} (names : List String) (member : σ → String × Json) where
  members : List (Option String × Json)
  settings : List σ
  named_eq : named names members = settings.map member
  once : ((settings.map member).map Prod.fst).Nodup

section Overlays

variable {σ : Type} {names : List String} {member : σ → String × Json}

theorem Overlay.fields? (o : Overlay names member) (htext : HasTextNames o.members)
    (partly : Bool) : (object o.members).fields? names partly = some (o.settings.map member) := by
  rw [fields?_object, o.named_eq, if_pos ⟨htext, o.once⟩]

theorem Overlay.mem_members (o : Overlay names member) {s : σ} (h : s ∈ o.settings) :
    (some (member s).1, (member s).2) ∈ o.members := by
  have hmem : member s ∈ named names o.members := o.named_eq ▸ List.mem_map_of_mem h
  exact mem_textMembers.mp (List.mem_filter.mp hmem).1

/-- If a decoder takes a field that is set once like a change of the preset, it takes a whole row
of fields like these changes in a row. -/
theorem ofFields_settings {α : Type} {apply : σ → α → α} {ofFields : α → Fields → Option α}
    (hnil : ∀ a, ofFields a [] = some a) (settings : List σ)
    (hcons : ∀ s ∈ settings, ∀ a fields, (member s).1 ∉ fields.map Prod.fst →
      ofFields a (member s :: fields) = ofFields (apply s a) fields)
    (honce : ((settings.map member).map Prod.fst).Nodup) (a : α) :
    ofFields a (settings.map member) = some (settings.foldl (fun a s => apply s a) a) := by
  induction settings generalizing a with
  | nil => exact hnil a
  | cons s settings ih =>
    obtain ⟨hs, hrest⟩ := List.nodup_cons.mp honce
    obtain ⟨hconsHead, hconsTail⟩ := List.forall_mem_cons.mp hcons
    rw [List.map_cons, hconsHead a _ hs, ih hconsTail hrest, List.foldl_cons]

end Overlays

end Json

/-! ## Alphabets -/

namespace Alphabet

inductive Setting where
  | vertical (c : Char)
  | cornerDown (c : Char)
  | cornerUp (c : Char)
  | exitMarker (c : Char)
  | entryMarker (c : Char)
  | blank (c : Char)
  | horizontal (c? : Option Char)

def Setting.member : Setting → String × Json
  | .vertical c => ("vertical", charJson c)
  | .cornerDown c => ("corner_down", charJson c)
  | .cornerUp c => ("corner_up", charJson c)
  | .exitMarker c => ("exit_marker", charJson c)
  | .entryMarker c => ("entry_marker", charJson c)
  | .blank c => ("blank", charJson c)
  | .horizontal c? => ("horizontal", (c?.map charJson).getD .null)

def Setting.apply : Setting → Alphabet → Alphabet
  | .vertical c, a => { a with vertical := c }
  | .cornerDown c, a => { a with cornerDown := c }
  | .cornerUp c, a => { a with cornerUp := c }
  | .exitMarker c, a => { a with exitMarker := c }
  | .entryMarker c, a => { a with entryMarker := c }
  | .blank c, a => { a with blank := c }
  | .horizontal c?, a => { a with horizontal := c? }

theorem ofFields_member (s : Setting) (a : Alphabet) (fields : Json.Fields)
    (h : s.member.1 ∉ fields.map Prod.fst) :
    ofFields a (s.member :: fields) = ofFields (s.apply a) fields := by
  -- the field itself stands at the head and nowhere else; the others are looked up behind it
  cases s <;> simp only [Setting.member] at h <;>
    simp [ofFields, Setting.member, Setting.apply, Json.getOr_of_not_mem h]

/-- An alphabet is read from an object as the preset with the given fields replaced. -/
theorem ofJson?_overlay (o : Json.Overlay fieldNames Setting.member)
    (htext : Json.HasTextNames o.members) :
    ofJson? (.object o.members) = some (o.settings.foldl (fun a s => s.apply a) boxes) := by
  rw [ofJson?, o.fields? htext, Option.bind_some]
  exact Json.ofFields_settings (fun _ => rfl) _ (fun s _ => ofFields_member s) o.once boxes

end Alphabet

/-! ## Configurations -/

/-- The other way to give a policy: its name as the only key of an object. -/
def LoopPolicy.toKeyed : LoopPolicy → Json
  | .marker => .record [("marker", .null)]
  | .drop => .record [("drop", .null)]

theorem LoopPolicy.ofJson?_toKeyed (p : LoopPolicy) : ofJson? p.toKeyed = some p := by
  cases p <;> rfl

namespace Config

/-- A field of a configuration with what it is given. The alphabet itself is given in parts. -/
inductive Setting where
  | alphabet (o : Json.Overlay Alphabet.fieldNames Alphabet.Setting.member)
  | loops (policy : LoopPolicy)
  | loopsKeyed (policy : LoopPolicy)
  | jumpPrefixes (prefixes : List String)
  | parallel (b : Bool)

def Setting.member : Setting → String × Json
  | .alphabet o => ("glyphs", .object o.members)
  | .loops policy => ("self_loops", policy.toJson)
  | .loopsKeyed policy => ("self_loops", policy.toKeyed)
  | .jumpPrefixes prefixes => ("jump_prefixes", .array (prefixes.map .string))
  | .parallel b => ("parallel", .bool b)

def Setting.apply : Setting → Config → Config
  | .alphabet o, c => { c with alphabet := o.settings.foldl (fun a s => s.apply a) .boxes }
  | .loops policy, c | .loopsKeyed policy, c => { c with loops := policy }
  | .jumpPrefixes prefixes, c => { c with jumpPrefixes := prefixes }
  | .parallel b, c => { c with parallel := b }

theorem ofFields_member (s : Setting) (htext : ∀ a, s = .alphabet a → Json.HasTextNames a.members)
    (c : Config) (fields : Json.Fields) (h : s.member.1 ∉ fields.map Prod.fst) :
    ofFields c (s.member :: fields) = ofFields (s.apply c) fields := by
  cases s with
  | alphabet a =>
    simp only [Setting.member] at h
    simp [ofFields, Setting.member, Setting.apply, Json.getOr_of_not_mem h,
      Alphabet.ofJson?_overlay a (htext a rfl)]
  | _ =>
    simp only [Setting.member] at h
    simp [ofFields, Setting.member, Setting.apply, Json.getOr_of_not_mem h,
      LoopPolicy.ofJson?_toKeyed]

/-- The names in the object are texts, and so are those in the object of its alphabet. -/
def HasTextNames (o : Json.Overlay fieldNames Setting.member) : Prop :=
  Json.HasTextNames o.members ∧ ∀ a, .alphabet a ∈ o.settings → Json.HasTextNames a.members

theorem ofJson?_overlay {o : Json.Overlay fieldNames Setting.member} (htext : HasTextNames o) :
    ofJson? (.object o.members) = some (o.settings.foldl (fun c s => s.apply c) {}) := by
  rw [ofJson?, o.fields? htext.1, Option.bind_some]
  apply Json.ofFields_settings (fun _ => rfl) _ _ o.once
  intro s hs
  apply ofFields_member
  rintro a rfl
  exact htext.2 a hs

/-! ## Refused objects -/

section Refused

variable {members : List (Option String × Json)} {name : String}

theorem ofJson?_of_alphabet {v : Json} (hv : (some "glyphs", v) ∈ members)
    (h : Alphabet.ofJson? v = none) : ofJson? (.object members) = none := by
  rw [ofJson?]
  cases hfields : (Json.object members).fields? fieldNames true with
  | none => rfl
  | some fields =>
    have hlookup := Json.lookup_of_fields?_object hfields (by decide) hv
    rw [Option.bind_some, ofFields, Json.Fields.getOr, hlookup]
    dsimp only
    rw [h, Option.bind_eq_bind, Option.bind_none]

/-- Every name must be a text, also one that no field has. -/
theorem ofJson?_of_not_hasTextNames {o : Json.Overlay fieldNames Setting.member}
    (h : ¬ HasTextNames o) : ofJson? (.object o.members) = none := by
  rw [HasTextNames, Classical.not_and_iff_not_or_not] at h
  rcases h with hown | halphabet
  · rw [ofJson?, Json.fields?_object_of_not_hasTextNames hown, Option.bind_none]
  · push Not at halphabet
    obtain ⟨a, ha, hnames⟩ := halphabet
    have hglyphs : (some "glyphs", .object a.members) ∈ o.members := o.mem_members ha
    apply ofJson?_of_alphabet hglyphs
    rw [Alphabet.ofJson?, Json.fields?_object_of_not_hasTextNames hnames, Option.bind_none]

/-- No field may be given twice. -/
theorem ofJson?_of_repeated (hname : name ∈ fieldNames)
    (htwice : 2 ≤ (members.map Prod.fst).count (some name)) :
    ofJson? (.object members) = none := by
  rw [ofJson?, Json.fields?_object_of_repeated hname htwice, Option.bind_none]

theorem ofJson?_of_alphabet_repeated {glyphs : List (Option String × Json)}
    (hglyphs : (some "glyphs", .object glyphs) ∈ members) (hname : name ∈ Alphabet.fieldNames)
    (htwice : 2 ≤ (glyphs.map Prod.fst).count (some name)) :
    ofJson? (.object members) = none := by
  apply ofJson?_of_alphabet hglyphs
  rw [Alphabet.ofJson?, Json.fields?_object_of_repeated hname htwice, Option.bind_none]

end Refused

theorem ofText_of_ofJson?_eq_none {v : Json} {text : List Char} (h : v.SpelledAs text)
    (hv : ofJson? v = none) : ofText text = .error .malformed := by
  rw [ofText, Json.parse?_of_spelledAs h, Option.bind_some, hv]

/-- An object with some of the fields, in any order and among any members of other names, gives the
defaults with these fields replaced, if that is sound, and otherwise its fault; and so in whatever
way the object is spelled, if all names in it are texts. A name with a surrogate that lacks its
partner makes the text malformed, and so does a field that is given twice, in the object or in that
of its alphabet. A text that spells no value is malformed, too. -/
theorem ofText_overlay :
    (∀ (o : Json.Overlay fieldNames Setting.member) (text : List Char),
      (Json.object o.members).SpelledAs text →
        (HasTextNames o → ofText text = checked (o.settings.foldl (fun c s => s.apply c) {})) ∧
          (¬ HasTextNames o → ofText text = .error .malformed)) ∧
    (∀ (members : List (Option String × Json)) (text : List Char),
      (Json.object members).SpelledAs text →
      (∃ name ∈ fieldNames, 2 ≤ (members.map Prod.fst).count (some name)) →
        ofText text = .error .malformed) ∧
    (∀ (members glyphs : List (Option String × Json)) (text : List Char),
      (Json.object members).SpelledAs text → (some "glyphs", .object glyphs) ∈ members →
      (∃ name ∈ Alphabet.fieldNames, 2 ≤ (glyphs.map Prod.fst).count (some name)) →
        ofText text = .error .malformed) ∧
    ∀ text, (∃ v : Json, v.SpelledAs text) ∨ ofText text = .error .malformed := by
  refine ⟨fun o text htext => ⟨fun hnames => ?given, fun hnames => ?unnamed⟩,
    fun members text htext ⟨name, hname, htwice⟩ => ?repeated,
    fun members glyphs text htext hglyphs ⟨name, hname, htwice⟩ => ?repeatedGlyph,
    fun text => ?unspelled⟩
  case given =>
    apply ofText_of_parse?
    rw [Json.parse?_of_spelledAs htext, Option.bind_some, ofJson?_overlay hnames]
  case unnamed => exact ofText_of_ofJson?_eq_none htext (ofJson?_of_not_hasTextNames hnames)
  case repeated => exact ofText_of_ofJson?_eq_none htext (ofJson?_of_repeated hname htwice)
  case repeatedGlyph =>
    exact ofText_of_ofJson?_eq_none htext (ofJson?_of_alphabet_repeated hglyphs hname htwice)
  case unspelled =>
    cases hparse : Json.parse? text with
    | none => exact .inr (by rw [ofText, hparse, Option.bind_none])
    | some v => exact .inl ⟨v, Json.parse?_eq_some_iff.mp hparse⟩

theorem ofText_overlay_hue :
    ofText (' ' :: Json.write (.object
      [(some "more", .array [.array []]),
        (some "glyphs", .object [(some "hue", .null), (some "vertical", .string "|")]),
        (some "self_loops", .string "drop")])) =
      .ok { alphabet := { Alphabet.boxes with vertical := '|' }, loops := .drop } ∧
    ofText (Json.write (.object [(some "glyphs", .object [(none, .null)])])) =
      .error .malformed ∧
    ofText (Json.write (.object
      [(some "parallel", .bool true), (some "parallel", .bool true)])) = .error .malformed ∧
    ofText (Json.write (.object
      [(some "glyphs", .object [(some "blank", .string "."), (some "blank", .string "_")])])) =
      .error .malformed := by
  let glyphs : Json.Overlay Alphabet.fieldNames Alphabet.Setting.member :=
    ⟨[(some "hue", .null), (some "vertical", .string "|")], [.vertical '|'], rfl, by decide⟩
  let config : Json.Overlay fieldNames Setting.member :=
    ⟨[(some "more", .array [.array []]), (some "glyphs", .object glyphs.members),
      (some "self_loops", .string "drop")], [.alphabet glyphs, .loops .drop], rfl, by decide⟩
  have hglyphs : Json.HasTextNames glyphs.members := by decide
  have hnames : HasTextNames config := ⟨by decide, by simpa [config] using hglyphs⟩
  let unnamedGlyph : Json.Overlay Alphabet.fieldNames Alphabet.Setting.member :=
    ⟨[(none, .null)], [], rfl, .nil⟩
  let unnamed : Json.Overlay fieldNames Setting.member :=
    ⟨[(some "glyphs", .object unnamedGlyph.members)], [.alphabet unnamedGlyph], rfl, by decide⟩
  have hunnamed : ¬ HasTextNames unnamed := by
    simp [HasTextNames, Json.HasTextNames, unnamed, unnamedGlyph]
  have hspace : Json.IsSpacing [' '] := by simp [Json.IsSpacing, Json.isSpace]
  refine ⟨?given, ?unnamed, ?repeated, ?repeatedGlyph⟩
  case given =>
    have hspelled := (Json.spelledAs_write (.object config.members)).space hspace
    exact ((ofText_overlay.1 config _ hspelled).1 hnames).trans rfl
  case unnamed => exact (ofText_overlay.1 unnamed _ (Json.spelledAs_write _)).2 hunnamed
  case repeated =>
    exact ofText_overlay.2.1 _ _ (Json.spelledAs_write _) ⟨"parallel", by decide, by decide⟩
  case repeatedGlyph =>
    exact ofText_overlay.2.2.1 _ _ _ (Json.spelledAs_write _) List.mem_cons_self
      ⟨"blank", by decide, by decide⟩

/-- Not every member of another name is passed over: an object whose only name is a lone surrogate
sets no field, yet it does not give the defaults. -/
theorem not_overlay_lone_surrogate :
    ¬ ∀ (o : Json.Overlay fieldNames Setting.member) (text : List Char),
      (Json.object o.members).SpelledAs text →
        ofText text = checked (o.settings.foldl (fun c s => s.apply c) {}) := by
  intro h
  let o : Json.Overlay fieldNames Setting.member := ⟨[(none, .natural 0)], [], rfl, .nil⟩
  have hspelled : (Json.object o.members).SpelledAs "\x7b\"\\ud800\":0\x7d".toList :=
    Json.spelledAs_write (.object o.members)
  have hmalformed := ofText_of_ofJson?_eq_none hspelled rfl
  have hdefaults := h o _ hspelled
  rw [hmalformed] at hdefaults
  cases hdefaults

end Config

end JumpArrows
