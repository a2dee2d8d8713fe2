import JumpArrows.Json.Decoder
import Mathlib.Data.List.Nodup

/-! # The fields of a record

What a decoder finds in an object: the members with one of its names, in their order, if no such
name is used twice and all names, its own and others, are texts. -/

namespace JumpArrows.Json

/-- A row is read back from its written items, if every item is. -/
theorem mapM_map_of_leftInverse {α β : Type} {f : α → β} {g : β → Option α}
    (h : ∀ x, g (f x) = some x) (xs : List α) : (xs.map f).mapM g = some xs := by
  induction xs with
  | nil => rfl
  | cons x xs ih => rw [List.map_cons, List.mapM_cons, h, ih]; rfl

section Members

variable {names : List String} {members : List (Option String × Json)} {partly : Bool}
  {name : String}

/-- Every name is a text: no surrogate in it is without its partner. -/
def HasTextNames (members : List (Option String × Json)) : Prop :=
  ∀ m ∈ members, m.1 ≠ none

instance : Decidable (HasTextNames members) :=
  inferInstanceAs (Decidable (∀ m ∈ members, m.1 ≠ none))

def textMembers (members : List (Option String × Json)) : List (String × Json) :=
  members.filterMap fun m => m.1.map (·, m.2)

def named (names : List String) (members : List (Option String × Json)) : Fields :=
  (textMembers members).filter fun m => names.contains m.1

theorem mem_textMembers {v : Json} :
    (name, v) ∈ textMembers members ↔ (some name, v) ∈ members := by
  simp [textMembers]

/-- A member whose name is no text refuses the whole row. -/
theorem mapM_name (members : List (Option String × Json)) :
    members.mapM (fun (m : Option String × Json) => m.1.map (·, m.2)) =
      if HasTextNames members then some (textMembers members) else none := by
  induction members with
  | nil => rfl
  | cons m members ih =>
    obtain ⟨name?, v⟩ := m
    cases name? with
    | none => simp [HasTextNames]
    | some name =>
      have hnames : HasTextNames ((some name, v) :: members) ↔ HasTextNames members := by
        simp [HasTextNames]
      rw [List.mapM_cons, ih, if_congr hnames rfl rfl]
      split_ifs <;> rfl

theorem fields?_object (names : List String) (partly : Bool)
    (members : List (Option String × Json)) :
    (object members).fields? names partly =
      if HasTextNames members ∧ ((named names members).map Prod.fst).Nodup
      then some (named names members) else none := by
  rw [fields?, members?, mapM_name, ite_and]
  split_ifs with htext honce
  · exact if_pos honce
  · exact if_neg honce
  · rfl

theorem fields?_object_of_not_hasTextNames (h : ¬ HasTextNames members) :
    (object members).fields? names partly = none := by
  rw [fields?_object, if_neg]
  exact fun hfields => h hfields.1

theorem count_textMembers :
    ((textMembers members).map Prod.fst).count name = (members.map Prod.fst).count (some name) := by
  induction members with
  | nil => rfl
  | cons m members ih =>
    obtain ⟨name?, v⟩ := m
    cases name? with
    | none => simpa [textMembers] using ih
    | some name' => simpa [textMembers, List.count_cons] using ih

theorem fields?_object_of_repeated (hname : name ∈ names)
    (htwice : 2 ≤ (members.map Prod.fst).count (some name)) :
    (object members).fields? names partly = none := by
  have hkeys : (named names members).map Prod.fst =
      ((textMembers members).map Prod.fst).filter fun key => names.contains key := by
    rw [List.filter_map]
    rfl
  rw [fields?_object, if_neg]
  rintro ⟨-, honce⟩
  have hcount := List.nodup_iff_count_le_one.mp honce name
  rw [hkeys, List.count_filter (List.contains_iff_mem.mpr hname), count_textMembers] at hcount
  omega

/-- A record of all the names is taken as it is. -/
theorem fields?_record_all {members : List (String × Json)}
    (hnames : members.map Prod.fst = names) (honce : names.Nodup) :
    (record members).fields? names partly = some members := by
  have htext : textMembers (members.map fun m => (some m.1, m.2)) = members := by
    simp [textMembers, List.filterMap_map]
  have hall : named names (members.map fun m => (some m.1, m.2)) = members := by
    rw [named, htext, List.filter_eq_self]
    intro m hm
    rw [List.contains_iff_mem, ← hnames]
    exact List.mem_map_of_mem hm
  rw [record, fields?_object, hall, if_pos]
  exact ⟨List.forall_mem_map.mpr fun _ _ => Option.some_ne_none _, hnames ▸ honce⟩

end Members

section Lookups

variable {α : Type} {fields : Fields} {name key : String} {v : Json} {datum? : Json → Option α}
  {absent : α}

@[simp]
theorem getOr_cons_self : Fields.getOr ((name, v) :: fields) name datum? absent = datum? v := by
  rw [Fields.getOr, List.lookup_cons_self]

@[simp]
theorem getOr_cons_ne (h : name ≠ key) :
    Fields.getOr ((key, v) :: fields) name datum? absent = fields.getOr name datum? absent := by
  rw [Fields.getOr, Fields.getOr, List.lookup_cons, beq_false_of_ne h]

theorem getOr_of_not_mem (h : name ∉ fields.map Prod.fst) :
    fields.getOr name datum? absent = some absent := by
  have hnone : fields.lookup name = none := by
    rw [List.lookup_eq_none_iff]
    rintro m hm
    rw [bne_iff_ne]
    rintro rfl
    exact h (List.mem_map_of_mem hm)
  rw [Fields.getOr, hnone]

@[simp]
theorem require_cons_self : Fields.require ((name, v) :: fields) name datum? = datum? v := by
  rw [Fields.require, List.lookup_cons_self, Option.bind_some]

@[simp]
theorem require_cons_ne (h : name ≠ key) :
    Fields.require ((key, v) :: fields) name datum? = fields.require name datum? := by
  rw [Fields.require, Fields.require, List.lookup_cons, beq_false_of_ne h]

theorem lookup_of_mem (honce : (fields.map Prod.fst).Nodup) (h : (name, v) ∈ fields) :
    fields.lookup name = some v := by
  induction fields with
  | nil => cases h
  | cons m fields ih =>
    obtain ⟨hm, hfields⟩ := List.nodup_cons.mp honce
    rcases List.mem_cons.mp h with rfl | h
    · exact List.lookup_cons_self
    · have hne : name ≠ m.1 := by
        rintro rfl
        exact hm (List.mem_map.mpr ⟨_, h, rfl⟩)
      rw [List.lookup_cons, beq_false_of_ne hne]
      exact ih hfields h

end Lookups

/-- In an object that is not refused, every named member can be looked up. -/
theorem lookup_of_fields?_object {names : List String} {members : List (Option String × Json)}
    {partly : Bool} {fields : Fields} {name : String} {v : Json}
    (h : (object members).fields? names partly = some fields) (hname : name ∈ names)
    (hv : (some name, v) ∈ members) : fields.lookup name = some v := by
  rw [fields?_object] at h
  split at h
  case isFalse => cases h
  case isTrue honce =>
    cases h
    apply lookup_of_mem honce.2
    exact List.mem_filter.mpr ⟨mem_textMembers.mpr hv, List.contains_iff_mem.mpr hname⟩

end JumpArrows.Json
