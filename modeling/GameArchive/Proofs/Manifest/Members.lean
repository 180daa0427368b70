import GameArchive.Manifest.Attribute
import GameArchive.Manifest.Defaults
import GameArchive.Manifest.Store
import GameArchive.Proofs.Json.Basic

/-!
# The members of a manifest

A manifest has the members of the object that it was made of, in another order at most, and the
object that writes it makes the same manifest again. What the members have in common stays when a
field gets another value.
-/

namespace GameArchive

theorem Members.get?_append (ms ns : Members) (name : Text) :
    Members.get? (ms ++ ns) name = (ms.get? name).or (ns.get? name) := by
  induction ms with
  | nil => rfl
  | cons entry ms ih =>
    obtain ⟨k, v⟩ := entry
    by_cases hk : k = name <;> simp [Members.get?, hk, ih]

/-- Two objects with the same names and the same values under them, in whatever order. -/
def Members.Same (ms ns : Members) : Prop := ∀ name, ms.get? name = ns.get? name

namespace Field

theorem mem_all (field : Field) : field ∈ all := by cases field <;> decide

theorem name_of_ofName? {name : Text} {field : Field} (h : ofName? name = some field) :
    field.name = name := by simpa using List.find?_some h

theorem name_injective {field other : Field} (h : field.name = other.name) : field = other := by
  revert h
  cases field <;> cases other <;> decide

theorem ofName?_name (field : Field) : ofName? field.name = some field := by
  cases h : ofName? field.name with
  | none => exact absurd (List.find?_eq_none.mp h field (mem_all field)) (by simp)
  | some other => rw [name_injective (name_of_ofName? h)]

theorem isEncodable_name (field : Field) : ∀ c ∈ field.name, c.isSurrogate = false := by
  cases field <;> decide

end Field

namespace Manifest

variable {m : Manifest} {members : Members}

/-- Nothing is hidden, and what is kept beside the fields is no field and has distinct names. -/
structure IsPlain (m : Manifest) : Prop where
  hidden : m.hidden = []
  extras : ∀ entry ∈ m.extras, Field.ofName? entry.1 = none
  distinct : m.extras.names.Nodup

theorem isPlain_ofMembers (h : members.names.Nodup) : (ofMembers members).IsPlain where
  hidden := rfl
  extras entry hentry := by simpa [ofMembers] using (List.mem_filter.mp hentry).2
  distinct := (List.filter_sublist.map _).nodup h

theorem IsPlain.setField (h : m.IsPlain) (field : Field) (value : Json) :
    (m.setField field value).IsPlain := ⟨h.hidden, h.extras, h.distinct⟩

/-- The operations of a manifest can be used as long as nothing is hidden. -/
theorem data_of_isPlain (h : m.IsPlain) : m.data = .ok m.members := by
  rw [data, offers, h.hidden]
  rfl

/-! ## Members by their names -/

theorem mem_fieldMembers {entry : Text × Json} :
    entry ∈ m.fieldMembers ↔ ∃ field, entry.1 = field.name ∧ m.value field = some entry.2 := by
  rw [fieldMembers, List.mem_filterMap]
  constructor
  · rintro ⟨field, -, hentry⟩
    obtain ⟨value, hvalue, rfl⟩ := Option.map_eq_some_iff.mp hentry
    exact ⟨field, rfl, hvalue⟩
  · rintro ⟨field, hname, hvalue⟩
    exact ⟨field, Field.mem_all field, by rw [hvalue, Option.map_some, ← hname]⟩

theorem names_fieldMembers (m : Manifest) :
    m.fieldMembers.names =
      (Field.all.filter fun field => (m.value field).isSome).map Field.name := by
  rw [fieldMembers, Members.names, List.map_filterMap]
  generalize Field.all = fields
  induction fields with
  | nil => rfl
  | cons field fields ih =>
    cases hvalue : m.value field with
    | none => simpa [hvalue] using ih
    | some value => simpa [hvalue] using ih

theorem nodup_names_fieldMembers (m : Manifest) : m.fieldMembers.names.Nodup := by
  have hall : (Field.all.map Field.name).Nodup := by decide
  rw [names_fieldMembers]
  exact (List.filter_sublist.map Field.name).nodup hall

theorem get?_fieldMembers (m : Manifest) (name : Text) :
    m.fieldMembers.get? name = (Field.ofName? name).bind m.value := by
  cases hname : Field.ofName? name with
  | none =>
    rw [Option.bind_none, Members.get?_eq_none]
    intro hmem
    obtain ⟨entry, hentry, rfl⟩ := List.mem_map.mp hmem
    obtain ⟨field, hfield, -⟩ := mem_fieldMembers.mp hentry
    rw [hfield, Field.ofName?_name] at hname
    contradiction
  | some field =>
    have hfield := Field.name_of_ofName? hname
    rw [Option.bind_some]
    cases hvalue : m.value field with
    | none =>
      rw [Members.get?_eq_none]
      intro hmem
      obtain ⟨entry, hentry, hentryName⟩ := List.mem_map.mp hmem
      obtain ⟨other, hother, hotherValue⟩ := mem_fieldMembers.mp hentry
      obtain rfl : other = field := Field.name_injective (by rw [← hother, hentryName, hfield])
      simp [hvalue] at hotherValue
    | some value =>
      rw [Members.get?_eq_some (nodup_names_fieldMembers m)]
      exact mem_fieldMembers.mpr ⟨field, hfield.symm, hvalue⟩

/-- A member is the value of a field or one that is kept beside them. -/
theorem get?_members (h : m.IsPlain) (name : Text) :
    m.members.get? name =
      match Field.ofName? name with
      | some field => m.value field
      | none => m.extras.get? name := by
  rw [members, Members.get?_append, get?_fieldMembers]
  cases hname : Field.ofName? name with
  | none => rfl
  | some field =>
    have hextras : m.extras.get? name = none := by
      rw [Members.get?_eq_none]
      intro hmem
      obtain ⟨entry, hentry, rfl⟩ := List.mem_map.mp hmem
      rw [h.extras entry hentry] at hname
      contradiction
    rw [hextras, Option.or_none]
    rfl

theorem nodup_names_members (h : m.IsPlain) : m.members.names.Nodup := by
  rw [members, Members.names_append, List.nodup_append]
  refine ⟨nodup_names_fieldMembers m, h.distinct, ?_⟩
  rintro name hfield other hextra rfl
  obtain ⟨entry, hentry, rfl⟩ := List.mem_map.mp hextra
  obtain ⟨entry', hentry', hname⟩ := List.mem_map.mp hfield
  obtain ⟨field, hfieldName, -⟩ := mem_fieldMembers.mp hentry'
  have hnone := h.extras entry hentry
  rw [← hname, hfieldName, Field.ofName?_name] at hnone
  contradiction

theorem get?_filter (members : Members) (name : Text) (p : Text → Bool) :
    Members.get? (members.filter fun entry => p entry.1) name =
      if p name then members.get? name else none := by
  induction members with
  | nil => simp
  | cons entry members ih =>
    obtain ⟨k, v⟩ := entry
    by_cases hp : p k = true
    · by_cases hk : k = name
      · subst hk
        simp [Members.get?, hp]
      · simp [Members.get?, hp, hk, ih]
    · by_cases hk : k = name
      · subst hk
        simp [hp, ih]
      · simp [Members.get?, hp, hk, ih]

/-- A manifest has the members of the object that it was made of. -/
theorem same_members_ofMembers (h : members.names.Nodup) :
    Members.Same (ofMembers members).members members := by
  intro name
  rw [get?_members (isPlain_ofMembers h)]
  cases hname : Field.ofName? name with
  | none =>
    have hfilter := get?_filter members name fun name => (Field.ofName? name).isNone
    rwa [hname, Option.isNone_none, if_pos rfl] at hfilter
  | some field => exact congrArg members.get? (Field.name_of_ofName? hname)

/-- A manifest is made of its members. -/
theorem ofMembers_members (h : m.IsPlain) : ofMembers m.members = m := by
  have hvalue : (ofMembers m.members).value = m.value := by
    funext field
    have hget := get?_members h field.name
    rwa [Field.ofName?_name] at hget
  have hextras : (ofMembers m.members).extras = m.extras := by
    have hfields : m.fieldMembers.filter
        (fun (entry : Text × Json) => (Field.ofName? entry.1).isNone) = [] := by
      rw [List.filter_eq_nil_iff]
      intro entry hentry
      obtain ⟨field, hname, -⟩ := mem_fieldMembers.mp hentry
      simp [hname, Field.ofName?_name]
    have hself : m.extras.filter
        (fun (entry : Text × Json) => (Field.ofName? entry.1).isNone) = m.extras := by
      rw [List.filter_eq_self]
      intro entry hentry
      rw [h.extras entry hentry]
      rfl
    rw [ofMembers, members]
    exact (List.filter_append ..).trans (by rw [hfields, hself, List.nil_append])
  cases m with
  | mk value extras hidden =>
    obtain rfl : hidden = [] := h.hidden
    exact Manifest.mk.injEq .. |>.mpr ⟨hvalue, hextras, rfl⟩

/-- A field that gets a value changes no other member. -/
theorem get?_members_setField (h : m.IsPlain) (field : Field) (value : Json) (name : Text) :
    (m.setField field value).members.get? name =
      if name = field.name then some value else m.members.get? name := by
  rw [get?_members (h.setField field value), get?_members h]
  cases hname : Field.ofName? name with
  | none =>
    rw [if_neg]
    · rfl
    · rintro rfl
      rw [Field.ofName?_name] at hname
      contradiction
  | some other =>
    have hother := Field.name_of_ofName? hname
    by_cases hfield : other = field
    · subst hfield
      simp [setField, hother]
    · rw [if_neg fun heq => hfield (Field.name_injective (hother.trans heq))]
      simp [setField, hfield]

theorem mem_members_ofMembers (h : members.names.Nodup) {entry : Text × Json} :
    entry ∈ (ofMembers members).members ↔ entry ∈ members := by
  rw [← Members.get?_eq_some (nodup_names_members (isPlain_ofMembers h)),
    same_members_ofMembers h entry.1, Members.get?_eq_some h]

theorem mem_members_setField (h : m.IsPlain) (field : Field) (value : Json)
    {entry : Text × Json} :
    entry ∈ (m.setField field value).members ↔
      entry = (field.name, value) ∨ entry.1 ≠ field.name ∧ entry ∈ m.members := by
  rw [← Members.get?_eq_some (nodup_names_members (h.setField field value)),
    get?_members_setField h, ← Members.get?_eq_some (nodup_names_members h)]
  obtain ⟨name, v⟩ := entry
  by_cases hname : name = field.name <;> simp [hname, eq_comm]

/-! ## Defaults -/

theorem names_defaults (id : Text) (options : Options) :
    (defaults id options).names = [Field.appId.name, Field.shortName.name, Field.title.name,
      Field.studio.name, Field.supportedOrientations.name] := rfl

theorem nodup_names_defaults (id : Text) (options : Options) :
    (defaults id options).names.Nodup := by
  rw [names_defaults]
  decide

end Manifest
end GameArchive
