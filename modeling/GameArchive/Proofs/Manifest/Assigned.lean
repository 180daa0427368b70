import GameArchive.Proofs.Manifest.Store

/-!
# Fields with other values

A manifest that is made of an object, and whose fields are then set in any order, is written as one
object again. Fields that were given or set come first, in their own order, and behind them what the
object had besides, in its order; under each name is what was set last, or else what was given. What
is written makes the same manifest.
-/

namespace GameArchive

open Json (HoldsNoSurrogate)

namespace Field

def names : List Text := all.map name

theorem ofName?_eq_none {name : Text} : ofName? name = none ↔ name ∉ names := by
  rw [ofName?, List.find?_eq_none, names, List.mem_map]
  simp

end Field

namespace Manifest

variable {m : Manifest} {members : Members} {assigned : List (Field × Json)}

/-- Sets fields one after another. -/
def assign (m : Manifest) (assigned : List (Field × Json)) : Except AttributeFault Manifest :=
  assigned.foldlM (fun m (field, value) => m.set field.name value) m

/-- The values that fields are set to, by their names. A name may come again. -/
def given (assigned : List (Field × Json)) : Members :=
  assigned.map fun (field, value) => (field.name, value)

/-- What a name was set to last, or what the members have under it if it was not set. -/
def latest? (members : Members) (assigned : List (Field × Json)) (name : Text) : Option Json :=
  (Members.get? (given assigned).reverse name).or (members.get? name)

theorem latest?_cons (members : Members) (field : Field) (value : Json)
    (assigned : List (Field × Json)) (name : Text) :
    latest? members ((field, value) :: assigned) name =
      (Members.get? (given assigned).reverse name).or
        (if name = field.name then some value else members.get? name) := by
  rw [latest?, given, List.map_cons, List.reverse_cons, Members.get?_append, Option.or_assoc]
  congr 1
  by_cases hname : field.name = name
  · simp [Members.get?, hname]
  · simp [Members.get?, hname, Ne.symm hname]

theorem latest?_isSome {name : Text} :
    (latest? members assigned name).isSome = true ↔
      name ∈ members.names ∨ name ∈ (given assigned).names := by
  have hreverse : name ∈ Members.names (given assigned).reverse ↔ name ∈ (given assigned).names := by
    rw [Members.names, Members.names, List.map_reverse, List.mem_reverse]
  rw [latest?, Option.isSome_or, Bool.or_eq_true, Members.isSome_get?, Members.isSome_get?,
    hreverse, or_comm]

/-! ## Setting fields -/

/-- The name of a field stands for nothing else and can be set. -/
theorem set_field (m : Manifest) (field : Field) (value : Json) :
    m.set field.name value = .ok (m.setField field value) := by
  have hspecial : Attribute.ofName? field.name = none := by cases field <;> decide
  have hlow : ¬field.name.head? = some (CodePoint.ofChar '_') := by cases field <;> decide
  rw [set, hspecial]
  dsimp only
  rw [if_neg hlow, Field.ofName?_name]

/-- A run of assignments always ends, and changes fields alone. -/
theorem IsPlain.assign (h : m.IsPlain) (assigned : List (Field × Json)) :
    ∃ after, m.assign assigned = .ok after ∧ after.IsPlain ∧ after.extras = m.extras ∧
      ∀ name, after.members.get? name = latest? m.members assigned name := by
  induction assigned generalizing m with
  | nil => exact ⟨m, rfl, h, rfl, fun _ => rfl⟩
  | cons first assigned ih =>
    obtain ⟨field, value⟩ := first
    obtain ⟨after, hassign, hplain, hextras, hvalues⟩ := ih (h.setField field value)
    refine ⟨after, ?_, hplain, hextras, ?_⟩
    · rw [Manifest.assign, List.foldlM_cons]
      dsimp only
      rw [set_field]
      exact hassign
    · intro name
      rw [hvalues, latest?, get?_members_setField h, latest?_cons]

/-! ## What is written -/

theorem ofJson?_object (hnames : members.names.Nodup)
    (hencodable : HoldsNoSurrogate (.object members)) :
    ofJson? (.object members) = .ok (ofMembers members) :=
  ofTable?_of_encodable hnames hencodable

/-- Fields come first in their own order, and then what is kept beside them. -/
theorem names_members (h : m.IsPlain) :
    m.members.names =
      Field.names.filter (fun name => (m.members.get? name).isSome) ++ m.extras.names := by
  rw [members, Members.names_append, ← members, names_fieldMembers, Field.names, List.filter_map]
  congr 2
  apply List.filter_congr
  intro field _
  rw [Function.comp_apply, get?_members h, Field.ofName?_name]

theorem names_extras_ofMembers (members : Members) :
    (ofMembers members).extras.names = members.names.filter (· ∉ Field.names) := by
  have hextras := Members.names_filter members fun name => (Field.ofName? name).isNone
  refine hextras.trans (List.filter_congr ?_)
  intro name _
  rw [Bool.eq_iff_iff, Option.isNone_iff_eq_none, decide_eq_true_iff]
  exact Field.ofName?_eq_none

theorem look_of_isPlain (h : m.IsPlain) (name : Text) (default : Json) :
    m.look name default = .ok ((m.members.get? name).getD default) := by
  rw [look, offers, h.hidden]
  rfl

/-- A manifest of an object, with any fields set one after another, is written as an object again.
That has the fields that were given or set, in their own order, and then the other names in the
order of the object. Under each name is what was set last, or what the object has. A look-up answers
that, and something else only for a name that is missing. A manifest that is made of what was
written is written the same. -/
theorem data_assign (hnames : members.names.Nodup)
    (hencodable : HoldsNoSurrogate (.object members)) (assigned : List (Field × Json)) :
    ∃ m after data, ofJson? (.object members) = .ok m ∧ m.assign assigned = .ok after ∧
      after.data = .ok data ∧
      data.names =
        Field.names.filter (fun name => name ∈ members.names ∨ name ∈ (given assigned).names) ++
          members.names.filter (· ∉ Field.names) ∧
      (∀ name, data.get? name = latest? members assigned name) ∧
      (∀ name default, after.look name default = .ok ((data.get? name).getD default)) ∧
      ∃ again, ofJson? (.object data) = .ok again ∧ again.data = .ok data := by
  obtain ⟨after, hassign, hplain, hextras, hgiven⟩ := (isPlain_ofMembers hnames).assign assigned
  have hvalues : ∀ name, after.members.get? name = latest? members assigned name := by
    intro name
    rw [hgiven, latest?, same_members_ofMembers hnames, latest?]
  have hwritten : after.members.names =
      Field.names.filter (fun name => name ∈ members.names ∨ name ∈ (given assigned).names) ++
        members.names.filter (· ∉ Field.names) := by
    rw [names_members hplain, hextras, names_extras_ofMembers]
    congr 1
    apply List.filter_congr
    intro name _
    rw [Bool.eq_iff_iff, hvalues, latest?_isSome, decide_eq_true_iff]
  have hagain : HoldsNoSurrogate (.object after.members) := by
    intro name hname
    rw [hwritten, List.mem_append] at hname
    rcases hname with hfield | hother
    · obtain ⟨field, -, rfl⟩ := List.mem_map.mp (List.mem_of_mem_filter hfield)
      exact Field.isEncodable_name field
    · exact hencodable name (List.mem_of_mem_filter hother)
  refine ⟨ofMembers members, after, after.members, ofJson?_object hnames hencodable, hassign,
    data_of_isPlain hplain, hwritten, hvalues, look_of_isPlain hplain, after, ?_,
    data_of_isPlain hplain⟩
  rw [ofJson?_object (nodup_names_members hplain) hagain, ofMembers_members hplain]

/-- An object with the name of an operation among its names, and `null` under one of them. -/
def shadowingMembers : Members :=
  [("toData", .int 1), ("title", .null), ("ttf", .array []), ("appID", string "a")]

theorem data_assign_shadowing :
    shadowingMembers.names.Nodup ∧ HoldsNoSurrogate (.object shadowingMembers) ∧
      ∃ m after data, ofJson? (.object shadowingMembers) = .ok m ∧
        m.assign [(.studio, string "S"), (.title, string "X"), (.studio, .null)] = .ok after ∧
        after.data = .ok data ∧
        data.names = List.map Text.ofString ["appID", "title", "studio", "toData", "ttf"] ∧
        data.get? "title" = some (string "X") ∧ data.get? "toData" = some (.int 1) ∧
        after.look "studio" (string "?") = .ok .null ∧
        after.look "addons" (string "?") = .ok (string "?") := by
  have hnames : shadowingMembers.names.Nodup := by decide
  have hencodable : HoldsNoSurrogate (.object shadowingMembers) := by
    have hall : ∀ name ∈ shadowingMembers.names, ∀ c ∈ name, c.isSurrogate = false := by decide
    exact hall
  obtain ⟨m, after, data, hmade, hassign, hdata, hwritten, hvalues, hlook, -⟩ :=
    data_assign hnames hencodable [(.studio, string "S"), (.title, string "X"), (.studio, .null)]
  refine ⟨hnames, hencodable, m, after, data, hmade, hassign, hdata,
    hwritten.trans (by decide), (hvalues _).trans rfl, (hvalues _).trans rfl, ?_, ?_⟩
  · rw [hlook, hvalues]
    rfl
  · rw [hlook, hvalues]
    rfl

end Manifest
end GameArchive
