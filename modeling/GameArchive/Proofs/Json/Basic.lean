import GameArchive.Json.Basic
import Mathlib.Data.List.Nodup

/-!
# Values inside values

Properties of a JSON value that ask the same of all values inside it, down to the scalars, and the
induction by which they are proved. The members of an object are a map if no name comes twice.
-/

namespace GameArchive

namespace Members

variable {members : Members}

theorem names_append (ms ns : Members) : names (ms ++ ns) = names ms ++ names ns := List.map_append

theorem names_cons (entry : Text × Json) (members : Members) :
    names (entry :: members) = entry.1 :: names members := rfl

theorem names_filter (members : Members) (p : Text → Bool) :
    names (members.filter fun entry => p entry.1) = members.names.filter p := by
  rw [names, names, List.filter_map]
  rfl

theorem mem_names_of_mem {entry : Text × Json} (h : entry ∈ members) : entry.1 ∈ members.names :=
  List.mem_map_of_mem h

theorem get?_eq_none {name : Text} : members.get? name = none ↔ name ∉ members.names := by
  induction members with
  | nil => simp [names]
  | cons entry rest ih =>
    obtain ⟨k, v⟩ := entry
    by_cases hk : k = name
    · simp [get?, names, hk]
    · simpa [get?, names, hk, Ne.symm hk] using ih

theorem isSome_get? {name : Text} : (members.get? name).isSome = true ↔ name ∈ members.names := by
  rw [← not_iff_not, ← get?_eq_none, Bool.not_eq_true, Option.isSome_eq_false_iff,
    Option.isNone_iff_eq_none]

theorem get?_eq_some (h : members.names.Nodup) {name : Text} {value : Json} :
    members.get? name = some value ↔ (name, value) ∈ members := by
  induction members with
  | nil => simp
  | cons entry rest ih =>
    obtain ⟨k, v⟩ := entry
    obtain ⟨hk, hrest⟩ : k ∉ names rest ∧ (names rest).Nodup := List.nodup_cons.mp h
    by_cases hname : k = name
    · subst hname
      have hmem : (k, value) ∉ rest := fun hmem => hk (mem_names_of_mem hmem)
      simp [get?, hmem, eq_comm]
    · simp [get?, hname, Ne.symm hname, ih hrest]

theorem nodup_put (h : members.names.Nodup) (name : Text) (value : Json) :
    (members.put name value).names.Nodup := by
  cases hc : members.contains name with
  | true => rwa [names_put_of_contains value hc]
  | false =>
    have hnone : name ∉ members.names := get?_eq_none.mp (by simpa [contains] using hc)
    rw [names_put_of_not_contains value hc, List.nodup_append]
    refine ⟨h, List.nodup_singleton name, ?_⟩
    rintro a ha b hb rfl
    exact hnone (List.mem_singleton.mp hb ▸ ha)

theorem mem_put {name : Text} {value : Json} {entry : Text × Json}
    (h : entry ∈ members.put name value) : entry ∈ members ∨ entry = (name, value) := by
  induction members with
  | nil => exact .inr (List.mem_singleton.mp h)
  | cons first rest ih =>
    obtain ⟨k, v⟩ := first
    rw [put] at h
    split at h
    · next hk =>
      rw [← hk]
      exact (List.mem_cons.mp h).symm.imp_left (List.mem_cons_of_mem _)
    · rcases List.mem_cons.mp h with rfl | h
      · exact .inl List.mem_cons_self
      · exact (ih h).imp_left (List.mem_cons_of_mem _)

theorem nodup_putAll (h : members.names.Nodup) (later : Members) :
    (members.putAll later).names.Nodup := by
  induction later generalizing members with
  | nil => exact h
  | cons entry later ih => exact ih (nodup_put h entry.1 entry.2)

theorem mem_putAll {later : Members} {entry : Text × Json} (h : entry ∈ members.putAll later) :
    entry ∈ members ∨ entry ∈ later := by
  induction later generalizing members with
  | nil => exact .inl h
  | cons first later ih =>
    rcases ih h with h | h
    · rcases mem_put h with h | rfl
      · exact .inl h
      · exact .inr List.mem_cons_self
    · exact .inr (List.mem_cons_of_mem _ h)

theorem get?_putAll {later : Members} (h : later.names.Nodup) (members : Members) (name : Text) :
    (members.putAll later).get? name = (later.get? name).or (members.get? name) := by
  induction later generalizing members with
  | nil => rfl
  | cons entry later ih =>
    obtain ⟨first, value⟩ := entry
    obtain ⟨hfirst, hlater⟩ := List.nodup_cons.mp h
    rw [putAll, List.foldl_cons, ← putAll, ih hlater, get?_put, get?]
    split
    · next hname =>
      rw [← hname, get?_eq_none.mpr hfirst]
      rfl
    · rfl

theorem put_of_not_mem {name : Text} (h : name ∉ members.names) (value : Json) :
    members.put name value = members ++ [(name, value)] := by
  induction members with
  | nil => rfl
  | cons entry rest ih =>
    obtain ⟨k, v⟩ := entry
    obtain ⟨hk, hrest⟩ : ¬name = k ∧ name ∉ names rest := by simpa [names] using h
    rw [put, if_neg (Ne.symm hk), ih hrest]
    rfl

theorem putAll_eq_append {later : Members} (h : (members ++ later).names.Nodup) :
    members.putAll later = members ++ later := by
  induction later generalizing members with
  | nil => simp [putAll]
  | cons entry later ih =>
    have hname : entry.1 ∉ members.names := by
      intro hmem
      rw [names_append, List.nodup_append] at h
      exact h.2.2 _ hmem _ (mem_names_of_mem List.mem_cons_self) rfl
    have hput := put_of_not_mem hname entry.2
    have hall : (members ++ [entry] ++ later).names.Nodup := by simpa using h
    rw [List.append_cons, ← ih hall, ← hput]
    rfl

/-- Members with distinct names are the members of an object. -/
theorem ofList_eq_self (h : members.names.Nodup) : ofList members = members :=
  putAll_eq_append (by simpa using h)

theorem nodup_ofList (entries : Members) : (ofList entries).names.Nodup :=
  nodup_putAll (show names [] |>.Nodup from List.nodup_nil) entries

/-- A condition on names picks from changed members what has changed under the names picked. -/
theorem filter_put (p : Text → Bool) (members : Members) (name : Text) (value : Json) :
    (members.put name value).filter (fun entry => p entry.1) =
      if p name then Members.put (members.filter fun entry => p entry.1) name value
      else members.filter fun entry => p entry.1 := by
  induction members with
  | nil => cases hp : p name <;> simp [put, hp]
  | cons entry members ih =>
    obtain ⟨k, v⟩ := entry
    by_cases hk : k = name
    · subst hk
      cases hp : p k <;> simp [put, hp]
    · cases hp : p k <;> cases hname : p name <;> simp_all [put]

theorem filter_putAll (p : Text → Bool) (members later : Members) :
    (members.putAll later).filter (fun entry => p entry.1) =
      Members.putAll (members.filter fun entry => p entry.1)
        (later.filter fun entry => p entry.1) := by
  induction later generalizing members with
  | nil => rfl
  | cons entry later ih =>
    rw [putAll, List.foldl_cons, ← putAll, ih, filter_put, List.filter_cons]
    cases p entry.1 <;> rfl

end Members

namespace Json

/-- Values with items or members are built of values of which the property holds already. -/
@[elab_as_elim]
theorem induction {motive : Json → Prop} (null : motive null) (bool : ∀ b, motive (bool b))
    (int : ∀ n, motive (int n)) (float : ∀ x, motive (float x)) (string : ∀ t, motive (string t))
    (array : ∀ items, (∀ item ∈ items, motive item) → motive (array items))
    (object : ∀ members : Members, (∀ entry ∈ members, motive entry.2) → motive (object members))
    (j : Json) : motive j :=
  @Json.rec motive (fun items => ∀ item ∈ items, motive item)
    (fun members => ∀ entry ∈ members, motive entry.2) (fun entry => motive entry.2)
    null bool int float string array object
    (fun _ h => absurd h List.not_mem_nil)
    (fun _ _ hfirst hrest item h => (List.mem_cons.mp h).elim (fun e => e ▸ hfirst) (hrest item))
    (fun _ h => absurd h List.not_mem_nil)
    (fun _ _ hfirst hrest entry h => (List.mem_cons.mp h).elim (fun e => e ▸ hfirst) (hrest entry))
    (fun _ _ h => h) j

/-- A value that is inside another one, or that one itself. -/
inductive Inside (v : Json) : Json → Prop where
  | self : Inside v v
  | item {items : List Json} {item : Json} : item ∈ items → Inside v item →
      Inside v (.array items)
  | member {members : Members} {entry : Text × Json} : entry ∈ members → Inside v entry.2 →
      Inside v (.object members)

/-- The property holds of a value and of all values inside it. -/
def Everywhere (P : Json → Prop) (j : Json) : Prop := ∀ v, Inside v j → P v

section Everywhere

variable {P Q : Json → Prop}

theorem Everywhere.self {j : Json} (h : Everywhere P j) : P j := h j .self

theorem Everywhere.imp {j : Json} (h : Everywhere P j) (himp : ∀ v, P v → Q v) : Everywhere Q j :=
  fun v hv => himp v (h v hv)

theorem everywhere_and {j : Json} :
    Everywhere (fun v => P v ∧ Q v) j ↔ Everywhere P j ∧ Everywhere Q j :=
  ⟨fun h => ⟨fun v hv => (h v hv).1, fun v hv => (h v hv).2⟩,
    fun h v hv => ⟨h.1 v hv, h.2 v hv⟩⟩

theorem everywhere_array {items : List Json} :
    Everywhere P (.array items) ↔ P (.array items) ∧ ∀ item ∈ items, Everywhere P item := by
  constructor
  · intro h
    exact ⟨h.self, fun item hitem v hv => h v (.item hitem hv)⟩
  · rintro ⟨hself, hitems⟩ v hv
    cases hv with
    | self => exact hself
    | item hitem hv => exact hitems _ hitem v hv

theorem everywhere_object {members : Members} :
    Everywhere P (.object members) ↔
      P (.object members) ∧ ∀ entry ∈ members, Everywhere P entry.2 := by
  constructor
  · intro h
    exact ⟨h.self, fun entry hentry v hv => h v (.member hentry hv)⟩
  · rintro ⟨hself, hmembers⟩ v hv
    cases hv with
    | self => exact hself
    | member hentry hv => exact hmembers _ hentry v hv

/-- A value without items and members. -/
theorem everywhere_of_scalar {j : Json} (harray : ∀ items, j ≠ .array items)
    (hobject : ∀ members, j ≠ .object members) : Everywhere P j ↔ P j := by
  constructor
  · exact Everywhere.self
  · intro h v hv
    cases hv with
    | self => exact h
    | item => exact absurd rfl (harray _)
    | member => exact absurd rfl (hobject _)

end Everywhere

/-- No name comes twice in an object. -/
def HasDistinctNames : Json → Prop
  | object members => (Members.names members).Nodup
  | _ => True

end Json
end GameArchive
