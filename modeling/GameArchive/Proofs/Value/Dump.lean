import GameArchive.Proofs.Json.Grammar
import GameArchive.Proofs.Value.Printer
import GameArchive.Proofs.Value.Shown

/-!
# Values that are written

What a value is written as holds the scalars that the value holds, and no other numbers: directly,
as no number is left out, or by the walk, as every object is expanded once. So there is a text
exactly if all numbers that the value holds are finite, and this text is one that every strict
reader takes.
-/

namespace GameArchive

/-- Integers within the limit of digits, and numbers that 64 bits hold. -/
def Scalar.IsProper : Scalar → Prop
  | .int n => (Text.ofNat n.natAbs).length ≤ Json.Reader.digitLimit
  | .float x => x.IsStorable
  | _ => True

instance : (s : Scalar) → Decidable s.IsProper
  | .int n => inferInstanceAs (Decidable ((Text.ofNat n.natAbs).length ≤ Json.Reader.digitLimit))
  | .float x => inferInstanceAs (Decidable x.IsStorable)
  | .null | .bool _ | .string _ => .isTrue trivial

/-- The keys of a mapping are scalars with distinct texts. Ranges are left out. -/
def Object.HasDistinctKeys : Object → Prop
  | .mapping entries => ∃ keys : List Scalar, entries.map (·.1) = keys.map Value.scalar ∧
      (∀ key ∈ keys, key.IsProper) ∧ (keys.map Scalar.text).Nodup
  | .range _ => False
  | _ => True

namespace Json

/-- The property holds of everything that is no number. -/
def IsOfNumbers (P : Json → Prop) : Prop :=
  ∀ j, P j ∨ (∃ n, j = .int n) ∨ ∃ x, j = .float x

def IsFinite : Json → Prop
  | float x => x.isFinite = true
  | _ => True

theorem allFiniteItems_eq_true {items : List Json} :
    allFiniteItems items = true ↔ ∀ v ∈ items, allFinite v = true := by
  induction items with
  | nil => simp [allFiniteItems]
  | cons item items ih => simp [allFiniteItems, ih]

theorem allFiniteMembers_eq_true {members : Members} :
    allFiniteMembers members = true ↔ ∀ entry ∈ members, allFinite entry.2 = true := by
  induction members with
  | nil => simp [allFiniteMembers]
  | cons entry members ih =>
    obtain ⟨name, v⟩ := entry
    simp [allFiniteMembers, ih]

theorem allFinite_eq_true {j : Json} : allFinite j = true ↔ Everywhere IsFinite j := by
  induction j using Json.induction with
  | null | bool | int | string =>
    rw [everywhere_of_scalar (by simp) (by simp)]
    simp [allFinite, IsFinite]
  | float x =>
    rw [everywhere_of_scalar (by simp) (by simp)]
    simp [allFinite, IsFinite]
  | array items ih =>
    rw [allFinite, allFiniteItems_eq_true, everywhere_array]
    simp only [IsFinite, true_and]
    exact forall₂_congr ih
  | object members ih =>
    rw [allFinite, allFiniteMembers_eq_true, everywhere_object]
    simp only [IsFinite, true_and]
    exact forall₂_congr ih

section IsOfNumbers

variable {P : Json → Prop}

theorem IsOfNumbers.string (hP : IsOfNumbers P) (t : Text) : Everywhere P (.string t) :=
  (everywhere_of_scalar (by simp) (by simp)).mpr (by simpa using hP (.string t))

theorem IsOfNumbers.everywhere_array (hP : IsOfNumbers P) {items : List Json} :
    Everywhere P (.array items) ↔ ∀ item ∈ items, Everywhere P item := by
  have hself : P (.array items) := by simpa using hP (.array items)
  rw [Json.everywhere_array]
  exact and_iff_right hself

theorem IsOfNumbers.everywhere_object (hP : IsOfNumbers P) {members : Members} :
    Everywhere P (.object members) ↔ ∀ entry ∈ members, Everywhere P entry.2 := by
  have hself : P (.object members) := by simpa using hP (.object members)
  rw [Json.everywhere_object]
  exact and_iff_right hself

end IsOfNumbers

end Json

namespace Value

open Json (Everywhere IsOfNumbers IsFinite IsShort HasNumber IsText everywhere_of_scalar)
open Text (HoldsNoControl)

variable {heap : Heap} {place : Nat → Nat} {found : Object} {number fuel depth : Nat} {v : Value}
  {vs : List Value} {es : List Encounter} {js : List Json} {P : Json → Prop}

/-! ## What a value holds -/

theorem reaches_of_scalar {s : Scalar} {w : Value} : Reaches heap (.scalar s) w ↔ w = .scalar s := by
  constructor
  · intro h
    induction h with
    | self => rfl
    | part _ _ _ ih => cases ih
  · rintro rfl
    exact .self

/-- What an object holds besides itself is held by a part. -/
theorem reaches_of_object (hfound : heap[number]? = some found) {w : Value} :
    Reaches heap (.object number) w ↔
      w = .object number ∨ ∃ part ∈ found.parts, Reaches heap part w := by
  constructor
  · intro h
    induction h with
    | self => exact .inl rfl
    | @part other inner w _ hinner hmem ih =>
      rcases ih with heq | ⟨part, hpart, hreaches⟩
      · obtain rfl := Value.object.inj heq
        obtain rfl := Option.some.inj (hinner.symm.trans hfound)
        exact .inr ⟨w, hmem, .self⟩
      · exact .inr ⟨part, hpart, .part hreaches hinner hmem⟩
  · rintro (rfl | ⟨part, hpart, hreaches⟩)
    · exact .self
    · exact (Reaches.part .self hfound hpart).trans hreaches

/-! ## Values that are JSON already -/

section Plain

theorem mapM_eq_some_cons {α β : Type} {f : α → Option β} {a : α} {as : List α} {bs : List β} :
    (a :: as).mapM f = some bs ↔
      ∃ b rest, f a = some b ∧ as.mapM f = some rest ∧ bs = b :: rest := by
  simp only [List.mapM_cons, bind, pure, Option.bind_eq_some_iff, Option.some.injEq,
    eq_comm (a := bs)]
  constructor
  · rintro ⟨b, hb, rest, hrest, heq⟩
    exact ⟨b, rest, hb, hrest, heq⟩
  · rintro ⟨b, rest, hb, hrest, heq⟩
    exact ⟨b, hb, rest, hrest, heq⟩

/-- The values of members are those of the entries. -/
theorem mapM_values {inside : Value → Option Json} {entries : List (Value × Value)}
    {members : List (Text × Json)}
    (h : entries.mapM (fun entry => do return (← keyName? entry.1, ← inside entry.2)) =
      some members) :
    (entries.map (·.2)).mapM inside = some (members.map (·.2)) := by
  induction entries generalizing members with
  | nil =>
    cases h
    rfl
  | cons entry entries ih =>
    obtain ⟨member, rest, hmember, hrest, rfl⟩ := mapM_eq_some_cons.mp h
    simp only [bind, pure, Option.bind_eq_some_iff] at hmember
    obtain ⟨name, -, j, hj, heq⟩ := hmember
    obtain rfl := Option.some.inj heq
    exact mapM_eq_some_cons.mpr ⟨j, rest.map (·.2), hj, ih hrest, rfl⟩

theorem forall_of_mapM {α β : Type} {f : α → Option β} {as : List α} {bs : List β}
    {Q : β → Prop} {R : α → Prop} (h : as.mapM f = some bs)
    (hiff : ∀ a ∈ as, ∀ b, f a = some b → (Q b ↔ R a)) : (∀ b ∈ bs, Q b) ↔ ∀ a ∈ as, R a := by
  induction as generalizing bs with
  | nil =>
    cases h
    simp
  | cons a as ih =>
    obtain ⟨b, rest, hb, hrest, rfl⟩ := mapM_eq_some_cons.mp h
    rw [List.forall_mem_cons] at hiff ⊢
    rw [List.forall_mem_cons, hiff.1 b hb, ih hrest hiff.2]

/-- A plain object has plain parts, and holds the numbers that they hold. -/
theorem plainIn_object {active : List Nat} {j : Json}
    (h : plainIn? heap (fuel + 1) active (.object number) = some j) :
    ∃ found parts, heap[number]? = some found ∧
      found.parts.mapM (plainIn? heap fuel (number :: active)) = some parts ∧
      ∀ P, IsOfNumbers P → (Everywhere P j ↔ ∀ part ∈ parts, Everywhere P part) := by
  rw [plainIn?] at h
  split at h
  · contradiction
  split at h
  · next items hfound =>
    obtain ⟨parts, hparts, rfl⟩ := Option.map_eq_some_iff.mp h
    exact ⟨_, parts, hfound, hparts, fun P hP => hP.everywhere_array⟩
  · next items hfound =>
    obtain ⟨parts, hparts, rfl⟩ := Option.map_eq_some_iff.mp h
    exact ⟨_, parts, hfound, hparts, fun P hP => hP.everywhere_array⟩
  · next entries hfound =>
    obtain ⟨members, hmembers, rfl⟩ := Option.map_eq_some_iff.mp h
    have hvalues : (Object.mapping entries).parts.mapM (plainIn? heap fuel (number :: active)) =
        some (members.map (·.2)) := mapM_values hmembers
    refine ⟨_, _, hfound, hvalues, fun P hP => ?_⟩
    rw [hP.everywhere_object, List.forall_mem_map]
  · contradiction

/-- A property of scalars holds in all that is written directly if it holds of the scalars that the
value holds. -/
theorem everywhere_plainIn (hP : IsOfNumbers P) {active : List Nat} {j : Json}
    (h : plainIn? heap fuel active v = some j) :
    Everywhere P j ↔ ∀ s, Reaches heap v (.scalar s) → P s.json := by
  induction fuel generalizing v active j with
  | zero =>
    cases v with
    | object number => cases h
    | scalar s =>
      obtain ⟨-, hj⟩ := Option.ite_none_right_eq_some.mp h
      obtain rfl := Option.some.inj hj
      simp [everywhere_scalar, reaches_of_scalar]
  | succ fuel ih =>
    cases v with
    | scalar s =>
      obtain ⟨-, hj⟩ := Option.ite_none_right_eq_some.mp h
      obtain rfl := Option.some.inj hj
      simp [everywhere_scalar, reaches_of_scalar]
    | object number =>
      obtain ⟨found, parts, hfound, hparts, hiff⟩ := plainIn_object h
      rw [hiff P hP, forall_of_mapM hparts fun part _ j hj => ih hj]
      simp only [reaches_of_object hfound, reduceCtorEq, false_or]
      exact ⟨fun h s ⟨part, hpart, hreaches⟩ => h part hpart s hreaches,
        fun h part hpart s hreaches => h s ⟨part, hpart, hreaches⟩⟩

end Plain

/-! ## Values that are walked -/

/-- The values under names are all values, if there is one for each name. -/
theorem forall_mem_zip {names : List Text} {parts : List Json} (Q : Json → Prop)
    (hlength : parts.length = names.length) :
    (∀ entry ∈ names.zip parts, Q entry.2) ↔ ∀ part ∈ parts, Q part := by
  rw [← List.forall_mem_map, List.map_snd_zip (Nat.le_of_eq hlength)]

/-- Keys that have texts are shown under distinct names. -/
theorem nodup_textOf {entries : List (Value × Value)}
    (hshowable : IsShowable heap number (.mapping entries))
    (hkeys : (Object.mapping entries).HasDistinctKeys) :
    (entries.map fun entry => textOf heap entry.1).Nodup := by
  obtain ⟨keys, hscalars, -, hnodup⟩ := hkeys
  have htexts : entries.map (fun entry => text heap entry.1) = keys.map Scalar.text := by
    rw [← Function.comp_def (text heap) (fun entry : Value × Value => entry.1), ← List.map_map,
      hscalars, List.map_map]
    exact List.map_congr_left fun s _ => textIn_scalar s
  rw [← htexts, List.Nodup, List.pairwise_map] at hnodup
  rw [List.Nodup, List.pairwise_map]
  refine hnodup.imp_of_mem fun {a b} ha hb hne heq => hne ?_
  obtain ⟨t, ht⟩ := hshowable a ha
  obtain ⟨u, hu⟩ := hshowable b hb
  rw [textOf_eq ht, textOf_eq hu] at heq
  rw [ht, hu, heq]

/-- An object whose keys are distinct holds the numbers that its parts are shown with. -/
theorem everywhere_build (hP : IsOfNumbers P) (hshowable : IsShowable heap number found)
    (hkeys : found.HasDistinctKeys) {parts : List Json}
    (hlength : parts.length = found.parts.length) :
    Everywhere P (build heap number found parts) ↔ ∀ part ∈ parts, Everywhere P part := by
  cases found with
  | sequence => exact hP.everywhere_array
  | range => exact hkeys.elim
  | record => exact hshowable.elim
  | mapping entries =>
    have hnames := nodup_textOf hshowable hkeys
    have hlength' : parts.length = (entries.map fun entry => textOf heap entry.1).length := by
      rw [hlength, List.length_map]
      exact List.length_map _
    rw [build, ofList_zip hnames hlength', hP.everywhere_object]
    exact forall_mem_zip (Everywhere P) hlength'
  | bytes | path =>
    obtain rfl := List.length_eq_zero_iff.mp hlength
    simpa [build] using hP.string _
  | exception =>
    obtain rfl := List.length_eq_zero_iff.mp hlength
    rw [build, hP.everywhere_object]
    simp [hP.string]
  | member =>
    obtain ⟨part, rfl⟩ := List.length_eq_one_iff.mp hlength
    simp [build]

/-- The property holds of the scalars among values. -/
def Among (P : Json → Prop) (vs : List Value) : Prop := ∀ s, .scalar s ∈ vs → P s.json

/-- If an object is expanded where it is met, the property holds of the scalars among its parts. -/
def AmongParts (heap : Heap) (P : Json → Prop) (e : Encounter) : Prop :=
  e.mark = .expanded → ∀ found, heap[e.number]? = some found → Among P found.parts

theorem among_cons_scalar {s : Scalar} : Among P (.scalar s :: vs) ↔ P s.json ∧ Among P vs := by
  simp [Among, or_imp, forall_and]

theorem among_cons_object : Among P (.object number :: vs) ↔ Among P vs := by
  simp [Among]

/-- A property of scalars holds in all that values are shown as if it holds of the scalars among the
values and among the parts of what is expanded. -/
theorem Shows.everywhere_iff (hP : IsOfNumbers P) (h : Shows heap depth vs es js)
    (hkeys : ∀ e ∈ es, ∀ found, heap[e.number]? = some found → found.HasDistinctKeys) :
    (∀ j ∈ js, Everywhere P j) ↔ Among P vs ∧ ∀ e ∈ es, AmongParts heap P e := by
  induction h with
  | nil => simp [Among]
  | scalar s _ ih =>
    rw [List.forall_mem_cons, everywhere_scalar, ih hkeys, among_cons_scalar, and_assoc]
  | circular _ _ ih | tooDeep _ _ ih =>
    rw [List.forall_mem_cons] at hkeys
    rw [List.forall_mem_cons, ih hkeys.2, among_cons_object, List.forall_mem_cons]
    simp only [hP.string, Value.circular, Value.tooDeep, AmongParts, reduceCtorEq, false_implies,
      true_and]
  | @expanded depth number found vs inner es parts js hfound hshowable hparts _ ihParts ih =>
    rw [List.forall_mem_cons, List.forall_mem_append] at hkeys
    have hhead : AmongParts heap P ⟨number, depth, .expanded⟩ ↔ Among P found.parts := by
      simp [AmongParts, hfound]
    rw [List.forall_mem_cons, everywhere_build hP hshowable (hkeys.1 found hfound) hparts.length_eq,
      ihParts hkeys.2.1, ih hkeys.2.2, among_cons_object, List.forall_mem_cons,
      List.forall_mem_append, hhead]
    tauto

/-! ## Objects that are met -/

/-- Every object among the values is met. -/
theorem Shows.exists_of_object (h : Shows heap depth vs es js) (hmem : .object number ∈ vs) :
    ∃ e ∈ es, e.number = number := by
  induction h with
  | nil => exact absurd hmem List.not_mem_nil
  | scalar s _ ih => exact ih (by simpa using hmem)
  | circular _ _ ih | tooDeep _ _ ih =>
    rcases List.mem_cons.mp hmem with heq | hmem
    · exact ⟨_, List.mem_cons_self, (Value.object.inj heq).symm⟩
    · obtain ⟨e, he, hnumber⟩ := ih hmem
      exact ⟨e, List.mem_cons_of_mem _ he, hnumber⟩
  | expanded _ _ _ _ _ ih =>
    rcases List.mem_cons.mp hmem with heq | hmem
    · exact ⟨_, List.mem_cons_self, (Value.object.inj heq).symm⟩
    · obtain ⟨e, he, hnumber⟩ := ih hmem
      exact ⟨e, List.mem_cons_of_mem _ (List.mem_append_right _ he), hnumber⟩

/-- Every object among the parts of an object that is expanded is met. -/
theorem Shows.exists_of_part (h : Shows heap depth vs es js) {e : Encounter} (he : e ∈ es)
    (hmark : e.mark = .expanded) (hfound : heap[e.number]? = some found)
    (hmem : .object number ∈ found.parts) : ∃ f ∈ es, f.number = number := by
  induction h with
  | nil => exact absurd he List.not_mem_nil
  | scalar s _ ih => exact ih he
  | circular _ _ ih | tooDeep _ _ ih =>
    rcases List.mem_cons.mp he with rfl | he
    · cases hmark
    · obtain ⟨f, hf, hnumber⟩ := ih he
      exact ⟨f, List.mem_cons_of_mem _ hf, hnumber⟩
  | expanded hhead _ hparts _ ihParts ih =>
    have hinner {f : Encounter} {inner es : List Encounter} {first : Encounter} (hf : f ∈ inner) :
        f ∈ first :: (inner ++ es) := List.mem_cons_of_mem _ (List.mem_append_left _ hf)
    rcases List.mem_cons.mp he with rfl | he
    · obtain rfl := Option.some.inj (hfound.symm.trans hhead)
      obtain ⟨f, hf, hnumber⟩ := hparts.exists_of_object hmem
      exact ⟨f, hinner hf, hnumber⟩
    · rcases List.mem_append.mp he with he | he
      · obtain ⟨f, hf, hnumber⟩ := ihParts he
        exact ⟨f, hinner hf, hnumber⟩
      · obtain ⟨f, hf, hnumber⟩ := ih he
        exact ⟨f, List.mem_cons_of_mem _ (List.mem_append_right _ hf), hnumber⟩

/-- What has been expanded is among what is met and expanded, or had been before. -/
theorem exists_of_mem_foldl_meet {seen : List Nat} (h : number ∈ es.foldl meet seen) :
    number ∈ seen ∨ ∃ e ∈ es, e.number = number ∧ e.mark = .expanded := by
  induction es generalizing seen with
  | nil => exact .inl h
  | cons e es ih =>
    rcases ih h with hmeet | ⟨f, hf, hspec⟩
    · unfold meet at hmeet
      split at hmeet
      · next hmark =>
        rcases List.mem_cons.mp hmeet with rfl | hseen
        · exact .inr ⟨e, List.mem_cons_self, rfl, hmark⟩
        · exact .inl hseen
      · exact .inl hmeet
    · exact .inr ⟨f, List.mem_cons_of_mem _ hf, hspec⟩

/-- Without a limit, each object that is met is expanded somewhere. -/
theorem Judged.exists_expanded (h : Judged place none [] es) (hapart : AreApart place es)
    {e : Encounter} (he : e ∈ es) : ∃ f ∈ es, f.number = e.number ∧ f.mark = .expanded := by
  obtain ⟨met, hmem, hplace⟩ : IsMet place (es.foldl meet []) e.number :=
    h.isMet_foldl.mpr (.inr ⟨e, he, rfl, rfl⟩)
  obtain ⟨f, hf, rfl, hmark⟩ := (exists_of_mem_foldl_meet hmem).resolve_left List.not_mem_nil
  exact ⟨f, hf, hapart f hf e he hplace, hmark⟩

/-- Without a limit, each object that a value holds is expanded somewhere. -/
theorem Shows.exists_expanded (h : Shows heap 0 [v] es js) (hjudged : Judged place none [] es)
    (hapart : AreApart place es) (hreaches : Reaches heap v (.object number)) :
    ∃ e ∈ es, e.number = number ∧ e.mark = .expanded := by
  generalize hw : Value.object number = w at hreaches
  induction hreaches generalizing number with
  | self =>
    obtain ⟨e, he, rfl⟩ := h.exists_of_object (List.mem_singleton.mpr hw)
    exact hjudged.exists_expanded hapart he
  | part _ hfound hmem ih =>
    obtain ⟨e, he, rfl, hmark⟩ := ih rfl
    obtain ⟨f, hf, rfl⟩ := h.exists_of_part he hmark hfound (hw ▸ hmem)
    exact hjudged.exists_expanded hapart hf

/-! ## Values that have a text -/

/-- A value is built of scalars of one kind, and of objects that are shown with all they hold. -/
structure BuiltOf (C : Scalar → Prop) (heap : Heap) (v : Value) : Prop where
  scalar : ∀ s, Reaches heap v (.scalar s) → C s
  showable : Showable heap v
  keys : ∀ number, Reaches heap v (.object number) → ∀ found, heap[number]? = some found →
    found.HasDistinctKeys

/-- It is enough that the value and all parts of objects are such scalars and objects. -/
theorem BuiltOf.of_parts {C : Scalar → Prop}
    (hscalar : ∀ s, .scalar s ∈ v :: heap.flatMap Object.parts → C s)
    (hobject : ∀ number, .object number ∈ v :: heap.flatMap Object.parts →
      ∃ found, heap[number]? = some found ∧ IsShowable heap number found ∧ found.HasDistinctKeys) :
    BuiltOf C heap v where
  scalar s hs := hscalar s (List.mem_cons.mpr hs.eq_or_mem)
  showable number hnumber := by
    obtain ⟨found, hfound, hshowable, -⟩ := hobject number (List.mem_cons.mpr hnumber.eq_or_mem)
    exact ⟨found, hfound, hshowable⟩
  keys number hnumber found hfound := by
    obtain ⟨same, hsame, -, hkeys⟩ := hobject number (List.mem_cons.mpr hnumber.eq_or_mem)
    obtain rfl := Option.some.inj (hsame.symm.trans hfound)
    exact hkeys

/-- What is written holds no other numbers than the value. -/
def HoldsOnlyNumbersOf (heap : Heap) (v : Value) (j : Json) : Prop :=
  ∀ P, IsOfNumbers P → (∀ s, Reaches heap v (.scalar s) → P s.json) → Everywhere P j

/-- It holds all of them. -/
def HoldsAllNumbersOf (heap : Heap) (v : Value) (j : Json) : Prop :=
  ∀ P, IsOfNumbers P → Everywhere P j → ∀ s, Reaches heap v (.scalar s) → P s.json

/-- The walk leaves out none of the numbers if no object lies in the place of another one. -/
theorem exists_json_holdsNumbersOf {C : Scalar → Prop} (place : Nat → Nat)
    (h : BuiltOf C heap v) :
    ∃ j, (json place heap none v).1 = .ok j ∧ HoldsOnlyNumbersOf heap v j ∧
      (IsApart place heap v → HoldsAllNumbersOf heap v j) := by
  obtain ⟨j, es, hjson, hshows, hjudged⟩ := exists_json place none h.showable
  have hreaches : ∀ e ∈ es, Reaches heap v (.object e.number) := fun e he => by
    simpa using hshows.reaches e he
  have hiff (P : Json → Prop) (hP : IsOfNumbers P) :
      Everywhere P j ↔ Among P [v] ∧ ∀ e ∈ es, AmongParts heap P e := by
    have hall := hshows.everywhere_iff hP fun e he => h.keys e.number (hreaches e he)
    rwa [List.forall_mem_singleton] at hall
  refine ⟨j, hjson, fun P hP hall => (hiff P hP).mpr ⟨?_, ?_⟩, fun hapart P hP hj s hs => ?_⟩
  · intro s hs
    rw [← List.mem_singleton.mp hs] at hall
    exact hall s .self
  · intro e he hmark found hfound s hmem
    exact hall s (.part (hreaches e he) hfound hmem)
  · obtain ⟨hvs, hes⟩ := (hiff P hP).mp hj
    cases hs with
    | self => exact hvs s (List.mem_singleton_self _)
    | part hobject hfound hmem =>
      obtain ⟨e, he, rfl, hmark⟩ :=
        hshows.exists_expanded hjudged (hshows.areApart hapart) hobject
      exact hes e he hmark _ hfound s hmem

/-- Directly or by the walk, what is written holds the numbers of the value. -/
theorem exists_dump {C : Scalar → Prop} (place : Nat → Nat) (h : BuiltOf C heap v) :
    ∃ j, (dump place heap v).1 = dumpJson j ∧ HoldsOnlyNumbersOf heap v j ∧
      (IsApart place heap v → HoldsAllNumbersOf heap v j) := by
  rw [dump]
  cases hplain : plain? heap v with
  | some j =>
    exact ⟨j, rfl, fun P hP => (everywhere_plainIn hP hplain).mpr,
      fun _ P hP => (everywhere_plainIn hP hplain).mp⟩
  | none =>
    obtain ⟨j, hjson, hj⟩ := exists_json_holdsNumbersOf place h
    rcases hwhole : json place heap none v with ⟨outcome, left⟩
    rw [hwhole] at hjson
    obtain rfl := hjson
    exact ⟨j, rfl, hj⟩

theorem isOfNumbers_isShort : IsOfNumbers IsShort := by
  rintro (_ | _ | n | x | _ | _ | _) <;> simp [IsShort]

theorem isOfNumbers_isFinite : IsOfNumbers IsFinite := by
  rintro (_ | _ | n | x | _ | _ | _) <;> simp [IsFinite]

theorem isOfNumbers_hasNumber : IsOfNumbers HasNumber := by
  rintro (_ | _ | n | x | _ | _ | _) <;> simp [HasNumber]

/-- All floating-point numbers that a value holds are finite. -/
def HoldsFinite (heap : Heap) (v : Value) : Prop :=
  ∀ x, Reaches heap v (.scalar (.float x)) → x.isFinite = true

theorem HoldsOnlyNumbersOf.isShort {j : Json} (hj : HoldsOnlyNumbersOf heap v j)
    (h : BuiltOf Scalar.IsProper heap v) : j.hasLongInteger = false := by
  refine Json.hasLongInteger_eq_false.mpr (hj _ isOfNumbers_isShort fun s hs => ?_)
  have hproper := h.scalar s hs
  cases s with
  | int n => exact hproper
  | _ => trivial

theorem HoldsOnlyNumbersOf.allFinite {j : Json} (hj : HoldsOnlyNumbersOf heap v j)
    (h : HoldsFinite heap v) : j.allFinite = true := by
  refine Json.allFinite_eq_true.mpr (hj _ isOfNumbers_isFinite fun s hs => ?_)
  cases s with
  | float x => exact h x hs
  | _ => trivial

theorem HoldsAllNumbersOf.holdsFinite {j : Json} (hj : HoldsAllNumbersOf heap v j)
    (h : j.allFinite = true) : HoldsFinite heap v := fun _ hx =>
  hj _ isOfNumbers_isFinite (Json.allFinite_eq_true.mp h) _ hx

theorem HoldsOnlyNumbersOf.isText {j : Json} (hj : HoldsOnlyNumbersOf heap v j)
    (h : BuiltOf Scalar.IsProper heap v) (hfinite : HoldsFinite heap v) : IsText j.compact := by
  refine Json.isText_compact (hj _ isOfNumbers_hasNumber fun s hs => ?_)
  have hproper := h.scalar s hs
  cases s with
  | float x => exact ⟨hfinite x hs, hproper⟩
  | _ => trivial

/-- A value whose numbers are all finite has a text: one line that every strict reader takes. -/
theorem dump_of_holdsFinite (h : BuiltOf Scalar.IsProper heap v) (hfinite : HoldsFinite heap v) :
    ∃ t, (dump place heap v).1 = .ok t ∧ HoldsNoControl t ∧ IsText t := by
  obtain ⟨j, hdump, hj, -⟩ := exists_dump place h
  refine ⟨j.compact, ?_, Json.holdsNoControl_compact j, hj.isText h hfinite⟩
  rw [hdump, dumpJson, hj.isShort h, if_neg Bool.false_ne_true, if_pos (hj.allFinite hfinite)]

/-- Any other value has none if no object in it lies in the place of another one. -/
theorem dump_of_not_holdsFinite (h : BuiltOf Scalar.IsProper heap v)
    (hapart : IsApart place heap v) (hinfinite : ¬HoldsFinite heap v) :
    (dump place heap v).1 = .error .notFinite := by
  obtain ⟨j, hdump, hj, hall⟩ := exists_dump place h
  rw [hdump, dumpJson, hj.isShort h, if_neg Bool.false_ne_true,
    if_neg (mt (hall hapart).holdsFinite hinfinite)]

/-- Only a number that is not finite keeps a value from having a text. -/
theorem exists_of_dump_error (h : BuiltOf Scalar.IsProper heap v) {e : DumpError}
    (he : (dump place heap v).1 = .error e) :
    e = .notFinite ∧ ∃ x, Reaches heap v (.scalar (.float x)) ∧ x.isFinite = false := by
  obtain ⟨j, hdump, hj, -⟩ := exists_dump place h
  have hnot : ¬HoldsFinite heap v := fun hfinite => by
    obtain ⟨t, ht, -⟩ : ∃ t, (dump place heap v).1 = .ok t ∧ HoldsNoControl t ∧ IsText t :=
      dump_of_holdsFinite h hfinite
    rw [ht] at he
    cases he
  refine ⟨?_, by simpa [HoldsFinite] using hnot⟩
  rw [hdump, dumpJson, hj.isShort h, if_neg Bool.false_ne_true] at he
  split at he <;> cases he
  rfl

end Value
end GameArchive
