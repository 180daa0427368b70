import GameArchive.Value.Json
import Mathlib.Data.Finset.Card

/-!
# The walk over a value

Values refer to objects, which may be shared and may contain themselves. What a walk over values
comes to is a relation that has no bound on its depth: the objects that are met, in the order in
which they are met, with what becomes of each, and the JSON values that they are shown as. What
becomes of an object where it is met depends only on the places of the objects that have been
expanded before and on the depth. The walk computes what the relation says, as each object that is
expanded is one object less that can be expanded.
-/

namespace GameArchive

/-- The values in an object that are walked. -/
def Object.parts : Object → List Value
  | .sequence _ items => items
  | .mapping entries => entries.map (·.2)
  | .member _ _ value => [value]
  | _ => []

namespace Value

variable {heap : Heap} {place : Nat → Nat} {limit : Option Int} {found : Object}
  {seen after : List Nat} {number fuel depth : Nat}

/-! ## Steps that succeed -/

section Gives

variable {α β : Type} {x : Walk α} {f : α → Walk β} {a : α} {b : β}

/-- From the objects that have been met a walk gives an answer, and has met more afterwards. -/
def Gives (x : Walk α) (seen : List Nat) (a : α) (after : List Nat) : Prop :=
  x.run.run seen = (.ok a, after)

@[simp] theorem gives_pure {a' : α} : Gives (pure a) seen a' after ↔ a' = a ∧ after = seen := by
  constructor
  · intro h
    cases h
    exact ⟨rfl, rfl⟩
  · rintro ⟨rfl, rfl⟩
    rfl

theorem gives_bind : Gives (x >>= f) seen b after ↔
    ∃ a middle, Gives x seen a middle ∧ Gives (f a) middle b after := by
  unfold Gives
  rw [ExceptT.run_bind, StateT.run_bind]
  rcases hx : x.run.run seen with ⟨_ | a, middle⟩
  · constructor
    · intro h
      cases h
    · rintro ⟨a, middle', hx', -⟩
      cases hx'
  · constructor
    · exact fun h => ⟨a, middle, rfl, h⟩
    · rintro ⟨a', middle', hx', h⟩
      cases hx'
      exact h

@[simp] theorem gives_lift {outcome : Except Fault α} :
    Gives (liftM outcome) seen a after ↔ outcome = .ok a ∧ after = seen := by
  constructor
  · intro h
    cases outcome with
    | error e => cases h
    | ok a' =>
      cases h
      exact ⟨rfl, rfl⟩
  · rintro ⟨rfl, rfl⟩
    rfl

theorem gives_get : Gives get seen seen seen := rfl

theorem gives_modify {change : List Nat → List Nat} :
    Gives (modify change) seen ⟨⟩ (change seen) := rfl

theorem gives_mapM_cons {γ : Type} {g : γ → Walk α} {c : γ} {cs : List γ} {as : List α} :
    Gives ((c :: cs).mapM g) seen as after ↔
      ∃ a rest middle, Gives (g c) seen a middle ∧ Gives (cs.mapM g) middle rest after ∧
        as = a :: rest := by
  rw [List.mapM_cons, gives_bind]
  simp only [gives_bind, gives_pure]
  constructor
  · rintro ⟨a, middle, ha, rest, middle', hrest, rfl, rfl⟩
    exact ⟨a, rest, middle, ha, hrest, rfl⟩
  · rintro ⟨a, rest, middle, ha, hrest, rfl⟩
    exact ⟨a, middle, ha, rest, after, hrest, rfl, rfl⟩

end Gives

/-! ## One object -/

/-- The text of a value that has one. -/
def textOf (heap : Heap) (v : Value) : Text :=
  match text heap v with
  | .ok t => t
  | .error _ => []

/-- An object is no record, and every text that is asked for can be had: those of its keys, and its
message. -/
def IsShowable (heap : Heap) (number : Nat) : Object → Prop
  | .mapping entries => ∀ entry ∈ entries, ∃ t, text heap entry.1 = .ok t
  | .exception .. => ∃ t, text heap (.object number) = .ok t
  | .record .. => False
  | _ => True

/-- An object that is expanded, with what its parts are shown as. -/
def build (heap : Heap) (number : Nat) : Object → List Json → Json
  | .sequence .., js => .array js
  | .range bound, _ => .array ((List.range bound.toNat).map fun (n : Nat) => .int n)
  | .mapping entries, js =>
    .object (Members.ofList ((entries.map fun entry => textOf heap entry.1).zip js))
  | .bytes content mutable, _ => .string (content.shownAs mutable)
  | .path p, _ => .string p.text
  | .exception type .., _ =>
    .object [("type", .string type), ("message", .string (textOf heap (.object number)))]
  | .member .., js => js.headD .null
  | .record .., _ => .null

theorem textOf_eq {v : Value} {t : Text} (h : text heap v = .ok t) : textOf heap v = t := by
  rw [textOf, h]

/-- The entries of a mapping are walked key by key. -/
theorem gives_entries {next : Value → Walk Json} {entries : List (Value × Value)} {js : List Json}
    (hkeys : ∀ entry ∈ entries, ∃ t, text heap entry.1 = .ok t)
    (h : Gives ((entries.map (·.2)).mapM next) seen js after) :
    Gives (entries.mapM fun entry => do return (← text heap entry.1, ← next entry.2)) seen
      ((entries.map fun entry => textOf heap entry.1).zip js) after := by
  induction entries generalizing seen js with
  | nil =>
    obtain ⟨rfl, rfl⟩ := gives_pure.mp h
    exact gives_pure.mpr ⟨rfl, rfl⟩
  | cons entry entries ih =>
    obtain ⟨key, value⟩ := entry
    obtain ⟨j, rest, middle, hj, hrest, rfl⟩ := gives_mapM_cons.mp h
    obtain ⟨t, ht⟩ := hkeys _ List.mem_cons_self
    have hentries := ih (fun entry hentry => hkeys entry (List.mem_cons_of_mem _ hentry)) hrest
    refine gives_mapM_cons.mpr ⟨(t, j), _, middle, ?_, hentries, ?_⟩
    · exact gives_bind.mpr ⟨t, seen, gives_lift.mpr ⟨ht, rfl⟩,
        gives_bind.mpr ⟨j, middle, hj, gives_pure.mpr ⟨rfl, rfl⟩⟩⟩
    · rw [List.map_cons, List.zip_cons_cons, textOf_eq ht]

/-- An object counts as met if one in its place has been met. -/
def IsMet (place : Nat → Nat) (seen : List Nat) (number : Nat) : Prop :=
  ∃ met ∈ seen, place met = place number

instance : Decidable (IsMet place seen number) :=
  inferInstanceAs (Decidable (∃ met ∈ seen, place met = place number))

theorem any_eq_true : (seen.any fun met => place met = place number) = true ↔
    IsMet place seen number := by simp [IsMet]

theorem isMet_of_mem (h : number ∈ seen) : IsMet place seen number := ⟨number, h, rfl⟩

@[simp] theorem isMet_cons {other : Nat} : IsMet place (other :: seen) number ↔
    place other = place number ∨ IsMet place seen number := by simp [IsMet]

/-- An object that has been met is not walked again. -/
theorem jsonIn_circular (hfound : heap[number]? = some found) (hmet : IsMet place seen number) :
    Gives (jsonIn place limit (fuel + 1) heap false depth (.object number)) seen
      (circular found.typeName) seen := by
  simp only [jsonIn, hfound, Option.map_some, Bool.false_and, Bool.not_false, Bool.true_and,
    Bool.false_eq_true, if_false, if_true, id_eq]
  refine gives_bind.mpr ⟨seen, seen, gives_get, ?_⟩
  rw [if_pos (any_eq_true.mpr hmet)]
  exact gives_pure.mpr ⟨rfl, rfl⟩

theorem jsonIn_tooDeep (hfound : heap[number]? = some found) (hmet : ¬IsMet place seen number)
    (hdeep : exceeds limit depth = true) :
    Gives (jsonIn place limit (fuel + 1) heap false depth (.object number)) seen
      (tooDeep found.typeName) seen := by
  simp only [jsonIn, hfound, Option.map_some, Bool.false_and, Bool.not_false, Bool.true_and,
    Bool.false_eq_true, if_false, if_true, id_eq]
  refine gives_bind.mpr ⟨seen, seen, gives_get, ?_⟩
  rw [if_neg (mt any_eq_true.mp hmet), if_pos hdeep]
  exact gives_pure.mpr ⟨rfl, rfl⟩

/-- An object that is expanded is met, and then its parts are walked. -/
theorem jsonIn_expanded {js : List Json} (hfound : heap[number]? = some found)
    (hmet : ¬IsMet place seen number) (hdeep : exceeds limit depth = false)
    (hshowable : IsShowable heap number found)
    (hparts : Gives (found.parts.mapM (jsonIn place limit fuel heap false (depth + 1)))
      (number :: seen) js after) :
    Gives (jsonIn place limit (fuel + 1) heap false depth (.object number)) seen
      (build heap number found js) after := by
  simp only [jsonIn, hfound, Option.map_some, Bool.false_and, Bool.not_false, Bool.true_and,
    Bool.false_eq_true, if_false, if_true, id_eq]
  refine gives_bind.mpr ⟨seen, seen, gives_get, ?_⟩
  rw [if_neg (mt any_eq_true.mp hmet), hdeep, if_neg Bool.false_ne_true]
  refine gives_bind.mpr ⟨⟨⟩, number :: seen, gives_modify, ?_⟩
  cases found with
  | sequence kind items => exact gives_bind.mpr ⟨js, after, hparts, gives_pure.mpr ⟨rfl, rfl⟩⟩
  | mapping entries =>
    exact gives_bind.mpr ⟨_, after, gives_entries hshowable hparts, gives_pure.mpr ⟨rfl, rfl⟩⟩
  | member type name value =>
    obtain ⟨j, rest, middle, hj, hrest, rfl⟩ := gives_mapM_cons.mp hparts
    obtain ⟨rfl, rfl⟩ := gives_pure.mp hrest
    exact hj
  | exception type style args =>
    obtain ⟨rfl, rfl⟩ := gives_pure.mp hparts
    obtain ⟨t, ht⟩ := hshowable
    refine gives_bind.mpr ⟨t, number :: seen, gives_lift.mpr ⟨ht, rfl⟩, ?_⟩
    rw [build, textOf_eq ht]
    exact gives_pure.mpr ⟨rfl, rfl⟩
  | range | bytes | path =>
    obtain ⟨rfl, rfl⟩ := gives_pure.mp hparts
    exact gives_pure.mpr ⟨rfl, rfl⟩
  | record => exact hshowable.elim

/-! ## Objects that are met -/

/-- What becomes of an object where it is met. -/
inductive Mark where
  | expanded
  | circular
  | tooDeep
deriving DecidableEq

/-- An object that is met at a depth. -/
structure Encounter where
  number : Nat
  depth : Nat
  mark : Mark

/-- What becomes of an object after others have been expanded. -/
def judge (place : Nat → Nat) (limit : Option Int) (seen : List Nat) (number depth : Nat) : Mark :=
  if IsMet place seen number then .circular
  else if exceeds limit depth then .tooDeep
  else .expanded

/-- The objects that have been expanded when one more has been met. -/
def meet (seen : List Nat) (e : Encounter) : List Nat :=
  match e.mark with
  | .expanded => e.number :: seen
  | _ => seen

theorem judge_eq_circular :
    judge place limit seen number depth = .circular ↔ IsMet place seen number := by
  by_cases hmet : IsMet place seen number <;> cases hdeep : exceeds limit depth <;> simp [judge, *]

theorem judge_eq_tooDeep : judge place limit seen number depth = .tooDeep ↔
    ¬IsMet place seen number ∧ exceeds limit depth = true := by
  by_cases hmet : IsMet place seen number <;> cases hdeep : exceeds limit depth <;> simp [judge, *]

theorem judge_eq_expanded : judge place limit seen number depth = .expanded ↔
    ¬IsMet place seen number ∧ exceeds limit depth = false := by
  by_cases hmet : IsMet place seen number <;> cases hdeep : exceeds limit depth <;> simp [judge, *]

/-- Each object that is met in turn has become what it has to. -/
inductive Judged (place : Nat → Nat) (limit : Option Int) : List Nat → List Encounter → Prop where
  | nil {seen : List Nat} : Judged place limit seen []
  | cons {seen : List Nat} {e : Encounter} {rest : List Encounter} :
      e.mark = judge place limit seen e.number e.depth → Judged place limit (meet seen e) rest →
      Judged place limit seen (e :: rest)

/-- Values side by side at a depth are shown as JSON values; on the way these objects are met. -/
inductive Shows (heap : Heap) : Nat → List Value → List Encounter → List Json → Prop where
  | nil {depth : Nat} : Shows heap depth [] [] []
  | scalar {depth : Nat} (s : Scalar) {vs : List Value} {es : List Encounter} {js : List Json} :
      Shows heap depth vs es js → Shows heap depth (.scalar s :: vs) es (s.json :: js)
  | circular {depth number : Nat} {found : Object} {vs : List Value} {es : List Encounter}
      {js : List Json} : heap[number]? = some found → Shows heap depth vs es js →
      Shows heap depth (.object number :: vs) (⟨number, depth, .circular⟩ :: es)
        (Value.circular found.typeName :: js)
  | tooDeep {depth number : Nat} {found : Object} {vs : List Value} {es : List Encounter}
      {js : List Json} : heap[number]? = some found → Shows heap depth vs es js →
      Shows heap depth (.object number :: vs) (⟨number, depth, .tooDeep⟩ :: es)
        (Value.tooDeep found.typeName :: js)
  | expanded {depth number : Nat} {found : Object} {vs : List Value} {inner es : List Encounter}
      {parts js : List Json} : heap[number]? = some found → IsShowable heap number found →
      Shows heap (depth + 1) found.parts inner parts → Shows heap depth vs es js →
      Shows heap depth (.object number :: vs) (⟨number, depth, .expanded⟩ :: (inner ++ es))
        (build heap number found parts :: js)

theorem Shows.length_eq {vs : List Value} {es : List Encounter} {js : List Json}
    (h : Shows heap depth vs es js) : js.length = vs.length := by
  induction h with
  | nil => rfl
  | scalar _ _ ih | circular _ _ ih | tooDeep _ _ ih | expanded _ _ _ _ _ ih =>
    rw [List.length_cons, List.length_cons, ih]

theorem judged_append {es fs : List Encounter} :
    Judged place limit seen (es ++ fs) ↔
      Judged place limit seen es ∧ Judged place limit (es.foldl meet seen) fs := by
  induction es generalizing seen with
  | nil => exact ⟨fun h => ⟨.nil, h⟩, And.right⟩
  | cons e es ih =>
    constructor
    · rintro (_ | ⟨hmark, hrest⟩)
      exact ⟨.cons hmark (ih.mp hrest).1, (ih.mp hrest).2⟩
    · rintro ⟨_ | ⟨hmark, hes⟩, hfs⟩
      exact .cons hmark (ih.mpr ⟨hes, hfs⟩)

theorem subset_meet (seen : List Nat) (e : Encounter) : seen ⊆ meet seen e := by
  unfold meet
  split
  · exact List.subset_cons_self _ _
  · exact List.Subset.refl _

theorem subset_foldl_meet (seen : List Nat) (es : List Encounter) : seen ⊆ es.foldl meet seen := by
  induction es generalizing seen with
  | nil => exact List.Subset.refl _
  | cons e es ih => exact List.Subset.trans (subset_meet seen e) (ih _)

/-! ## The bound of the walk -/

/-- How many objects have not been expanded. -/
def unseen (heap : Heap) (seen : List Nat) : Nat :=
  (Finset.range heap.length \ seen.toFinset).card

theorem unseen_le_of_subset {more : List Nat} (h : seen ⊆ more) :
    unseen heap more ≤ unseen heap seen := by
  refine Finset.card_le_card (Finset.sdiff_subset_sdiff (Finset.Subset.refl _) fun n hn => ?_)
  exact List.mem_toFinset.mpr (h (List.mem_toFinset.mp hn))

theorem unseen_cons_lt (hfound : heap[number]? = some found) (hseen : number ∉ seen) :
    unseen heap (number :: seen) < unseen heap seen := by
  have hlt : number < heap.length := (List.getElem?_eq_some_iff.mp hfound).1
  refine Finset.card_lt_card ⟨?_, fun hsub => ?_⟩
  · intro n hn
    simp only [Finset.mem_sdiff, List.mem_toFinset, List.mem_cons, not_or] at hn ⊢
    exact ⟨hn.1, hn.2.2⟩
  · have hmem : number ∈ Finset.range heap.length \ seen.toFinset := by simp [hlt, hseen]
    simpa using hsub hmem

/-- The walk computes what values are shown as, if it may go as deep as there are objects left. -/
theorem Shows.gives {vs : List Value} {es : List Encounter} {js : List Json}
    (h : Shows heap depth vs es js) (hjudged : Judged place limit seen es)
    (hfuel : unseen heap seen < fuel) :
    Gives (vs.mapM (jsonIn place limit fuel heap false depth)) seen js (es.foldl meet seen) := by
  induction h generalizing seen fuel with
  | nil => exact gives_pure.mpr ⟨rfl, rfl⟩
  | @scalar depth s vs es js _ ih =>
    refine gives_mapM_cons.mpr ⟨s.json, js, seen, ?_, ih hjudged hfuel, rfl⟩
    cases fuel <;> exact gives_pure.mpr ⟨rfl, rfl⟩
  | @circular depth number found vs es js hfound _ ih =>
    obtain ⟨fuel, rfl⟩ := Nat.exists_eq_add_one.mpr (Nat.zero_lt_of_lt hfuel)
    obtain _ | ⟨hmark, hrest⟩ := hjudged
    have hmet : IsMet place seen number := judge_eq_circular.mp hmark.symm
    exact gives_mapM_cons.mpr ⟨_, js, seen, jsonIn_circular hfound hmet, ih hrest hfuel, rfl⟩
  | @tooDeep depth number found vs es js hfound _ ih =>
    obtain ⟨fuel, rfl⟩ := Nat.exists_eq_add_one.mpr (Nat.zero_lt_of_lt hfuel)
    obtain _ | ⟨hmark, hrest⟩ := hjudged
    obtain ⟨hmet, hdeep⟩ := judge_eq_tooDeep.mp hmark.symm
    exact gives_mapM_cons.mpr
      ⟨_, js, seen, jsonIn_tooDeep hfound hmet hdeep, ih hrest hfuel, rfl⟩
  | @expanded depth number found vs inner es parts js hfound hshowable _ _ ihParts ih =>
    obtain ⟨fuel, rfl⟩ := Nat.exists_eq_add_one.mpr (Nat.zero_lt_of_lt hfuel)
    obtain _ | ⟨hmark, hrest⟩ := hjudged
    obtain ⟨hmet, hdeep⟩ := judge_eq_expanded.mp hmark.symm
    obtain ⟨hinner, hafter⟩ := judged_append.mp hrest
    have hless := unseen_cons_lt hfound (mt isMet_of_mem hmet)
    have hparts := ihParts hinner (show unseen heap (number :: seen) < fuel by omega)
    have hmore : seen ⊆ inner.foldl meet (number :: seen) :=
      List.Subset.trans (List.subset_cons_self number seen) (subset_foldl_meet _ _)
    have hrest := ih hafter (Nat.lt_of_le_of_lt (unseen_le_of_subset hmore) hfuel)
    refine gives_mapM_cons.mpr
      ⟨_, js, _, jsonIn_expanded hfound hmet hdeep hshowable hparts, ?_, rfl⟩
    rw [List.foldl_cons, List.foldl_append]
    exact hrest

/-! ## Values that can be shown -/

/-- What a value holds, through the parts of objects. -/
inductive Reaches (heap : Heap) (v : Value) : Value → Prop where
  | self : Reaches heap v v
  | part {number : Nat} {found : Object} {w : Value} : Reaches heap v (.object number) →
      heap[number]? = some found → w ∈ found.parts → Reaches heap v w

theorem Reaches.trans {v w x : Value} (h : Reaches heap v w) (hx : Reaches heap w x) :
    Reaches heap v x := by
  induction hx with
  | self => exact h
  | part _ hfound hmem ih => exact .part ih hfound hmem

/-- Whatever a value holds is a part of an object, but for the value itself. -/
theorem Reaches.eq_or_mem {v w : Value} (h : Reaches heap v w) :
    w = v ∨ w ∈ heap.flatMap Object.parts := by
  cases h with
  | self => exact .inl rfl
  | part _ hfound hmem =>
    exact .inr (List.mem_flatMap.mpr ⟨_, List.mem_of_getElem? hfound, hmem⟩)

/-- Whatever is met is held by one of the values. -/
theorem Shows.reaches {vs : List Value} {es : List Encounter} {js : List Json}
    (h : Shows heap depth vs es js) :
    ∀ e ∈ es, ∃ v ∈ vs, Reaches heap v (.object e.number) := by
  induction h with
  | nil => simp
  | scalar s _ ih =>
    intro e he
    obtain ⟨v, hv, hreaches⟩ := ih e he
    exact ⟨v, List.mem_cons_of_mem _ hv, hreaches⟩
  | circular _ _ ih | tooDeep _ _ ih =>
    refine List.forall_mem_cons.mpr ⟨⟨_, List.mem_cons_self, .self⟩, fun e he => ?_⟩
    obtain ⟨v, hv, hreaches⟩ := ih e he
    exact ⟨v, List.mem_cons_of_mem _ hv, hreaches⟩
  | expanded hfound _ _ _ ihParts ih =>
    refine List.forall_mem_cons.mpr ⟨⟨_, List.mem_cons_self, .self⟩, ?_⟩
    refine List.forall_mem_append.mpr ⟨fun e he => ?_, fun e he => ?_⟩
    · obtain ⟨part, hpart, hreaches⟩ := ihParts e he
      exact ⟨_, List.mem_cons_self, (Reaches.part .self hfound hpart).trans hreaches⟩
    · obtain ⟨v, hv, hreaches⟩ := ih e he
      exact ⟨v, List.mem_cons_of_mem _ hv, hreaches⟩

/-- The objects that a value holds lie in different places. -/
def IsApart (place : Nat → Nat) (heap : Heap) (v : Value) : Prop :=
  ∀ m n, Reaches heap v (.object m) → Reaches heap v (.object n) → place m = place n → m = n

/-- All objects that a value holds are there and can be shown. -/
def Showable (heap : Heap) (v : Value) : Prop :=
  ∀ number, Reaches heap v (.object number) →
    ∃ found, heap[number]? = some found ∧ IsShowable heap number found

theorem Showable.part {w : Value} (h : Showable heap (.object number))
    (hfound : heap[number]? = some found) (hmem : w ∈ found.parts) : Showable heap w :=
  fun other hother => h other ((Reaches.part .self hfound hmem).trans hother)

/-- Values that can be shown are shown as something, whatever has been expanded before. -/
theorem exists_shows (place : Nat → Nat) (limit : Option Int) (hfuel : unseen heap seen < fuel)
    (depth : Nat) {vs : List Value} (h : ∀ v ∈ vs, Showable heap v) :
    ∃ es js, Shows heap depth vs es js ∧ Judged place limit seen es := by
  induction fuel generalizing seen depth vs with
  | zero => omega
  | succ fuel ihFuel =>
    induction vs generalizing seen with
    | nil => exact ⟨[], [], .nil, .nil⟩
    | cons v vs ih =>
      have hvs : ∀ v ∈ vs, Showable heap v := fun v hv => h v (List.mem_cons_of_mem _ hv)
      cases v with
      | scalar s =>
        obtain ⟨es, js, hshows, hjudged⟩ := ih hfuel hvs
        exact ⟨es, _, .scalar s hshows, hjudged⟩
      | object number =>
        have hv : Showable heap (.object number) := h _ List.mem_cons_self
        obtain ⟨found, hfound, hshowable⟩ := hv number .self
        cases hmark : judge place limit seen number depth with
        | circular =>
          obtain ⟨es, js, hshows, hjudged⟩ := ih hfuel hvs
          exact ⟨_, _, .circular hfound hshows, .cons hmark.symm hjudged⟩
        | tooDeep =>
          obtain ⟨es, js, hshows, hjudged⟩ := ih hfuel hvs
          exact ⟨_, _, .tooDeep hfound hshows, .cons hmark.symm hjudged⟩
        | expanded =>
          have hmet : ¬IsMet place seen number := (judge_eq_expanded.mp hmark).1
          have hless := unseen_cons_lt hfound (mt isMet_of_mem hmet)
          obtain ⟨inner, parts, hparts, hinner⟩ :=
            ihFuel (show unseen heap (number :: seen) < fuel by omega) (depth + 1)
              fun w hw => hv.part hfound hw
          have hmore : seen ⊆ inner.foldl meet (number :: seen) :=
            List.Subset.trans (List.subset_cons_self number seen) (subset_foldl_meet _ _)
          obtain ⟨es, js, hshows, hjudged⟩ :=
            ih (Nat.lt_of_le_of_lt (unseen_le_of_subset hmore) hfuel) hvs
          exact ⟨_, _, .expanded hfound hshowable hparts hshows,
            .cons hmark.symm (judged_append.mpr ⟨hinner, hjudged⟩)⟩

end Value
end GameArchive
