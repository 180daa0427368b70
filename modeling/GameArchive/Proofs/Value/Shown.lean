import GameArchive.Proofs.Json.Basic
import GameArchive.Proofs.Value.Walk

/-!
# What a value is shown as

A value whose objects can be shown is shown as one JSON value. Each object in it is expanded where
it is met first within the limit of depth, and from then on a note of its type stands for it. The
limit bounds how deep the JSON value nests, and a value that is JSON already comes back as it is.
-/

namespace GameArchive

/-! ## Nesting -/

namespace Json

mutual

/-- How deep arrays and objects nest in a value. -/
def nesting : Json → Nat
  | array items => nestingItems items + 1
  | object members => nestingMembers members + 1
  | _ => 0

def nestingItems : List Json → Nat
  | [] => 0
  | item :: items => max (nesting item) (nestingItems items)

def nestingMembers : List (Text × Json) → Nat
  | [] => 0
  | (_, value) :: members => max (nesting value) (nestingMembers members)

end

theorem nestingItems_le {items : List Json} {bound : Nat} :
    nestingItems items ≤ bound ↔ ∀ item ∈ items, item.nesting ≤ bound := by
  induction items with
  | nil => simp [nestingItems]
  | cons item items ih => simp [nestingItems, ih]

theorem nestingMembers_le {members : Members} {bound : Nat} :
    nestingMembers members ≤ bound ↔ ∀ entry ∈ members, entry.2.nesting ≤ bound := by
  induction members with
  | nil => simp [nestingMembers]
  | cons entry members ih =>
    obtain ⟨name, v⟩ := entry
    simp [nestingMembers, ih]

end Json

namespace Value

open Json (Everywhere HasDistinctNames everywhere_array everywhere_object everywhere_of_scalar)

variable {heap : Heap} {place : Nat → Nat} {limit : Option Int} {found : Object} {seen : List Nat}
  {number fuel depth : Nat} {v : Value} {vs : List Value} {es : List Encounter} {js : List Json}

/-! ## Expanded once -/

/-- An object counts as met if it did before, or if one in its place has been met within the
limit. -/
theorem Judged.isMet_foldl (h : Judged place limit seen es) :
    IsMet place (es.foldl meet seen) number ↔ IsMet place seen number ∨
      ∃ e ∈ es, place e.number = place number ∧ exceeds limit e.depth = false := by
  induction h with
  | nil => simp
  | @cons seen e rest hmark _ ih =>
    have hmeet : IsMet place (meet seen e) number ↔ IsMet place seen number ∨
        place e.number = place number ∧ exceeds limit e.depth = false := by
      cases hjudge : judge place limit seen e.number e.depth with
      | expanded =>
        have hdeep := (judge_eq_expanded.mp hjudge).2
        simp [meet, hmark, hjudge, hdeep, or_comm]
      | circular =>
        obtain ⟨met, hmem, hplace⟩ := judge_eq_circular.mp hjudge
        have hor : place e.number = place number → IsMet place seen number := fun heq =>
          ⟨met, hmem, hplace.trans heq⟩
        simp only [meet, hmark, hjudge]
        tauto
      | tooDeep =>
        have hdeep := (judge_eq_tooDeep.mp hjudge).2
        simp [meet, hmark, hjudge, hdeep]
    simp only [List.foldl_cons, ih, hmeet, or_assoc, List.mem_cons, exists_eq_or_imp]

/-- Of the objects that are met in turn, each is expanded where it is met first within the limit,
and nowhere else. -/
structure ExpandsOnce (limit : Option Int) (es : List Encounter) : Prop where
  expanded : ∀ before e after, es = before ++ e :: after →
    (e.mark = .expanded ↔ exceeds limit e.depth = false ∧
      ∀ f ∈ before, f.number = e.number → exceeds limit f.depth = true)
  circular : ∀ before e after, es = before ++ e :: after → e.mark = .expanded →
    ∀ f ∈ after, f.number = e.number → f.mark = .circular
  tooDeep : ∀ before e after, es = before ++ e :: after →
    (e.mark = .tooDeep ↔ exceeds limit e.depth = true ∧
      ∀ f ∈ before, f.number = e.number → exceeds limit f.depth = true)

/-- What becomes of one of the objects that are met depends on those that are met before it. -/
theorem Judged.mark_eq {before after : List Encounter} {e : Encounter}
    (h : Judged place limit [] (before ++ e :: after)) :
    e.mark = judge place limit (before.foldl meet []) e.number e.depth := by
  obtain _ | ⟨hmark, -⟩ := (judged_append.mp h).2
  exact hmark

/-- The objects that are met lie in different places. -/
def AreApart (place : Nat → Nat) (es : List Encounter) : Prop :=
  ∀ e ∈ es, ∀ f ∈ es, place e.number = place f.number → e.number = f.number

/-- None of the objects that are met is one that is expanded. -/
theorem Judged.not_isMet_iff {before after : List Encounter} {e : Encounter}
    (h : Judged place limit [] (before ++ e :: after))
    (hapart : AreApart place (before ++ e :: after)) :
    ¬IsMet place (before.foldl meet []) e.number ↔
      ∀ f ∈ before, f.number = e.number → exceeds limit f.depth = true := by
  have hplace : ∀ f ∈ before, place f.number = place e.number ↔ f.number = e.number := fun f hf =>
    ⟨hapart f (by simp [hf]) e (by simp), congrArg place⟩
  rw [(judged_append.mp h).1.isMet_foldl]
  simp only [IsMet, List.not_mem_nil, false_and, exists_false, false_or, not_exists, not_and,
    Bool.not_eq_false]
  exact forall₂_congr fun f hf => by rw [hplace f hf]

theorem Judged.expandsOnce (h : Judged place limit [] es) (hapart : AreApart place es) :
    ExpandsOnce limit es where
  expanded := by
    rintro before e after rfl
    rw [h.mark_eq, judge_eq_expanded, h.not_isMet_iff hapart, and_comm]
  circular := by
    rintro before e after rfl hmark f hf hnumber
    obtain ⟨between, rest, rfl⟩ := List.append_of_mem hf
    have hdeep := (judge_eq_expanded.mp (h.mark_eq.symm.trans hmark)).2
    rw [← List.cons_append, ← List.append_assoc] at h
    rw [h.mark_eq, judge_eq_circular, (judged_append.mp h).1.isMet_foldl]
    exact .inr ⟨e, by simp, congrArg place hnumber.symm, hdeep⟩
  tooDeep := by
    rintro before e after rfl
    rw [h.mark_eq, judge_eq_tooDeep, h.not_isMet_iff hapart, and_comm]

theorem Shows.areApart (h : Shows heap depth [v] es js) (hapart : IsApart place heap v) :
    AreApart place es := fun e he f hf =>
  hapart _ _ (by simpa using h.reaches e he) (by simpa using h.reaches f hf)

/-! ## Objects that are expanded -/

/-- An entry of an object is one of the values that its parts are shown as. -/
theorem mem_parts_of_mem_ofList {texts : List Text} {parts : List Json} {entry : Text × Json}
    (h : entry ∈ Members.ofList (texts.zip parts)) : entry.2 ∈ parts := by
  rcases Members.mem_putAll h with h | h
  · exact absurd h List.not_mem_nil
  · exact (List.of_mem_zip h).2

theorem nesting_build {parts : List Json} {bound : Nat} (h : ∀ j ∈ parts, j.nesting ≤ bound) :
    (build heap number found parts).nesting ≤ bound + 1 := by
  cases found with
  | sequence => exact Nat.succ_le_succ (Json.nestingItems_le.mpr h)
  | range n =>
    refine Nat.succ_le_succ (Json.nestingItems_le.mpr fun item hitem => ?_)
    obtain ⟨n, -, rfl⟩ := List.mem_map.mp hitem
    exact Nat.zero_le _
  | mapping =>
    exact Nat.succ_le_succ
      (Json.nestingMembers_le.mpr fun entry hentry => h _ (mem_parts_of_mem_ofList hentry))
  | member =>
    cases parts with
    | nil => exact Nat.zero_le _
    | cons j parts => exact Nat.le_succ_of_le (h j List.mem_cons_self)
  | exception =>
    refine Nat.succ_le_succ (Json.nestingMembers_le.mpr ?_)
    simp [Json.nesting]
  | bytes | path | record => exact Nat.zero_le _

theorem distinctNames_build {parts : List Json} (h : ∀ j ∈ parts, Everywhere HasDistinctNames j) :
    Everywhere HasDistinctNames (build heap number found parts) := by
  cases found with
  | sequence => exact everywhere_array.mpr ⟨trivial, h⟩
  | range n =>
    refine everywhere_array.mpr ⟨trivial, fun item hitem => ?_⟩
    obtain ⟨n, -, rfl⟩ := List.mem_map.mp hitem
    exact (everywhere_of_scalar (by simp) (by simp)).mpr trivial
  | mapping =>
    refine everywhere_object.mpr ⟨Members.nodup_ofList _, fun entry hentry => ?_⟩
    exact h _ (mem_parts_of_mem_ofList hentry)
  | member =>
    cases parts with
    | nil => exact (everywhere_of_scalar (by simp [build]) (by simp [build])).mpr trivial
    | cons j parts => exact h j List.mem_cons_self
  | exception =>
    have hnames : Text.ofString "type" ≠ "message" := by decide
    refine everywhere_object.mpr
      ⟨by simp [HasDistinctNames, Members.names, hnames], fun entry hentry => ?_⟩
    obtain rfl | rfl : entry = _ ∨ entry = _ := by simpa using hentry
    all_goals exact (everywhere_of_scalar (by simp) (by simp)).mpr trivial
  | bytes | path | record =>
    exact (everywhere_of_scalar (by simp [build]) (by simp [build])).mpr trivial

/-- What no scalar, no note and no object that is expanded breaks holds of all that is shown. -/
theorem Shows.forall_of_build {P : Json → Prop} (h : Shows heap depth vs es js)
    (hscalar : ∀ s : Scalar, P s.json) (hnote : ∀ t, P (.string t))
    (hbuild : ∀ number found parts, (∀ j ∈ parts, P j) → P (build heap number found parts)) :
    ∀ j ∈ js, P j := by
  induction h with
  | nil => simp
  | scalar s _ ih => exact List.forall_mem_cons.mpr ⟨hscalar s, ih⟩
  | circular _ _ ih | tooDeep _ _ ih => exact List.forall_mem_cons.mpr ⟨hnote _, ih⟩
  | expanded _ _ _ _ ihParts ih => exact List.forall_mem_cons.mpr ⟨hbuild _ _ _ ihParts, ih⟩

theorem everywhere_scalar {P : Json → Prop} (s : Scalar) : Everywhere P s.json ↔ P s.json :=
  everywhere_of_scalar (by cases s <;> simp [Scalar.json]) (by cases s <;> simp [Scalar.json])

theorem Shows.distinctNames (h : Shows heap depth vs es js) :
    ∀ j ∈ js, Everywhere HasDistinctNames j := by
  refine h.forall_of_build (fun s => ?_) (fun t => ?_) fun _ _ _ => distinctNames_build
  · refine (everywhere_scalar s).mpr ?_
    cases s <;> trivial
  · exact (everywhere_of_scalar (by simp) (by simp)).mpr trivial

/-- Below a limit nothing nests deeper than the limit leaves room for. -/
theorem Shows.nesting_le {n : Int} (h : Shows heap depth vs es js)
    (hes : ∀ e ∈ es, e.mark = .expanded → (e.depth : Int) ≤ n) :
    ∀ j ∈ js, j.nesting ≤ (n + 1 - depth).toNat := by
  induction h with
  | nil => simp
  | scalar s _ ih =>
    refine List.forall_mem_cons.mpr ⟨?_, ih hes⟩
    cases s <;> exact Nat.zero_le _
  | circular _ _ ih | tooDeep _ _ ih =>
    exact List.forall_mem_cons.mpr ⟨Nat.zero_le _, ih fun e he => hes e (List.mem_cons_of_mem _ he)⟩
  | @expanded depth number found vs inner es parts js _ _ _ _ ihParts ih =>
    rw [List.forall_mem_cons, List.forall_mem_append] at hes
    have hdepth : (depth : Int) ≤ n := hes.1 rfl
    have hroom : (n + 1 - (depth + 1 : Nat)).toNat + 1 = (n + 1 - depth).toNat := by omega
    refine List.forall_mem_cons.mpr ⟨?_, ih hes.2.2⟩
    rw [← hroom]
    exact nesting_build (ihParts hes.2.1)

/-! ## Values that are JSON already -/

/-- Values are JSON values: scalars, lists, and mappings of names that are distinct. The numbers are
those of the lists and mappings in them. -/
inductive Spells (heap : Heap) : List Value → List Nat → List Json → Prop where
  | nil : Spells heap [] [] []
  | scalar (s : Scalar) {vs : List Value} {numbers : List Nat} {js : List Json} :
      Spells heap vs numbers js → Spells heap (.scalar s :: vs) numbers (s.json :: js)
  | list {number : Nat} {items vs : List Value} {inner numbers : List Nat} {parts js : List Json} :
      heap[number]? = some (.sequence .list items) → Spells heap items inner parts →
      Spells heap vs numbers js →
      Spells heap (.object number :: vs) (number :: (inner ++ numbers)) (.array parts :: js)
  | mapping {number : Nat} {members : List (Text × Value)} {vs : List Value}
      {inner numbers : List Nat} {parts js : List Json} :
      heap[number]? = some (.mapping (members.map fun m => (.scalar (.string m.1), m.2))) →
      (members.map (·.1)).Nodup → Spells heap (members.map (·.2)) inner parts →
      Spells heap vs numbers js →
      Spells heap (.object number :: vs) (number :: (inner ++ numbers))
        (.object ((members.map (·.1)).zip parts) :: js)

/-- An object of distinct names has nothing but the values that are given for them. -/
theorem ofList_zip {names : List Text} (h : names.Nodup) {parts : List Json}
    (hlength : parts.length = names.length) :
    Members.ofList (names.zip parts) = names.zip parts := by
  refine Members.ofList_eq_self ?_
  rwa [Members.names, List.map_fst_zip (Nat.le_of_eq hlength.symm)]

/-- The mapping of some names. -/
def named (members : List (Text × Value)) : Object :=
  .mapping (members.map fun m => (.scalar (.string m.1), m.2))

theorem parts_named (members : List (Text × Value)) :
    (named members).parts = members.map (·.2) := by
  simp [named, Object.parts]

theorem isShowable_named (members : List (Text × Value)) :
    IsShowable heap number (named members) := by
  intro entry hentry
  obtain ⟨m, -, rfl⟩ := List.mem_map.mp hentry
  exact ⟨m.1, rfl⟩

theorem build_named {members : List (Text × Value)} (h : (members.map (·.1)).Nodup)
    {parts : List Json} (hlength : parts.length = (members.map (·.1)).length) :
    build heap number (named members) parts = .object ((members.map (·.1)).zip parts) := by
  have htexts : (members.map fun m => (Value.scalar (.string m.1), m.2)).map
      (fun entry => textOf heap entry.1) = members.map (·.1) := by
    simp [textOf, text, textIn, Scalar.text]
  rw [named, build, htexts, ofList_zip h hlength]

/-- They are shown as these values if every object is expanded. -/
theorem Spells.shows {numbers : List Nat} (h : Spells heap vs numbers js) (depth : Nat) :
    ∃ es, Shows heap depth vs es js ∧ es.map (·.number) = numbers ∧
      ∀ e ∈ es, e.mark = .expanded := by
  induction h generalizing depth with
  | nil => exact ⟨[], .nil, rfl, by simp⟩
  | scalar s _ ih =>
    obtain ⟨es, hes, hnumbers, hmarks⟩ := ih depth
    exact ⟨es, .scalar s hes, hnumbers, hmarks⟩
  | list hfound _ _ ihItems ih =>
    obtain ⟨inner, hinner, hinnerNumbers, hinnerMarks⟩ := ihItems (depth + 1)
    obtain ⟨es, hes, hnumbers, hmarks⟩ := ih depth
    refine ⟨_, .expanded hfound trivial hinner hes, by simp [hinnerNumbers, hnumbers], ?_⟩
    exact List.forall_mem_cons.mpr ⟨rfl, List.forall_mem_append.mpr ⟨hinnerMarks, hmarks⟩⟩
  | @mapping number members vs inner numbers parts js hfound hnodup _ _ ihValues ih =>
    obtain ⟨inner, hinner, hinnerNumbers, hinnerMarks⟩ := ihValues (depth + 1)
    obtain ⟨es, hes, hnumbers, hmarks⟩ := ih depth
    have hlength : parts.length = (members.map (·.1)).length := by simpa using hinner.length_eq
    rw [← parts_named] at hinner
    rw [← build_named hnodup hlength]
    refine ⟨_, .expanded hfound (isShowable_named members) hinner hes,
      by simp [hinnerNumbers, hnumbers], ?_⟩
    exact List.forall_mem_cons.mpr ⟨rfl, List.forall_mem_append.mpr ⟨hinnerMarks, hmarks⟩⟩

/-- Without a limit, objects in places of their own are all expanded. -/
theorem judged_of_nodup (hmarks : ∀ e ∈ es, e.mark = .expanded)
    (hnodup : (es.map fun e => place e.number).Nodup)
    (hseen : ∀ e ∈ es, ¬IsMet place seen e.number) : Judged place none seen es := by
  induction es generalizing seen with
  | nil => exact .nil
  | cons e es ih =>
    rw [List.forall_mem_cons] at hmarks hseen
    rw [List.map_cons, List.nodup_cons] at hnodup
    have hmark : e.mark = judge place none seen e.number e.depth :=
      hmarks.1.trans (judge_eq_expanded.mpr ⟨hseen.1, rfl⟩).symm
    refine .cons hmark (ih hmarks.2 hnodup.2 fun f hf => ?_)
    have hne : place e.number ≠ place f.number := by
      intro heq
      exact hnodup.1 (heq ▸ List.mem_map_of_mem hf)
    simp only [meet, hmarks.1, isMet_cons, not_or]
    exact ⟨hne, hseen.2 f hf⟩

/-! ## Whole values -/

theorem unseen_nil (heap : Heap) : unseen heap [] = heap.length := by simp [unseen]

theorem json_eq_ok {j : Json} {after : List Nat}
    (h : Gives (jsonIn place limit heap.length.succ heap false 0 v) [] j after) :
    (json place heap limit v).1 = .ok j := by
  rw [json, h]

/-- The walk over a value as a whole comes to what it is shown as. -/
theorem Shows.gives_whole {j : Json} (h : Shows heap 0 [v] es [j])
    (hjudged : Judged place limit [] es) (hfuel : heap.length < fuel) :
    Gives (jsonIn place limit fuel heap false 0 v) [] j (es.foldl meet []) := by
  have hgives := h.gives hjudged (by rwa [unseen_nil])
  obtain ⟨j', rest, middle, hj, hrest, heq⟩ := gives_mapM_cons.mp hgives
  obtain ⟨rfl, rfl⟩ := gives_pure.mp hrest
  obtain rfl := (List.cons.inj heq).1
  exact hj

/-- A value whose objects can be shown is shown as one JSON value. -/
theorem exists_json (place : Nat → Nat) (limit : Option Int) (h : Showable heap v) :
    ∃ j encounters, (json place heap limit v).1 = .ok j ∧ Shows heap 0 [v] encounters [j] ∧
      Judged place limit [] encounters := by
  have hbound : unseen heap [] < heap.length.succ := by
    rw [unseen_nil]
    exact Nat.lt_succ_self _
  obtain ⟨es, js, hshows, hjudged⟩ :=
    exists_shows place limit hbound 0 (List.forall_mem_singleton.mpr h)
  obtain ⟨j, rfl⟩ : ∃ j, js = [j] := List.length_eq_one_iff.mp hshows.length_eq
  exact ⟨j, es, json_eq_ok (hshows.gives_whole hjudged (Nat.lt_succ_self _)), hshows, hjudged⟩

/-- The walk over a value whose objects can be shown ends, with any bound on its depth that is more
than the number of objects, and with the same JSON value, whose names are distinct in each object.
Where the objects lie in different places, every object is expanded where it is met first within the
limit, and a note stands for it wherever it is met again. Under a limit nothing nests deeper, and
without one a value that is JSON already, and in which no list or mapping comes twice, is shown as it
is. -/
theorem json_expands_once (limit : Option Int) (h : Showable heap v)
    (hapart : IsApart place heap v) :
    ∃ j encounters, (json place heap limit v).1 = .ok j ∧
      (∀ fuel, heap.length < fuel →
        (jsonIn place limit fuel heap false 0 v).run.run [] =
          (.ok j, encounters.foldl meet [])) ∧
      Shows heap 0 [v] encounters [j] ∧ ExpandsOnce limit encounters ∧
      Everywhere HasDistinctNames j ∧ (∀ n, limit = some n → j.nesting ≤ (n + 1).toNat) ∧
      (limit = none → ∀ numbers tree, Spells heap [v] numbers [tree] → numbers.Nodup →
        j = tree) := by
  obtain ⟨j, es, hjson, hshows, hjudged⟩ := exists_json place limit h
  have honce := hjudged.expandsOnce (hshows.areApart hapart)
  refine ⟨j, es, hjson, fun fuel hfuel => hshows.gives_whole hjudged hfuel, hshows, honce,
    hshows.distinctNames j (List.mem_singleton_self j), ?_, ?_⟩
  · rintro n rfl
    have hes : ∀ e ∈ es, e.mark = .expanded → (e.depth : Int) ≤ n := by
      intro e he hmark
      obtain ⟨before, after, rfl⟩ := List.append_of_mem he
      have hdeep := ((honce.expanded _ _ _ rfl).mp hmark).1
      simpa [exceeds] using hdeep
    simpa using hshows.nesting_le hes j (List.mem_singleton_self j)
  · rintro rfl numbers tree hspells hnodup
    obtain ⟨fs, hfs, rfl, hmarks⟩ := hspells.shows 0
    have hplaces : ((fs.map (·.number)).map place).Nodup := by
      refine List.Nodup.map_on (fun m hm n hn heq => ?_) hnodup
      obtain ⟨e, he, rfl⟩ := List.mem_map.mp hm
      obtain ⟨f, hf, rfl⟩ := List.mem_map.mp hn
      exact hfs.areApart hapart e he f hf heq
    rw [List.map_map] at hplaces
    have htree := json_eq_ok (hfs.gives_whole (judged_of_nodup hmarks hplaces (by simp [IsMet]))
      (Nat.lt_succ_self _))
    exact Except.ok.inj (hjson.symm.trans htree)

/-- A list of a mapping, of itself and of the mapping again, whose two values are one exception. -/
def knot : Heap :=
  [.sequence .list [.object 1, .object 0, .object 1, .scalar (.int 7)],
    .mapping [(.scalar (.string "a"), .object 2), (.scalar (.int 2), .object 2)],
    .exception "ValueError" .plain [.scalar (.string "gone")]]

theorem showable_knot : Showable knot (.object 0) := by
  intro number hreaches
  have hparts : knot.flatMap Object.parts =
      [.object 1, .object 0, .object 1, .scalar (.int 7), .object 2, .object 2] := rfl
  have hnumber : number = 0 ∨ number = 1 ∨ number = 2 := by
    have hmem := hreaches.eq_or_mem
    simp only [hparts, List.mem_cons, Value.object.injEq, reduceCtorEq, List.not_mem_nil] at hmem
    tauto
  rcases hnumber with rfl | rfl | rfl
  · exact ⟨_, rfl, trivial⟩
  · refine ⟨_, rfl, fun entry hentry => ?_⟩
    obtain rfl | rfl : entry = _ ∨ entry = _ := by simpa using hentry
    · exact ⟨"a", rfl⟩
    · exact ⟨"2", rfl⟩
  · exact ⟨_, rfl, "gone", rfl⟩

theorem isApart_id (heap : Heap) (v : Value) : IsApart id heap v := fun _ _ _ _ h => h

/-- The exception lies too deep in the mapping, and is not expanded there. -/
theorem json_expands_once_knot :
    Showable knot (.object 0) ∧ IsApart id knot (.object 0) ∧
      ∃ j encounters, (json id knot (some 1) (.object 0)).1 = .ok j ∧
        Shows knot 0 [.object 0] encounters [j] ∧ ExpandsOnce (some 1) encounters ∧
        Everywhere HasDistinctNames j ∧ j.nesting ≤ 2 := by
  obtain ⟨j, encounters, hjson, -, hshows, honce, hnames, hnesting, -⟩ :=
    json_expands_once (some 1) showable_knot (isApart_id knot (.object 0))
  exact ⟨showable_knot, isApart_id _ _, j, encounters, hjson, hshows, honce, hnames, hnesting 1 rfl⟩

/-- The least natural number of more digits than are written. -/
def tooLong : Int := Int.ofNat (Nat.pow 10 4300)

/-- A mapping whose key has too many digits is not shown, and a list of what is no number is shown as
a JSON value that has no text. -/
theorem json_not_shown :
    (json id [.mapping [(.scalar (.int tooLong), .scalar .null)]] none (.object 0)).1 =
        .error .longInteger ∧
      (json id [.sequence .list [.scalar (.float .nan)]] none (.object 0)).1 =
        .ok (.array [.float .nan]) ∧
      dumpJson (.array [.float .nan]) = .error .notFinite := by
  have hlong : Json.isLongInteger tooLong = true := by decide +kernel
  refine ⟨?_, rfl, rfl⟩
  generalize tooLong = n at hlong
  have hkey (heap : Heap) : text heap (.scalar (.int n)) = .error .longInteger := by
    rw [text, textIn, Scalar.text, hlong]
    rfl
  rw [json]
  simp only [jsonIn, List.length_singleton, Nat.zero_lt_one, getElem?_pos, List.getElem_cons_zero,
    Option.map_some, Bool.false_eq_true, if_false, id_eq, List.mapM_cons, hkey]
  rfl

end Value
end GameArchive
