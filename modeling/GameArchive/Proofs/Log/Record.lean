import GameArchive.Log.Record
import GameArchive.Proofs.Value.Dump
import GameArchive.Proofs.Value.Printer

/-!
# Records as lines of JSON

A record is written as a mapping of texts, of its time and of the context in which it is logged. The
mapping is a new object behind those that are there already, and leaves these as they are. So a
record has its line if its message and its time are to be had, and if all numbers in the context
have a text.
-/

namespace GameArchive

/-! ## Objects behind others -/

namespace Value

open Json (Everywhere)

variable {heap more : Heap} {found : Object} {number : Nat} {v w : Value} {C : Scalar → Prop}

/-- A value whose objects are all there holds nothing of what comes behind them. -/
theorem Reaches.of_append (h : Reaches (heap ++ more) v w) (hshowable : Showable heap v) :
    Reaches heap v w := by
  induction h with
  | self => exact .self
  | part _ hfound hmem ih =>
    obtain ⟨found, hsame, -⟩ := hshowable _ ih
    obtain rfl := Option.some.inj ((getElem?_append_of_some hsame).symm.trans hfound)
    exact .part ih hsame hmem

theorem IsShowable.append (h : IsShowable heap number found) :
    IsShowable (heap ++ more) number found := by
  cases found with
  | mapping entries =>
    intro entry hentry
    obtain ⟨t, ht⟩ := h entry hentry
    exact ⟨t, text_append ht⟩
  | exception =>
    obtain ⟨t, ht⟩ := h
    exact ⟨t, text_append ht⟩
  | record => exact h
  | _ => trivial

theorem BuiltOf.append (h : BuiltOf C heap v) : BuiltOf C (heap ++ more) v where
  scalar s hs := h.scalar s (hs.of_append h.showable)
  showable number hnumber := by
    obtain ⟨found, hfound, hshowable⟩ := h.showable number (hnumber.of_append h.showable)
    exact ⟨found, getElem?_append_of_some hfound, hshowable.append⟩
  keys number hnumber found hfound := by
    have hreaches := hnumber.of_append h.showable
    obtain ⟨same, hsame, -⟩ := h.showable number hreaches
    obtain rfl := Option.some.inj ((getElem?_append_of_some hsame).symm.trans hfound)
    exact h.keys number hreaches _ hsame

theorem builtOf_scalar {s : Scalar} (h : C s) : BuiltOf C heap (.scalar s) where
  scalar t ht := by
    obtain rfl := Value.scalar.inj (reaches_of_scalar.mp ht)
    exact h
  showable number hnumber := by cases reaches_of_scalar.mp hnumber
  keys number hnumber := by cases reaches_of_scalar.mp hnumber

theorem hasDistinctKeys_named {members : List (Text × Value)} (h : (members.map (·.1)).Nodup) :
    (named members).HasDistinctKeys := by
  refine ⟨members.map fun m => .string m.1, by simp [Function.comp_def], ?_, ?_⟩
  · intro key hkey
    obtain ⟨m, -, rfl⟩ := List.mem_map.mp hkey
    trivial
  · have htexts : (members.map fun m => Scalar.string m.1).map Scalar.text =
        (members.map (·.1)).map .ok := by simp [Scalar.text]
    rw [htexts]
    exact h.map fun _ _ => Except.ok.inj

/-- A new mapping of distinct names is built of what its values are built of. -/
theorem builtOf_named {members : List (Text × Value)} (hnames : (members.map (·.1)).Nodup)
    (h : ∀ m ∈ members, BuiltOf C heap m.2) :
    BuiltOf C (heap ++ [named members]) (.object heap.length) := by
  have hfound : (heap ++ [named members])[heap.length]? = some (named members) := by simp
  have hpart : ∀ part ∈ (named members).parts, BuiltOf C (heap ++ [named members]) part := by
    intro part hmem
    rw [parts_named] at hmem
    obtain ⟨m, hm, rfl⟩ := List.mem_map.mp hmem
    exact (h m hm).append
  refine ⟨fun s hs => ?_, fun number hnumber => ?_, fun number hnumber other hother => ?_⟩
  · rcases (reaches_of_object hfound).mp hs with heq | ⟨part, hmem, hs⟩
    · cases heq
    · exact (hpart part hmem).scalar s hs
  · rcases (reaches_of_object hfound).mp hnumber with heq | ⟨part, hmem, hnumber⟩
    · obtain rfl := Value.object.inj heq
      exact ⟨_, hfound, isShowable_named members⟩
    · exact (hpart part hmem).showable number hnumber
  · rcases (reaches_of_object hfound).mp hnumber with heq | ⟨part, hmem, hnumber⟩
    · obtain rfl := Value.object.inj heq
      obtain rfl := Option.some.inj (hfound.symm.trans hother)
      exact hasDistinctKeys_named hnames
    · exact (hpart part hmem).keys number hnumber other hother

end Value

namespace Log

open Value (BuiltOf HoldsFinite IsApart Reaches isApart_id named builtOf_named builtOf_scalar)
open Text (HoldsNoControl)
open Json (IsText)

variable {heap : Heap} {C : Scalar → Prop}

/-! ## Records -/

namespace Record

/-- What every record says: its time, its texts and its context. -/
def members (r : Record) (time : Int) (message : Text) (context : Value) : List (Text × Value) :=
  [("ts", .scalar (.int time)), ("level", string r.level.label), ("logger", string r.logger),
    ("msg", string message), ("ctx", context)]

/-- What is said of an exception. -/
def traceMembers (heap : Heap) (trace : Trace) : List (Text × Value) :=
  let (type, text, stack) := trace.parts heap
  [("type", string type), ("message", string text),
    ("stack", match stack with
      | some stack => string stack
      | none => .scalar .null)]

theorem nodup_members (r : Record) (time : Int) (message : Text) (context : Value) :
    ((r.members time message context).map (·.1)).Nodup :=
  (by decide : (["ts", "level", "logger", "msg", "ctx"].map Text.ofString).Nodup)

theorem nodup_members_exception (r : Record) (time : Int) (message : Text) (context v : Value) :
    ((r.members time message context ++ [(Text.ofString "exc", v)]).map (·.1)).Nodup :=
  (by decide : (["ts", "level", "logger", "msg", "ctx", "exc"].map Text.ofString).Nodup)

theorem nodup_traceMembers (heap : Heap) (trace : Trace) :
    ((traceMembers heap trace).map (·.1)).Nodup :=
  (by decide : (["type", "message", "stack"].map Text.ofString).Nodup)

/-- A record is a new mapping behind that of the context and, if it has an exception, behind that
of the exception. -/
theorem value_eq (heap : Heap) (context : Option Context) (r : Record) (time : Int)
    (message : Text) :
    r.value heap context time message =
      let outer := heap ++ [named (context.getD [])]
      let said := r.members time message (.object heap.length)
      match r.trace with
      | none => (.object outer.length, outer ++ [named said])
      | some trace =>
        let inner := outer ++ [named (traceMembers heap trace)]
        let exception : Text × Value := ("exc", .object outer.length)
        (.object inner.length, inner ++ [named (said ++ [exception])]) := by
  unfold value
  cases r.trace <;> rfl

/-- A record is built of texts, of its time, and of what the context is built of. -/
theorem builtOf_value {context : Option Context} (r : Record) {time : Int} (message : Text)
    (hnames : ((context.getD []).map (·.1)).Nodup)
    (hcontext : ∀ entry ∈ context.getD [], BuiltOf C heap entry.2)
    (hstring : ∀ t, C (.string t)) (hnull : C .null) (htime : C (.int time)) :
    BuiltOf C (r.value heap context time message).2 (r.value heap context time message).1 := by
  have houter := builtOf_named hnames hcontext
  have hsaid {heap' : Heap} {v : Value} (hv : BuiltOf C heap' v) :
      ∀ m ∈ r.members time message v, BuiltOf C heap' m.2 := by
    simp only [members, List.forall_mem_cons, string]
    exact ⟨builtOf_scalar htime, builtOf_scalar (hstring _), builtOf_scalar (hstring _),
      builtOf_scalar (hstring _), hv, by simp⟩
  rw [value_eq]
  cases r.trace with
  | none => exact builtOf_named (nodup_members ..) (hsaid houter)
  | some trace =>
    have htrace : BuiltOf C
        (heap ++ [named (context.getD [])] ++ [named (traceMembers heap trace)])
        (.object (heap ++ [named (context.getD [])]).length) := by
      refine builtOf_named (nodup_traceMembers heap trace) ?_
      simp only [traceMembers, List.forall_mem_cons, string]
      refine ⟨builtOf_scalar (hstring _), builtOf_scalar (hstring _), ?_, by simp⟩
      split
      · exact builtOf_scalar (hstring _)
      · exact builtOf_scalar hnull
    have hcontextLeft : BuiltOf C
        (heap ++ [named (context.getD [])] ++ [named (traceMembers heap trace)])
        (.object heap.length) := houter.append
    exact builtOf_named (nodup_members_exception ..) (List.forall_mem_append.mpr
      ⟨hsaid hcontextLeft, List.forall_mem_singleton.mpr htrace⟩)

/-- A record has its line of JSON if its message and its time are to be had, and if all numbers in
the context have a text. -/
theorem exists_line {place : Nat → Nat} {context : Option Context} {r : Record} {message : Text}
    {time : Int}
    (hnames : ((context.getD []).map (·.1)).Nodup)
    (hcontext : ∀ entry ∈ context.getD [],
      BuiltOf Scalar.IsProper heap entry.2 ∧ HoldsFinite heap entry.2)
    (hmessage : r.message heap = .ok message) (hcreated : r.created.milliseconds = .ok time)
    (htime : (Scalar.int time).IsProper) :
    ∃ line, (r.json place heap context).1 = .ok line ∧ HoldsNoControl line ∧ IsText line := by
  -- Both conditions on the context are one on its scalars, which the record satisfies as well.
  have hvalue := builtOf_value (C := fun s => s.IsProper ∧ Json.IsFinite s.json) r message hnames
    (fun entry hentry =>
      { scalar := fun s hs => ⟨(hcontext entry hentry).1.scalar s hs, by
          cases s with
          | float x => exact (hcontext entry hentry).2 x hs
          | _ => trivial⟩
        showable := (hcontext entry hentry).1.showable
        keys := (hcontext entry hentry).1.keys })
    (fun _ => ⟨trivial, trivial⟩) ⟨trivial, trivial⟩ ⟨htime, trivial⟩
  obtain ⟨line, hline, hcontrol, htext⟩ := Value.dump_of_holdsFinite
    ⟨fun s hs => (hvalue.scalar s hs).1, hvalue.showable, hvalue.keys⟩
    (fun x hx => (hvalue.scalar _ hx).2)
  refine ⟨line, ?_, hcontrol, htext⟩
  rw [json, hcreated, hmessage]
  dsimp only
  rw [hline]
  rfl

end Record

/-- A value of proper scalars, of objects with messages and of mappings with distinct keys has no
text only if it holds a number that is not finite, and then it has none if its objects lie in
different places. Any value without such a number has one line of text that every strict reader
takes. So has a record whose context is built of such values without such a number, if its message
can be made and its time is an integer within the limit of digits. -/
theorem json_spec (place : Nat → Nat) :
    (∀ heap v, BuiltOf Scalar.IsProper heap v →
      (∀ e, (Value.dump place heap v).1 = .error e → e = .notFinite ∧
        ∃ x, Reaches heap v (.scalar (.float x)) ∧ x.isFinite = false) ∧
      (IsApart place heap v → (∃ x, Reaches heap v (.scalar (.float x)) ∧ x.isFinite = false) →
        (Value.dump place heap v).1 = .error .notFinite) ∧
      ((¬∃ x, Reaches heap v (.scalar (.float x)) ∧ x.isFinite = false) →
        ∃ t, (Value.dump place heap v).1 = .ok t ∧ HoldsNoControl t ∧ IsText t)) ∧
    ∀ (heap : Heap) (context : Option Context) (r : Record) (message : Text) (time : Int),
      ((context.getD []).map (·.1)).Nodup →
      (∀ entry ∈ context.getD [], BuiltOf Scalar.IsProper heap entry.2 ∧
        ¬∃ x, Reaches heap entry.2 (.scalar (.float x)) ∧ x.isFinite = false) →
      r.message heap = .ok message → r.created.milliseconds = .ok time →
      (Scalar.int time).IsProper →
      ∃ line, (r.json place heap context).1 = .ok line ∧ HoldsNoControl line ∧ IsText line := by
  have hfinite {heap : Heap} {v : Value}
      (h : ¬∃ x, Reaches heap v (.scalar (.float x)) ∧ x.isFinite = false) :
      HoldsFinite heap v := by simpa [HoldsFinite] using h
  refine ⟨fun heap v h => ⟨fun e => Value.exists_of_dump_error h, ?_, fun hnot => ?_⟩, ?_⟩
  · rintro hapart ⟨x, hx, hinfinite⟩
    refine Value.dump_of_not_holdsFinite h hapart fun hall => ?_
    rw [hall x hx] at hinfinite
    contradiction
  · exact Value.dump_of_holdsFinite h (hfinite hnot)
  · intro heap context r message time hnames hcontext hmessage hcreated htime
    refine Record.exists_line hnames (fun entry hentry => ?_) hmessage hcreated htime
    exact ⟨(hcontext entry hentry).1, hfinite (hcontext entry hentry).2⟩

def plainRecord (created : Time) : Record :=
  { level := .info, logger := "a", template := "b", args := [], created := created, trace := none,
    stack := [] }

/-- A list of an exception, of itself and of a number. -/
def ring : Heap :=
  [.sequence .list [.object 1, .object 0, .scalar (.float (.finite false 3 (-1)))],
    .exception "KeyError" .quoted [.scalar (.string "k")]]

/-- The same, and a mapping of it and of a number that is not finite. -/
def spoilt : Heap :=
  ring ++ [.mapping [(.scalar (.float .nan), .object 0),
    (.scalar .null, .scalar (.float (.infinite false)))]]

theorem builtOf_ring : BuiltOf Scalar.IsProper ring (.object 0) := by
  refine .of_parts (fun s hs => ?_) fun number hnumber => ?_
  · obtain rfl : s = .float (.finite false 3 (-1)) := by simpa [ring, Object.parts] using hs
    decide
  · obtain rfl | rfl : number = 0 ∨ number = 1 := by
      simpa [ring, Object.parts, or_comm] using hnumber
    · exact ⟨_, rfl, trivial, trivial⟩
    · exact ⟨_, rfl, ⟨"'k'", rfl⟩, trivial⟩

theorem holdsFinite_ring : HoldsFinite ring (.object 0) := by
  intro x hx
  obtain rfl : x = .finite false 3 (-1) := by simpa [ring, Object.parts] using hx.eq_or_mem
  rfl

theorem builtOf_spoilt : BuiltOf Scalar.IsProper spoilt (.object 2) := by
  refine .of_parts (fun s hs => ?_) fun number hnumber => ?_
  · obtain rfl | rfl : s = .float (.finite false 3 (-1)) ∨ s = .float (.infinite false) := by
      simpa [spoilt, ring, Object.parts] using hs
    all_goals decide
  · obtain rfl | rfl | rfl : number = 2 ∨ number = 1 ∨ number = 0 := by
      simp [spoilt, ring, Object.parts] at hnumber
      tauto
    · refine ⟨_, rfl, ?_, [.float .nan, .null], rfl, by decide, by decide⟩
      intro entry hentry
      obtain rfl | rfl : entry = _ ∨ entry = _ := by simpa using hentry
      · exact ⟨"nan", rfl⟩
      · exact ⟨"None", rfl⟩
    · exact ⟨_, rfl, ⟨"'k'", rfl⟩, trivial⟩
    · exact ⟨_, rfl, trivial, trivial⟩

/-- The ring has a text and is part of a record; the mapping has none. -/
theorem json_spec_ring :
    BuiltOf Scalar.IsProper ring (.object 0) ∧ BuiltOf Scalar.IsProper spoilt (.object 2) ∧
      (∃ t, (Value.dump id ring (.object 0)).1 = .ok t ∧ IsText t) ∧
      (Value.dump id spoilt (.object 2)).1 = .error .notFinite ∧
      ∃ line, ((plainRecord (.whole 1)).json id ring (some [("c", .object 0)])).1 = .ok line ∧
        HoldsNoControl line ∧ IsText line := by
  have hfinite : ¬∃ x, Reaches ring (.object 0) (.scalar (.float x)) ∧ x.isFinite = false := by
    rintro ⟨x, hx, hnot⟩
    rw [holdsFinite_ring x hx] at hnot
    contradiction
  obtain ⟨hdump, hline⟩ := json_spec id
  obtain ⟨t, ht, -, htext⟩ := (hdump ring (.object 0) builtOf_ring).2.2 hfinite
  have hspoilt := (hdump spoilt (.object 2) builtOf_spoilt).2.1 (isApart_id _ _)
    ⟨.infinite false, .part .self rfl (by decide), rfl⟩
  refine ⟨builtOf_ring, builtOf_spoilt, ⟨t, ht, htext⟩, hspoilt, ?_⟩
  exact hline ring (some [("c", .object 0)]) (plainRecord (.whole 1)) "b" 1000 (by simp)
    (List.forall_mem_singleton.mpr ⟨builtOf_ring, hfinite⟩) rfl rfl (by decide)

/-- A generator of tuples of one number each. -/
def stream : Heap :=
  [.sequence .generator [.object 1, .object 2, .object 3],
    .sequence .tuple [.scalar (.float (.finite false 1 0))],
    .sequence .tuple [.scalar (.float (.finite false 1 1))],
    .sequence .tuple [.scalar (.float .nan)]]

/-- The last tuple comes to lie where the first one was. -/
def reused (number : Nat) : Nat := if number = 3 then 1 else number

/-- A record is not written if its time is beyond all numbers, or if it has too many digits. A number
that is not finite is left out where its tuple lies in the place of an earlier one. -/
theorem json_late :
    (plainRecord (.exact (Binary64.ofDecimal false 1 308))).message [] = .ok "b" ∧
      ((plainRecord (.exact (Binary64.ofDecimal false 1 308))).json id [] none).1 =
        .error (.format (.notFinite false)) ∧
      (plainRecord (.whole (10 ^ 4299))).message [] = .ok "b" ∧
      ((plainRecord (.whole (10 ^ 4299))).json id [] none).1 = .error (.dump .longInteger) ∧
      Reaches stream (.object 0) (.scalar (.float .nan)) ∧
      (Value.dump reused stream (.object 0)).1 =
        .ok (Text.ofString "[[1.0],[2.0],\"<circular_ref tuple>\"]") := by
  have htuple : Reaches stream (.object 0) (.object 3) := .part .self rfl (by decide)
  refine ⟨rfl, ?_, rfl, ?_, .part htuple rfl (List.mem_singleton_self _), ?_⟩
  all_goals decide +kernel

end Log
end GameArchive
