import GameArchive.Value.Printer

/-!
# Texts in larger heaps

The bound on how deep objects nest decides only whether a value has a text. With a greater bound the
text is the same, and it stays the same where other objects come behind those of the heap.
-/

namespace GameArchive
namespace Value

variable {heap more : Heap} {number fuel bound : Nat} {v : Value}

/-! ## Computations that give as much -/

section Extends

variable {α β : Type} {x y : Except Fault α} {f g : α → Except Fault β}

/-- Whatever the one computation gives, the other one gives too. -/
def Extends (x y : Except Fault α) : Prop := ∀ a, x = .ok a → y = .ok a

theorem Extends.refl (x : Except Fault α) : Extends x x := fun _ h => h

theorem Extends.error (fault : Fault) (y : Except Fault α) : Extends (.error fault) y := by
  intro a h
  cases h

theorem Extends.bind (h : Extends x y) (hfg : ∀ a, Extends (f a) (g a)) :
    Extends (x >>= f) (y >>= g) := by
  intro b hb
  cases x with
  | error fault => cases hb
  | ok a =>
    rw [h a rfl]
    exact hfg a b hb

theorem Extends.ite {P : Prop} [Decidable P] {x' y' : Except Fault α} (h : Extends x y)
    (h' : Extends x' y') : Extends (if P then x else x') (if P then y else y') := by
  split
  · exact h
  · exact h'

theorem Extends.mapM (h : ∀ a, Extends (f a) (g a)) (as : List α) :
    Extends (as.mapM f) (as.mapM g) := by
  induction as with
  | nil => exact .refl _
  | cons a as ih =>
    rw [List.mapM_cons, List.mapM_cons]
    exact .bind (h a) fun b => .bind ih fun bs => .refl _

end Extends

/-! ## Larger heaps -/

theorem getElem?_append_of_some {found : Object} (h : heap[number]? = some found) :
    (heap ++ more)[number]? = some found := by
  rwa [List.getElem?_append_left (List.getElem?_eq_some_iff.mp h).1]

@[simp] theorem shownIn_scalar (s : Scalar) (active : List Nat) :
    shownIn heap fuel active (.scalar s) = s.shown := by cases fuel <;> rfl

@[simp] theorem textIn_scalar (s : Scalar) : textIn heap fuel (.scalar s) = s.text := by
  cases fuel <;> rfl

/-- The text in a container is the same with a greater bound and with more objects. -/
theorem shownIn_extends (hle : fuel ≤ bound) (active : List Nat) (v : Value) :
    Extends (shownIn heap fuel active v) (shownIn (heap ++ more) bound active v) := by
  induction fuel generalizing bound active v with
  | zero =>
    cases v with
    | scalar s => simpa using .refl _
    | object number => exact .error _ _
  | succ fuel ih =>
    cases v with
    | scalar s => simpa using .refl _
    | object number =>
    obtain ⟨bound, rfl⟩ := Nat.exists_eq_add_one.mpr (Nat.zero_lt_of_lt hle)
    have hinside : ∀ v, Extends (shownIn heap fuel (number :: active) v)
        (shownIn (heap ++ more) bound (number :: active) v) :=
      ih (Nat.le_of_succ_le_succ hle) (number :: active)
    rw [shownIn, shownIn]
    cases hfound : heap[number]? with
    | none => exact .error _ _
    | some found =>
    rw [getElem?_append_of_some hfound]
    cases found with
    | sequence kind items =>
      exact .ite (.refl _) (.bind (.mapM hinside items) fun _ => .refl _)
    | mapping entries =>
      refine .ite (.refl _) (.bind (.mapM (fun entry => ?_) entries) fun _ => .refl _)
      exact .bind (hinside entry.1) fun _ => .bind (hinside entry.2) fun _ => .refl _
    | exception type style args =>
      match args with
      | [arg] => exact .bind (hinside arg) fun _ => .refl _
      | [] => exact .refl _
      | arg :: next :: args =>
        exact .ite (.refl _) (.bind (.mapM hinside _) fun _ => .refl _)
    | member type name value => exact .bind (hinside value) fun _ => .refl _
    | record type fields =>
      refine .ite (.refl _) (.bind (.mapM (fun field => ?_) fields) fun _ => .refl _)
      exact .bind (hinside field.2) fun _ => .refl _
    | range | bytes | path => exact .refl _

theorem shownBound_le_append (heap more : Heap) : shownBound heap ≤ shownBound (heap ++ more) := by
  have hlength : heap.length ≤ (heap ++ more).length := by simp
  exact Nat.mul_le_mul (Nat.succ_le_succ hlength) (Nat.add_le_add_right hlength 2)

theorem message_extends {text text' : Value → Except Fault Text}
    (htext : ∀ v, Extends (text v) (text' v)) (style : MessageStyle) (args : List Value) :
    Extends (message heap number text style args)
      (message (heap ++ more) number text' style args) := by
  have hshown : ∀ active v, Extends (shownIn heap (shownBound heap) active v)
      (shownIn (heap ++ more) (shownBound (heap ++ more)) active v) :=
    shownIn_extends (shownBound_le_append heap more)
  have hmany : Extends
      (args.mapM (shownIn heap (shownBound heap) [number]))
      (args.mapM (shownIn (heap ++ more) (shownBound (heap ++ more)) [number])) :=
    .mapM (hshown [number]) args
  match style, args with
  | .unprintable, _ => exact .error _ _
  | .system paths, code :: problem :: _ =>
    exact .bind (htext code) fun _ => .bind (htext problem) fun _ =>
      .bind (.mapM (hshown []) paths) fun _ => .refl _
  | .plain, [] | .quoted, [] | .system _, [] => exact .refl _
  | .quoted, [arg] => exact hshown [] arg
  | .plain, [arg] | .system _, [arg] => exact htext arg
  | .plain, _ :: _ :: _ | .quoted, _ :: _ :: _ => exact .bind hmany fun _ => .refl _

theorem shown_of_none (h : heap[number]? = none) :
    shown heap (.object number) = .error .noObject := by
  obtain ⟨n, hn⟩ := Nat.exists_eq_add_one.mpr (Nat.mul_pos heap.length.succ_pos (Nat.succ_pos _))
  rw [shown, shownBound, hn, shownIn, h]
  rfl

theorem textIn_extends (hle : fuel ≤ bound) (v : Value) :
    Extends (textIn heap fuel v) (textIn (heap ++ more) bound v) := by
  induction fuel generalizing bound v with
  | zero =>
    cases v with
    | scalar s => simpa using .refl _
    | object number => exact .error _ _
  | succ fuel ih =>
    cases v with
    | scalar s => simpa using .refl _
    | object number =>
    obtain ⟨bound, rfl⟩ := Nat.exists_eq_add_one.mpr (Nat.zero_lt_of_lt hle)
    have hshown : Extends (shown heap (.object number)) (shown (heap ++ more) (.object number)) :=
      shownIn_extends (shownBound_le_append heap more) [] (.object number)
    rw [textIn, textIn]
    cases hfound : heap[number]? with
    | none =>
      rw [shown_of_none hfound]
      exact .error _ _
    | some found =>
    rw [getElem?_append_of_some hfound]
    cases found with
    | exception type style args =>
      exact message_extends (ih (Nat.le_of_succ_le_succ hle)) style args
    | path | member => exact .refl _
    | _ => exact hshown

/-- A text stays what it is where other objects come behind. -/
theorem text_append {t : Text} (h : text heap v = .ok t) : text (heap ++ more) v = .ok t :=
  textIn_extends (by simp) v t h

end Value
end GameArchive
