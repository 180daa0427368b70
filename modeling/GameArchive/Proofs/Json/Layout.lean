import GameArchive.Proofs.Json.Encodable

/-!
# The text of a value and its layout

Control characters in texts and names are escaped, so a value that is written on one line holds none.
The text that files hold is this line with the line breaks of the layout put in.
-/

namespace GameArchive

/-- No control character is in the text. In JSON these are the code points before the space. -/
def Text.HoldsNoControl (t : Text) : Prop := ∀ c ∈ t, 0x20 ≤ c.val

namespace Text

@[simp] theorem holdsNoControl_nil : HoldsNoControl [] := fun _ h => absurd h List.not_mem_nil

@[simp] theorem holdsNoControl_cons {c : CodePoint} {t : Text} :
    HoldsNoControl (c :: t) ↔ 0x20 ≤ c.val ∧ HoldsNoControl t := List.forall_mem_cons

@[simp] theorem holdsNoControl_append {s t : Text} :
    HoldsNoControl (s ++ t) ↔ HoldsNoControl s ∧ HoldsNoControl t := List.forall_mem_append

instance (t : Text) : Decidable (HoldsNoControl t) :=
  inferInstanceAs (Decidable (∀ c ∈ t, 0x20 ≤ c.val))

theorem holdsNoControl_ofNat (n : Nat) : HoldsNoControl (ofNat n) := by
  intro c hc
  have hdigit := isDigit_of_mem_ofNat hc
  simp only [CodePoint.isDigit, CodePoint.between, Bool.and_eq_true, decide_eq_true_eq] at hdigit
  exact Nat.le_trans (by decide) hdigit.1

theorem holdsNoControl_ofHex (width n : Nat) : HoldsNoControl (ofHex width n) := by
  have hdigits : ∀ n < 16, 0x20 ≤ (CodePoint.ofHexValue n).val := by decide +kernel
  induction width generalizing n with
  | zero => exact holdsNoControl_nil
  | succ width ih =>
    rw [ofHex, holdsNoControl_append, holdsNoControl_cons]
    exact ⟨ih (n / 16), hdigits _ (Nat.mod_lt n (by decide)), holdsNoControl_nil⟩

end Text

open Text (HoldsNoControl)

theorem Binary64.holdsNoControl_write (x : Binary64) : HoldsNoControl (write json x) := by
  refine Notation.Allows.write ⟨fun c hc => ?_, ?_, ?_, ?_, ?_⟩ x
  · simp only [CodePoint.isDigit, CodePoint.between, Bool.and_eq_true, decide_eq_true_eq] at hc
    exact Nat.le_trans (by decide) hc.1
  all_goals decide

namespace Json

theorem holdsNoControl_shortEscape {c : CodePoint} {letter : Char}
    (h : shortEscape? c = some letter) :
    HoldsNoControl [CodePoint.ofChar '\\', CodePoint.ofChar letter] := by
  unfold shortEscape? at h
  repeat
    split at h
    · cases h
      decide
  cases h

theorem holdsNoControl_escapeChar (c : CodePoint) : HoldsNoControl (escapeChar c) := by
  unfold escapeChar
  split
  · next letter hletter => exact holdsNoControl_shortEscape hletter
  · split
    · exact Text.holdsNoControl_append.mpr ⟨by decide, Text.holdsNoControl_ofHex 4 c.val⟩
    · next hc => simpa using hc

theorem holdsNoControl_quote (t : Text) : HoldsNoControl (quote t) := by
  have hescaped : HoldsNoControl (t.flatMap escapeChar) := by
    intro c hc
    obtain ⟨d, -, hd⟩ := List.mem_flatMap.mp hc
    exact holdsNoControl_escapeChar d c hd
  rw [quote, Text.holdsNoControl_append, Text.holdsNoControl_append]
  exact ⟨⟨by decide, hescaped⟩, by decide⟩

/-! ## One line -/

/-- The same as the layout of files, but without line breaks. -/
def lineLayout : Layout := ⟨fun _ => [], indentedLayout.colon⟩

/-- The value on one line. -/
def line (value : Json) : Text := write lineLayout 0 value

/-- A layout that breaks no lines, and puts no control character behind a name. -/
structure Layout.IsOneLine (layout : Layout) : Prop where
  lineBreak : ∀ depth, layout.lineBreak depth = []
  colon : HoldsNoControl layout.colon

theorem isOneLine_lineLayout : lineLayout.IsOneLine := ⟨fun _ => rfl, by decide⟩

theorem isOneLine_compactLayout : compactLayout.IsOneLine := ⟨fun _ => rfl, by decide⟩

/-- The signs around and between values. -/
theorem holdsNoControl_sign {sign : String} (h : sign ∈ ["[", "]", "\x7b", "\x7d", ","]) :
    HoldsNoControl (Text.ofString sign) := by
  revert sign
  decide

section OneLine

variable {layout : Layout}

theorem holdsNoControl_writeItems (hlayout : layout.IsOneLine) {items : List Json} {depth : Nat}
    (h : ∀ v ∈ items, HoldsNoControl (write layout depth v)) :
    HoldsNoControl (writeItems layout depth items) := by
  induction items with
  | nil => exact Text.holdsNoControl_nil
  | cons item items ih =>
    rw [List.forall_mem_cons] at h
    simp [writeItems, hlayout.lineBreak, holdsNoControl_sign, h.1, ih h.2]

theorem holdsNoControl_writeMembers (hlayout : layout.IsOneLine) {members : Members} {depth : Nat}
    (h : ∀ entry ∈ members, HoldsNoControl (write layout depth entry.2)) :
    HoldsNoControl (writeMembers layout depth members) := by
  induction members with
  | nil => exact Text.holdsNoControl_nil
  | cons entry members ih =>
    rw [List.forall_mem_cons] at h
    simp [writeMembers, hlayout.lineBreak, hlayout.colon, holdsNoControl_sign,
      holdsNoControl_quote, h.1, ih h.2]

theorem holdsNoControl_write (hlayout : layout.IsOneLine) (j : Json) (depth : Nat) :
    HoldsNoControl (write layout depth j) := by
  induction j using Json.induction generalizing depth with
  | null => exact (by decide : HoldsNoControl (Text.ofString "null"))
  | bool b =>
    cases b with
    | false => exact (by decide : HoldsNoControl (Text.ofString "false"))
    | true => exact (by decide : HoldsNoControl (Text.ofString "true"))
  | int n =>
    cases n with
    | ofNat n => exact Text.holdsNoControl_ofNat n
    | negSucc n => exact Text.holdsNoControl_cons.mpr ⟨by decide, Text.holdsNoControl_ofNat (n + 1)⟩
  | float x => exact Binary64.holdsNoControl_write x
  | string t => exact holdsNoControl_quote t
  | array items ih =>
    cases items with
    | nil => exact (by decide : HoldsNoControl (Text.ofString "[]"))
    | cons item items =>
      rw [List.forall_mem_cons] at ih
      have hitems := holdsNoControl_writeItems hlayout fun v hv => ih.2 v hv (depth + 1)
      simp [write, hlayout.lineBreak, holdsNoControl_sign, ih.1, hitems]
  | object members ih =>
    cases members with
    | nil => exact (by decide : HoldsNoControl (Text.ofString "\x7b\x7d"))
    | cons entry members =>
      rw [List.forall_mem_cons] at ih
      have hmembers :=
        holdsNoControl_writeMembers hlayout fun entry hentry => ih.2 entry hentry (depth + 1)
      simp [write, hlayout.lineBreak, hlayout.colon, holdsNoControl_sign,
        holdsNoControl_quote, ih.1, hmembers]

end OneLine

/-! ## Line breaks -/

/-- The first text is the second one with line breaks of the layout put in. -/
inductive Broken (layout : Layout) : Text → Text → Prop where
  | nil : Broken layout [] []
  | char {s t : Text} (c : CodePoint) : Broken layout s t → Broken layout (c :: s) (c :: t)
  | lineBreak {s t : Text} (depth : Nat) : Broken layout s t →
      Broken layout (layout.lineBreak depth ++ s) t

namespace Broken

variable {layout : Layout} {s t s' t' : Text}

theorem refl (t : Text) : Broken layout t t := by
  induction t with
  | nil => exact .nil
  | cons c t ih => exact .char c ih

theorem append (h : Broken layout s t) (h' : Broken layout s' t') :
    Broken layout (s ++ s') (t ++ t') := by
  induction h with
  | nil => exact h'
  | char c _ ih => exact .char c ih
  | lineBreak depth _ ih =>
    rw [List.append_assoc]
    exact .lineBreak depth ih

/-- A line break alone. -/
theorem alone (layout : Layout) (depth : Nat) : Broken layout (layout.lineBreak depth) [] := by
  have hbreak : Broken layout (layout.lineBreak depth ++ []) [] := .lineBreak depth .nil
  rwa [List.append_nil] at hbreak

end Broken

/-- Where the layout of one line puts nothing, the layout of files breaks the line. -/
theorem broken_writeItems {items : List Json} {depth : Nat}
    (h : ∀ v ∈ items, Broken indentedLayout (write indentedLayout depth v) (write lineLayout depth v)) :
    Broken indentedLayout (writeItems indentedLayout depth items)
      (writeItems lineLayout depth items) := by
  induction items with
  | nil => exact .nil
  | cons item items ih =>
    rw [List.forall_mem_cons] at h
    exact (((Broken.refl _).append (.alone _ depth)).append h.1).append (ih h.2)

theorem broken_writeMembers {members : Members} {depth : Nat}
    (h : ∀ entry ∈ members,
      Broken indentedLayout (write indentedLayout depth entry.2) (write lineLayout depth entry.2)) :
    Broken indentedLayout (writeMembers indentedLayout depth members)
      (writeMembers lineLayout depth members) := by
  induction members with
  | nil => exact .nil
  | cons entry members ih =>
    rw [List.forall_mem_cons] at h
    exact (((((Broken.refl _).append (.alone _ depth)).append (.refl _)).append (.refl _)).append
      h.1).append (ih h.2)

theorem broken_write (j : Json) (depth : Nat) :
    Broken indentedLayout (write indentedLayout depth j) (write lineLayout depth j) := by
  induction j using Json.induction generalizing depth with
  | null => exact .refl _
  | bool b => exact .refl _
  | int n => exact .refl _
  | float x => exact .refl _
  | string t => exact .refl _
  | array items ih =>
    cases items with
    | nil => exact .refl _
    | cons item items =>
      rw [List.forall_mem_cons] at ih
      have hitems := broken_writeItems fun v hv => ih.2 v hv (depth + 1)
      exact (((((Broken.refl _).append (.alone _ (depth + 1))).append (ih.1 (depth + 1))).append
        hitems).append (.alone _ depth)).append (.refl _)
  | object members ih =>
    cases members with
    | nil => exact .refl _
    | cons entry members =>
      rw [List.forall_mem_cons] at ih
      have hmembers := broken_writeMembers fun entry hentry => ih.2 entry hentry (depth + 1)
      exact (((((((Broken.refl _).append (.alone _ (depth + 1))).append (.refl _)).append
        (.refl _)).append (ih.1 (depth + 1))).append hmembers).append (.alone _ depth)).append
        (.refl _)

/-- What files hold is the line of the value with line breaks put in. -/
theorem broken_indented (j : Json) : Broken indentedLayout j.indented j.line := broken_write j 0

/-- A control character is part of a line break. -/
theorem Broken.mem_of_control {s t : Text} (h : Broken indentedLayout s t) (ht : HoldsNoControl t)
    {c : CodePoint} (hc : c ∈ s) (hcontrol : c.val < 0x20) :
    c = CodePoint.ofChar '\n' ∨ c = CodePoint.ofChar '\t' := by
  induction h with
  | nil => simp at hc
  | char d _ ih =>
    obtain ⟨hd, ht⟩ := Text.holdsNoControl_cons.mp ht
    rcases List.mem_cons.mp hc with rfl | hc
    · omega
    · exact ih ht hc
  | lineBreak depth _ ih =>
    rcases List.mem_append.mp hc with hc | hc
    · rcases List.mem_append.mp hc with hc | hc
      · exact .inl (List.mem_singleton.mp hc)
      · exact .inr (List.eq_of_mem_replicate hc)
    · exact ih ht hc

end Json
end GameArchive
