import GameArchive.Proofs.Json.RoundTrip

/-!
# Values without surrogates

Numbers and the signs between values are written with characters of ASCII, so the text of a value
can be encoded exactly if no text and no name in it holds a surrogate.
-/

namespace GameArchive

open Utf8

theorem CodePoint.isSurrogate_of_isDigit {c : CodePoint} (h : c.isDigit = true) :
    c.isSurrogate = false := by
  simp only [CodePoint.isDigit, CodePoint.between, Bool.and_eq_true, decide_eq_true_eq] at h
  have hnine : ('9' : Char).val.toNat = 0x39 := rfl
  simp only [CodePoint.isSurrogate, Bool.and_eq_false_iff, decide_eq_false_iff_not]
  omega

theorem Binary64.isEncodable_write (style : Notation) (x : Binary64) :
    IsEncodable (write style x) :=
  Notation.Allows.write ⟨fun _ => CodePoint.isSurrogate_of_isDigit, isEncodable_ofString _,
    isEncodable_ofString _, isEncodable_ofString _, isEncodable_ofString _⟩ x

namespace Json

/-- No surrogate is in a text or in a name of a member. -/
def HoldsNoSurrogate : Json → Prop
  | string t => IsEncodable t
  | object members => ∀ name ∈ Members.names members, IsEncodable name
  | _ => True

/-- The line breaks of a layout and what stands after a name can be encoded. -/
structure Layout.IsEncodable (layout : Layout) : Prop where
  lineBreak : ∀ depth, Utf8.IsEncodable (layout.lineBreak depth)
  colon : Utf8.IsEncodable layout.colon

theorem Layout.IsBlank.isEncodable {layout : Layout} (h : layout.IsBlank) : layout.IsEncodable := by
  have hspace : ∀ c, Reader.isSpace c = true → c.isSurrogate = false := by
    intro c hc
    simp only [Reader.isSpace, Bool.or_eq_true, decide_eq_true_eq] at hc
    rcases hc with ((rfl | rfl) | rfl) | rfl <;> exact isSurrogate_ofChar _
  obtain ⟨blank, hcolon, hblank⟩ := h.colon
  refine ⟨fun depth c hc => hspace c (h.lineBreak depth c hc), ?_⟩
  rw [hcolon, isEncodable_cons]
  exact ⟨isSurrogate_ofChar _, fun c hc => hspace c (hblank c hc)⟩

variable {layout : Layout}

theorem isEncodable_writeItems (hlayout : layout.IsEncodable) (depth : Nat) (items : List Json) :
    IsEncodable (writeItems layout depth items) ↔
      ∀ v ∈ items, IsEncodable (write layout depth v) := by
  induction items with
  | nil => simp [writeItems]
  | cons item items ih => simp [writeItems, hlayout.lineBreak, ih]

theorem isEncodable_writeMembers (hlayout : layout.IsEncodable) (depth : Nat) (members : Members) :
    IsEncodable (writeMembers layout depth members) ↔
      ∀ entry ∈ members, IsEncodable entry.1 ∧ IsEncodable (write layout depth entry.2) := by
  induction members with
  | nil => simp [writeMembers]
  | cons entry members ih =>
    obtain ⟨name, v⟩ := entry
    simp [writeMembers, hlayout.lineBreak, hlayout.colon, isEncodable_quote, ih, and_assoc]

/-- The text of a value can be encoded if no surrogate is in it, and only then. -/
theorem isEncodable_write (hlayout : layout.IsEncodable) {j : Json} {depth : Nat} :
    IsEncodable (write layout depth j) ↔ Everywhere HoldsNoSurrogate j := by
  induction j using Json.induction generalizing depth with
  | null => simp [write, everywhere_of_scalar, HoldsNoSurrogate]
  | bool b => cases b <;> simp [write, everywhere_of_scalar, HoldsNoSurrogate]
  | int n =>
    cases n <;> simp [write, Text.ofInt, everywhere_of_scalar, HoldsNoSurrogate, isSurrogate_ofChar]
  | float x =>
    simp [write, everywhere_of_scalar, HoldsNoSurrogate, Binary64.isEncodable_write]
  | string t => simp [write, everywhere_of_scalar, HoldsNoSurrogate, isEncodable_quote]
  | array items ih =>
    rw [everywhere_array]
    cases items with
    | nil => simp [write, HoldsNoSurrogate]
    | cons item items =>
      have hitems : ∀ v ∈ item :: items,
          (IsEncodable (write layout (depth + 1) v) ↔ Everywhere HoldsNoSurrogate v) :=
        fun v hv => ih v hv
      rw [← forall₂_congr hitems]
      simp [write, hlayout.lineBreak, isEncodable_writeItems hlayout, HoldsNoSurrogate]
  | object members ih =>
    rw [everywhere_object]
    cases members with
    | nil => simp [write, HoldsNoSurrogate, Members.names]
    | cons entry members =>
      obtain ⟨name, v⟩ := entry
      have hmembers : ∀ entry ∈ (name, v) :: members,
          (IsEncodable (write layout (depth + 1) entry.2) ↔ Everywhere HoldsNoSurrogate entry.2) :=
        fun entry hentry => ih entry hentry
      rw [← forall₂_congr hmembers]
      simp only [write, isEncodable_append, isEncodable_ofString, hlayout.lineBreak, hlayout.colon,
        isEncodable_quote, isEncodable_writeMembers hlayout, HoldsNoSurrogate, Members.names,
        List.map_cons, List.forall_mem_cons, List.forall_mem_map, forall₂_and, true_and, and_true]
      exact and_and_and_comm.trans (by simp only [and_assoc])

end Json
end GameArchive
