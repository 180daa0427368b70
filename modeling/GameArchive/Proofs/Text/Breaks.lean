import GameArchive.Text.Lines

/-!
# Pieces between line feeds

Cutting a text at a character and joining texts with a text between each two are the operations of
lists of these names, so their laws hold here: the pieces of a text join back to it, and pieces that
do not hold the separator are found again in what they are joined to.
-/

namespace GameArchive
namespace Text

theorem split_eq_splitOn (separator : CodePoint) (t : Text) :
    split separator t = t.splitOn separator := by
  induction t with
  | nil => rfl
  | cons c rest ih =>
    rw [List.splitOn_cons_eq_if_modifyHead, ← ih]
    simp only [split, beq_iff_eq]
    split
    · rfl
    · cases h : split separator rest with
      | nil => exact absurd h (split_ne_nil separator rest)
      | cons piece pieces => rfl

theorem join_eq_intercalate (separator : Text) (pieces : List Text) :
    join separator pieces = separator.intercalate pieces := by
  induction pieces with
  | nil => rfl
  | cons piece pieces ih =>
    cases pieces with
    | nil => simp [join]
    | cons second pieces => simp [join, ih]

theorem mem_join {separator : Text} {pieces : List Text} {c : CodePoint}
    (h : c ∈ join separator pieces) : c ∈ separator ∨ ∃ piece ∈ pieces, c ∈ piece := by
  induction pieces with
  | nil => contradiction
  | cons piece pieces ih =>
    cases pieces with
    | nil => exact .inr ⟨piece, List.mem_cons_self, h⟩
    | cons second pieces =>
      rw [join, List.mem_append, List.mem_append] at h
      · rcases h with (h | h) | h
        · exact .inr ⟨piece, List.mem_cons_self, h⟩
        · exact .inl h
        · rcases ih h with h | ⟨other, hother, h⟩
          · exact .inl h
          · exact .inr ⟨other, List.mem_cons_of_mem _ hother, h⟩
      · simp

theorem not_mem_of_mem_split {separator : CodePoint} {t piece : Text}
    (h : piece ∈ split separator t) : separator ∉ piece := by
  induction t generalizing piece with
  | nil =>
    rw [split_nil, List.mem_singleton] at h
    simp [h]
  | cons c rest ih =>
    rw [split_eq_splitOn, List.splitOn_cons_eq_if_modifyHead, ← split_eq_splitOn] at h
    split at h
    · rcases List.mem_cons.mp h with rfl | h
      · simp
      · exact ih h
    · rename_i hc
      cases hs : split separator rest with
      | nil => simp [hs] at h
      | cons first pieces =>
        rw [hs, List.modifyHead_cons] at h
        rcases List.mem_cons.mp h with rfl | h
        · have hfirst : separator ∉ first := ih (hs ▸ List.mem_cons_self)
          simp only [List.mem_cons, not_or]
          exact ⟨fun e => hc (beq_iff_eq.mpr e.symm), hfirst⟩
        · exact ih (hs ▸ List.mem_cons_of_mem _ h)

/-! ## Line feeds -/

/-- The character between two breaks. -/
def lineFeed : CodePoint := '\n'

theorem lineFeed_text : (ofString "\n") = [lineFeed] := by decide

theorem join_lineFeed (piece second : Text) (pieces : List Text) :
    join "\n" (piece :: second :: pieces) =
      piece ++ lineFeed :: join "\n" (second :: pieces) := by
  rw [join, lineFeed_text, List.append_assoc]
  · rfl
  · simp

theorem breaks_eq_splitOn (t : Text) : breaks t = t.splitOn lineFeed := split_eq_splitOn _ t

theorem breaks_ne_nil (t : Text) : breaks t ≠ [] := split_ne_nil _ t

theorem not_mem_of_mem_breaks {t line : Text} (h : line ∈ breaks t) : lineFeed ∉ line :=
  not_mem_of_mem_split h

@[simp] theorem join_breaks (t : Text) : join "\n" (breaks t) = t := by
  rw [join_eq_intercalate, lineFeed_text, breaks_eq_splitOn, List.intercalate_splitOn]

theorem breaks_join {lines : List Text} (hne : lines ≠ []) (h : ∀ line ∈ lines, lineFeed ∉ line) :
    breaks (join "\n" lines) = lines := by
  rw [join_eq_intercalate, lineFeed_text, breaks_eq_splitOn, List.splitOn_intercalate _ h hne]

theorem breaks_lineFeed (t : Text) : breaks (lineFeed :: t) = [] :: breaks t := by
  rw [breaks_eq_splitOn, List.splitOn_cons_eq_if_modifyHead, if_pos (by simp), ← breaks_eq_splitOn]

/-- What stands before the first line feed goes before the first line. -/
theorem breaks_append {start : Text} (h : lineFeed ∉ start) (t : Text) :
    breaks (start ++ t) = (breaks t).modifyHead (start ++ ·) := by
  induction start with
  | nil => cases ht : breaks t <;> simp [ht]
  | cons c start ih =>
    rw [List.mem_cons, not_or] at h
    have hc : (c == lineFeed) = false := beq_false_of_ne (Ne.symm h.1)
    rw [List.cons_append, breaks_eq_splitOn, List.splitOn_cons_eq_if_modifyHead, hc,
      ← breaks_eq_splitOn, ih h.2]
    cases ht : breaks t <;> simp

/-- A change of single lines that brings in no line feed changes them in place. -/
theorem breaks_join_map (t : Text) {f : Text → Text}
    (h : ∀ line, lineFeed ∉ line → lineFeed ∉ f line) :
    breaks (join "\n" ((breaks t).map f)) = (breaks t).map f := by
  apply breaks_join
  · simpa using breaks_ne_nil t
  · intro line hline
    obtain ⟨source, hsource, rfl⟩ := List.mem_map.mp hline
    exact h source (not_mem_of_mem_breaks hsource)

/-! ## Where lines stand -/

/-- The ends of lines with one character between each two, the first of which starts at a given
place. -/
def spansFrom : Nat → List Text → List (Nat × Nat)
  | _, [] => []
  | start, line :: lines =>
    (start, start + line.length) :: spansFrom (start + line.length + 1) lines

/-- Where the lines of a text start and stop. -/
def spans (t : Text) : List (Nat × Nat) := spansFrom 0 (breaks t)

theorem spansFrom_succ (start : Nat) (lines : List Text) :
    spansFrom (start + 1) lines = (spansFrom start lines).map fun s => (s.1 + 1, s.2 + 1) := by
  induction lines generalizing start with
  | nil => rfl
  | cons line lines ih =>
    have hline : start + 1 + line.length = start + line.length + 1 := by omega
    simp [spansFrom, hline, ih]

theorem length_spansFrom (start : Nat) (lines : List Text) :
    (spansFrom start lines).length = lines.length := by
  induction lines generalizing start with
  | nil => rfl
  | cons line lines ih => simp [spansFrom, ih]

theorem length_spans (t : Text) : (spans t).length = (breaks t).length := length_spansFrom 0 _

end Text
end GameArchive
