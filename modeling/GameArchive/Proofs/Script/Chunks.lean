import GameArchive.Proofs.Text.Breaks
import GameArchive.Script.Chunks
import Mathlib.Data.List.Forall2

/-!
# Writes and lines

A write to a range with characters in it changes the chunks of the range and no others, and never
their number. If neither the range nor the text holds a line feed, every line feed of the source
keeps a chunk of its own, so the lines of the rendered text are those of the source, each read
between its old ends. A text that has been written stands in the rendered text until a later write
has its chunk within its range.
-/

namespace GameArchive
namespace Chunks

open Text (lineFeed breaks spans)

/-! ## Single chunks -/

theorem getElem?_clear (chunks : Chunks) (position count i : Nat) :
    (clear chunks position count)[i]? =
      if position ≤ i ∧ i < position + count then chunks[i]?.map fun _ => [] else chunks[i]? := by
  induction chunks, position, count using clear.induct generalizing i with
  | case1 position chunks =>
    have hnone : ¬(position ≤ i ∧ i < position + 0) := by omega
    rw [clear.eq_def, if_neg hnone]
  | case2 position count => simp [clear]
  | case3 count chunk chunks position hcount ih =>
    cases i with
    | zero => simp [clear]
    | succ i =>
      rw [clear, List.getElem?_cons_succ, List.getElem?_cons_succ, ih]
      · congr 1
        rw [eq_iff_iff]
        omega
      · exact hcount
  | case4 chunk chunks count ih =>
    cases i with
    | zero => simp [clear]
    | succ i =>
      rw [clear, List.getElem?_cons_succ, List.getElem?_cons_succ, ih]
      congr 1
      rw [eq_iff_iff]
      omega

/-- The first chunk of the range holds the text, the others nothing. -/
theorem getElem?_write (chunks : Chunks) {start stop : Nat} (text : Text) (h : start < stop)
    (i : Nat) :
    (chunks.write start stop text).1[i]? =
      if start ≤ i ∧ i < stop then chunks[i]?.map fun _ => if i = start then text else []
      else chunks[i]? := by
  rw [write, if_neg (Nat.not_le.mpr h)]
  rw [getElem?_clear, List.getElem?_set]
  by_cases hstart : start = i
  · subst hstart
    have hfirst : ¬(start + 1 ≤ start ∧ start < start + 1 + (stop - start - 1)) := by omega
    have hin : start ≤ start ∧ start < stop := ⟨Nat.le_refl start, h⟩
    rw [if_neg hfirst, if_pos rfl, if_pos hin]
    by_cases hlength : start < chunks.length
    · simp [hlength]
    · simp [hlength]
  · have hsame : (start + 1 ≤ i ∧ i < start + 1 + (stop - start - 1)) ↔ (start ≤ i ∧ i < stop) := by
      omega
    simp only [hsame, if_neg hstart, if_neg (Ne.symm hstart)]

theorem length_write (chunks : Chunks) {start stop : Nat} (text : Text) (h : start < stop) :
    (chunks.write start stop text).1.length = chunks.length := by
  apply Nat.le_antisymm
  · rw [← List.getElem?_eq_none_iff, getElem?_write chunks text h]
    simp
  · have hnone : (chunks.write start stop text).1[(chunks.write start stop text).1.length]? =
        none := List.getElem?_eq_none (Nat.le_refl _)
    rw [getElem?_write chunks text h] at hnone
    rw [← List.getElem?_eq_none_iff]
    split at hnone
    · exact Option.map_eq_none_iff.mp hnone
    · exact hnone

/-- What is read of a range is decided by the chunks in it. -/
theorem read_congr {chunks others : Chunks} {start stop : Nat}
    (h : ∀ i, start ≤ i → i < stop → chunks[i]? = others[i]?) :
    chunks.read start stop = others.read start stop := by
  unfold read
  congr 1
  apply List.ext_getElem?
  intro i
  rw [List.getElem?_take, List.getElem?_take, List.getElem?_drop, List.getElem?_drop]
  split
  · exact h (start + i) (by omega) (by omega)
  · rfl

theorem read_append (chunks : Chunks) {start middle stop : Nat} (hstart : start ≤ middle)
    (hstop : middle ≤ stop) :
    chunks.read start stop = chunks.read start middle ++ chunks.read middle stop := by
  have hdrop : chunks.drop middle = (chunks.drop start).drop (middle - start) := by
    rw [List.drop_drop, Nat.add_sub_cancel' hstart]
  have hlength : stop - start = (middle - start) + (stop - middle) := by omega
  rw [read, read, read, hdrop, hlength, List.take_add, List.flatten_append]

theorem read_cons (chunk : Text) (chunks : Chunks) (start stop : Nat) :
    read (chunk :: chunks) (start + 1) (stop + 1) = read chunks start stop := by
  rw [read, read, List.drop_succ_cons, Nat.add_sub_add_right]

theorem read_cons_zero (chunk : Text) (chunks : Chunks) (stop : Nat) :
    read (chunk :: chunks) 0 (stop + 1) = chunk ++ read chunks 0 stop := by
  simp [read]

theorem render_ofText (source : Text) : render (ofText source) = source := by
  induction source with
  | nil => rfl
  | cons c source ih => exact congrArg (c :: ·) ih

theorem read_ofText (source : Text) (start stop : Nat) :
    read (ofText source) start stop = (source.drop start).take (stop - start) := by
  rw [read, ofText, ← List.map_drop, ← List.map_take]
  exact render_ofText _

/-! ## Lines -/

/-- The chunk of a line feed is the line feed itself, and no other chunk holds one. -/
def Fits (c : CodePoint) (chunk : Text) : Prop :=
  if c = lineFeed then chunk = [lineFeed] else lineFeed ∉ chunk

/-- Each character of the source has a chunk that fits it. -/
def Aligned (source : Text) (chunks : Chunks) : Prop := List.Forall₂ Fits source chunks

theorem aligned_ofText (source : Text) : Aligned source (ofText source) := by
  unfold Aligned ofText
  induction source with
  | nil => exact .nil
  | cons c source ih =>
    refine .cons ?_ ih
    unfold Fits
    split
    · rename_i hc
      rw [hc]
    · rename_i hc
      rw [List.mem_singleton]
      exact Ne.symm hc

/-- The invariant is kept by every write within a line. -/
theorem Aligned.write {source : Text} {chunks : Chunks} (h : Aligned source chunks)
    {start stop : Nat} {text : Text} (hlt : start < stop)
    (hrange : lineFeed ∉ (source.drop start).take (stop - start)) (htext : lineFeed ∉ text) :
    Aligned source (chunks.write start stop text).1 := by
  obtain ⟨hlength, hfits⟩ := List.forall₂_iff_get.mp h
  refine List.forall₂_iff_get.mpr ⟨by rw [length_write chunks text hlt, hlength], ?_⟩
  intro i hsource hchunk
  have hold : i < chunks.length := by rwa [length_write chunks text hlt] at hchunk
  have hget := getElem?_write chunks text hlt i
  rw [List.getElem?_eq_getElem hchunk, List.getElem?_eq_getElem hold] at hget
  by_cases hin : start ≤ i ∧ i < stop
  · have hc : source[i] ≠ lineFeed := by
      intro hc
      apply hrange
      rw [← hc]
      apply List.mem_iff_getElem?.mpr
      refine ⟨i - start, ?_⟩
      have hi : start + (i - start) = i := by omega
      rw [List.getElem?_take, if_pos (by omega), List.getElem?_drop, hi,
        List.getElem?_eq_getElem hsource]
    rw [if_pos hin, Option.map_some, Option.some.injEq] at hget
    simp only [List.get_eq_getElem, hget, Fits, if_neg hc]
    split
    · exact htext
    · exact List.not_mem_nil
  · rw [if_neg hin, Option.some.injEq] at hget
    simp only [List.get_eq_getElem, hget]
    exact hfits i hsource hold

theorem read_map_succ (chunk : Text) (chunks : Chunks) (ends : List (Nat × Nat)) :
    (ends.map fun s => (s.1 + 1, s.2 + 1)).map (fun s => read (chunk :: chunks) s.1 s.2) =
      ends.map fun s => read chunks s.1 s.2 := by
  rw [List.map_map]
  apply List.map_congr_left
  intro s _
  exact read_cons chunk chunks s.1 s.2

/-- The lines of the rendered text, read between the ends of the lines of the source. -/
theorem Aligned.breaks_render {source : Text} {chunks : Chunks} (h : Aligned source chunks) :
    breaks (render chunks) = (spans source).map fun s => chunks.read s.1 s.2 := by
  induction h with
  | nil => rfl
  | @cons c chunk source chunks hfits _ ih =>
    rw [render, List.flatten_cons, ← render]
    by_cases hc : c = lineFeed
    · subst hc
      have hchunk : chunk = [lineFeed] := by simpa [Fits] using hfits
      rw [hchunk, List.singleton_append, Text.breaks_lineFeed, ih, spans, spans,
        Text.breaks_lineFeed, Text.spansFrom, Text.spansFrom_succ, List.map_cons, read_map_succ]
      rfl
    · have hchunk : lineFeed ∉ chunk := by simpa [Fits, hc] using hfits
      have hc' : lineFeed ∉ [c] := by
        rw [List.mem_singleton]
        exact Ne.symm hc
      have hsource : breaks (c :: source) = (breaks source).modifyHead ([c] ++ ·) :=
        Text.breaks_append hc' source
      obtain ⟨line, lines, hlines⟩ := List.exists_cons_of_ne_nil (Text.breaks_ne_nil source)
      have hlength : ([c] ++ line).length = line.length + 1 := by simp
      rw [Text.breaks_append hchunk, ih, spans, spans, hsource, hlines, List.modifyHead_cons]
      simp only [Text.spansFrom, List.map_cons, List.modifyHead_cons, Nat.zero_add, hlength]
      rw [Text.spansFrom_succ (line.length + 1), read_map_succ, read_cons_zero]

theorem breaks_eq_slices (t : Text) :
    breaks t = (spans t).map fun s => (t.drop s.1).take (s.2 - s.1) := by
  have h := (aligned_ofText t).breaks_render
  simpa only [render_ofText, read_ofText] using h

/-! ## Texts in their chunks -/

/-- The text stands in the chunk at a position, perhaps with more around it. -/
def Holds (chunks : Chunks) (position : Nat) (text : Text) : Prop :=
  ∃ chunk, chunks[position]? = some chunk ∧ text <:+: chunk

theorem Holds.infix_render {chunks : Chunks} {position : Nat} {text : Text}
    (h : chunks.Holds position text) : text <:+: chunks.render := by
  obtain ⟨chunk, hchunk, htext⟩ := h
  obtain ⟨before, after, hchunks⟩ := List.append_of_mem (List.mem_of_getElem? hchunk)
  refine htext.trans ⟨before.flatten, after.flatten, ?_⟩
  simp [render, hchunks]

theorem getElem?_insert (chunks : Chunks) (position : Nat) (text : Text) (i : Nat) :
    (insert chunks position text)[i]? =
      if position < chunks.length then
        chunks[i]?.map fun chunk => if i = position then text ++ chunk else chunk
      else if i = chunks.length then some text else chunks[i]? := by
  unfold insert
  split
  · rw [List.getElem?_modify]
    congr 1
    funext chunk
    simp [eq_comm]
  · rw [List.getElem?_append, List.getElem?_singleton]
    grind

theorem length_le_length_write (chunks : Chunks) (start stop : Nat) (text : Text) :
    chunks.length ≤ (chunks.write start stop text).1.length := by
  by_cases h : stop ≤ start
  · rw [write, if_pos h, insert]
    split <;> simp
  · exact Nat.le_of_eq (length_write chunks text (Nat.not_le.mp h)).symm

/-- A write that has no place for the text in its range puts the text at its beginning. -/
theorem holds_write {chunks : Chunks} {start stop : Nat} (text : Text)
    (hstart : start ≤ chunks.length) (hstop : stop ≤ chunks.length) :
    (chunks.write start stop text).1.Holds start text := by
  by_cases h : stop ≤ start
  · rw [write, if_pos h]
    by_cases hlt : start < chunks.length
    · refine ⟨text ++ chunks[start], ?_, (List.prefix_append _ _).isInfix⟩
      rw [getElem?_insert, if_pos hlt, List.getElem?_eq_getElem hlt, Option.map_some, if_pos rfl]
    · refine ⟨text, ?_, List.infix_rfl⟩
      rw [getElem?_insert, if_neg hlt, if_pos (by omega)]
  · have hlt : start < chunks.length := by omega
    refine ⟨text, ?_, List.infix_rfl⟩
    rw [getElem?_write chunks text (Nat.not_le.mp h), if_pos ⟨Nat.le_refl start, by omega⟩,
      List.getElem?_eq_getElem hlt, Option.map_some, if_pos rfl]

/-- A write to another range leaves a text in its chunk, at most with more before it. -/
theorem Holds.write {chunks : Chunks} {position : Nat} {text : Text}
    (h : chunks.Holds position text) {start stop : Nat} (other : Text)
    (hapart : ¬(start ≤ position ∧ position < stop)) :
    (chunks.write start stop other).1.Holds position text := by
  obtain ⟨chunk, hchunk, htext⟩ := h
  by_cases hempty : stop ≤ start
  · have hlt : position < chunks.length := (List.getElem?_eq_some_iff.mp hchunk).1
    rw [Chunks.write, if_pos hempty]
    unfold Holds
    rw [getElem?_insert, hchunk, Option.map_some]
    split
    · refine ⟨_, rfl, ?_⟩
      split
      · exact htext.trans (List.suffix_append _ _).isInfix
      · exact htext
    · rw [if_neg (Nat.ne_of_lt hlt)]
      exact ⟨chunk, rfl, htext⟩
  · refine ⟨chunk, ?_, htext⟩
    rw [getElem?_write chunks other (Nat.not_le.mp hempty), if_neg hapart, hchunk]

end Chunks
end GameArchive
