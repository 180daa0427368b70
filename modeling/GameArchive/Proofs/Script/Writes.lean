import GameArchive.Proofs.Script.Chunks

/-!
# Any order of writes

Writes to ranges of the source come in any order, and their ranges may overlap, nest or have no
length. A position of the source keeps its chunk, and chunks that no write touches keep their
character. What is written at the end of the source stands behind all chunks of the source, the
latest text first.
-/

namespace GameArchive
namespace Chunks

/-- A text and the range that it is written to. -/
structure Write where
  start : Nat
  stop : Nat
  text : Text

namespace Write

/-- The range lies in the source. It may have no length. -/
def InSource (source : Text) (w : Write) : Prop := w.start ≤ w.stop ∧ w.stop ≤ source.length

/-- The position is in the range, or a range without length inserts before it. -/
def Touches (w : Write) (position : Nat) : Prop :=
  if w.start < w.stop then w.start ≤ position ∧ position < w.stop else position = w.start

/-- The range is the end of the source. -/
def AtEnd (source : Text) (w : Write) : Prop := w.start = source.length ∧ w.stop = source.length

instance (source : Text) (w : Write) : Decidable (w.InSource source) :=
  inferInstanceAs (Decidable (_ ∧ _))

instance (w : Write) (position : Nat) : Decidable (w.Touches position) :=
  inferInstanceAs (Decidable (ite _ _ _))

instance (source : Text) (w : Write) : Decidable (w.AtEnd source) :=
  inferInstanceAs (Decidable (_ ∧ _))

end Write

/-- Writes one after another, unless a range reaches past the chunks. -/
def run? (chunks : Chunks) : List Write → Option Chunks
  | [] => some chunks
  | w :: writes =>
    match chunks.write w.start w.stop w.text with
    | (after, true) => run? after writes
    | (_, false) => none

/-- The texts that are written at the end of the source, the latest first. -/
def appended (source : Text) (writes : List Write) : List Text :=
  ((writes.filter (·.AtEnd source)).map (·.text)).reverse

variable {source : Text} {chunks : Chunks} {earlier writes : List Write} {w : Write}

/-! ## One write -/

theorem getElem?_write_of_not_touches {i : Nat} (h : ¬w.Touches i)
    (hchunk : w.start < chunks.length ∨ i < chunks.length) :
    (chunks.write w.start w.stop w.text).1[i]? = chunks[i]? := by
  unfold Write.Touches at h
  split at h
  · next hlt => rw [getElem?_write chunks w.text hlt, if_neg h]
  · next hempty =>
    rw [write, if_pos (Nat.not_lt.mp hempty), getElem?_insert]
    split
    · exact Option.map_id'
    · rw [if_neg (by omega)]

/-- A write that begins before a position leaves what is behind the position as it is, if it ends
there at the latest. -/
theorem drop_write {position : Nat} (hstart : w.start < position) (hstop : w.stop ≤ position)
    (hposition : position ≤ chunks.length) :
    (chunks.write w.start w.stop w.text).1.drop position = chunks.drop position := by
  apply List.ext_getElem?
  intro i
  rw [List.getElem?_drop, List.getElem?_drop]
  apply getElem?_write_of_not_touches
  · unfold Write.Touches
    split <;> omega
  · exact .inl (by omega)

/-- A text that is inserted before a position comes first of what is behind the position. -/
theorem flatten_drop_write {position : Nat} (text : Text) (hposition : position ≤ chunks.length) :
    ((chunks.write position position text).1.drop position).flatten =
      text ++ (chunks.drop position).flatten := by
  rw [write, if_pos (Nat.le_refl position)]
  dsimp only
  rw [insert]
  split
  · next hlt =>
    rw [List.drop_modify_of_ge _ _ _ _ (Nat.le_refl position), Nat.sub_self,
      List.drop_eq_getElem_cons hlt, List.modify_zero_cons, List.flatten_cons, List.flatten_cons,
      List.append_assoc]
  · next hge =>
    obtain rfl : position = chunks.length := by omega
    simp

/-- What writes to a source leave of it, and what they put behind it. -/
structure Keeps (source : Text) (writes : List Write) (chunks : Chunks) : Prop where
  length : source.length ≤ chunks.length
  untouched : ∀ i < source.length, (∀ w ∈ writes, ¬w.Touches i) →
    chunks[i]? = (ofText source)[i]?
  behind : (chunks.drop source.length).flatten = (appended source writes).flatten

theorem keeps_ofText (source : Text) : Keeps source [] (ofText source) where
  length := by simp [ofText]
  untouched _ _ _ := rfl
  behind := by
    rw [List.drop_of_length_le]
    · rfl
    · simp [ofText]

/-- One write to a range of the source has a place and keeps the chunks that it does not touch. -/
theorem Keeps.write (h : Keeps source earlier chunks) (hw : w.InSource source) :
    ∃ after, chunks.write w.start w.stop w.text = (after, true) ∧
      Keeps source (earlier ++ [w]) after := by
  obtain ⟨hle, hstop⟩ := hw
  have hplace : (chunks.write w.start w.stop w.text).2 = true := by
    unfold Chunks.write
    split
    · rfl
    · exact decide_eq_true (Nat.le_trans hstop h.length)
  refine ⟨_, Prod.ext rfl hplace, ?_, ?_, ?_⟩
  · exact Nat.le_trans h.length (length_le_length_write chunks w.start w.stop w.text)
  · intro i hi huntouched
    rw [List.forall_mem_append, List.forall_mem_singleton] at huntouched
    rw [getElem?_write_of_not_touches huntouched.2 (.inr (Nat.lt_of_lt_of_le hi h.length))]
    exact h.untouched i hi huntouched.1
  · unfold appended
    rw [List.filter_append, List.map_append, List.reverse_append, List.flatten_append]
    by_cases hend : w.AtEnd source
    · obtain ⟨hstart, hstop⟩ := hend
      rw [hstart, hstop, flatten_drop_write w.text h.length, h.behind]
      simp [Write.AtEnd, hstart, hstop, appended]
    · have hbefore : w.start < source.length := by
        unfold Write.AtEnd at hend
        omega
      rw [drop_write hbefore hstop h.length, h.behind]
      simp [hend, appended]

/-! ## Runs of writes -/

theorem Keeps.run? (h : Keeps source earlier chunks) (hwrites : ∀ w ∈ writes, w.InSource source) :
    ∃ after, run? chunks writes = some after ∧ Keeps source (earlier ++ writes) after := by
  induction writes generalizing earlier chunks with
  | nil => exact ⟨chunks, rfl, by rwa [List.append_nil]⟩
  | cons w writes ih =>
    rw [List.forall_mem_cons] at hwrites
    obtain ⟨middle, hwrite, hmiddle⟩ := h.write hwrites.1
    obtain ⟨after, hrun, hafter⟩ := ih hmiddle hwrites.2
    refine ⟨after, ?_, ?_⟩
    · rw [Chunks.run?, hwrite]
      exact hrun
    · rwa [List.append_cons]

/-- The chunks of the source and those behind them. -/
theorem render_eq_read_append (chunks : Chunks) (position : Nat) :
    chunks.render = chunks.read 0 position ++ (chunks.drop position).flatten := by
  rw [read, List.drop_zero, Nat.sub_zero, ← List.flatten_append, List.take_append_drop, render]

/-- Writes to ranges of a source all have a place. Afterwards a range with no position that a write
has touched is read as it was, and what is read of adjoining ranges up to the end of the source
begins the whole text, of which the rest is what was written at that end, the latest text first. -/
theorem run?_inSource (h : ∀ w ∈ writes, w.InSource source) :
    ∃ chunks, run? (ofText source) writes = some chunks ∧
      (∀ start stop, stop ≤ source.length →
        (∀ w ∈ writes, ∀ i, start ≤ i → i < stop → ¬w.Touches i) →
        chunks.read start stop = (source.drop start).take (stop - start)) ∧
      ∀ start stop, start ≤ stop → stop ≤ source.length →
        chunks.render = chunks.read 0 start ++ chunks.read start stop ++
          chunks.read stop source.length ++ (appended source writes).flatten := by
  obtain ⟨chunks, hrun, hkeeps⟩ := (keeps_ofText source).run? h
  rw [List.nil_append] at hkeeps
  refine ⟨chunks, hrun, ?_, ?_⟩
  · intro start stop hstop huntouched
    rw [← read_ofText]
    apply read_congr
    intro i hfirst hlast
    apply hkeeps.untouched i (Nat.lt_of_lt_of_le hlast hstop)
    intro w hw
    exact huntouched w hw i hfirst hlast
  · intro start stop hle hstop
    rw [render_eq_read_append chunks source.length, hkeeps.behind,
      read_append chunks (Nat.zero_le start) (Nat.le_trans hle hstop),
      read_append chunks hle hstop, ← List.append_assoc (chunks.read 0 start)]

/-- Inserts and overlapping writes, two of them at the end. -/
def scatteredWrites : List Write :=
  [⟨0, 0, "x"⟩, ⟨2, 4, "Y"⟩, ⟨4, 4, "!"⟩, ⟨3, 3, "?"⟩, ⟨4, 4, "#"⟩]

theorem run?_inSource_scattered :
    (∀ w ∈ scatteredWrites, w.InSource "abcd") ∧
      ∃ chunks, run? (ofText "abcd") scatteredWrites = some chunks ∧
        chunks.read 1 2 = Text.ofString "b" ∧
        chunks.render = chunks.read 0 1 ++ chunks.read 1 2 ++ chunks.read 2 4 ++
          Text.ofString "#!" := by
  have hwrites : ∀ w ∈ scatteredWrites, w.InSource "abcd" := by decide
  obtain ⟨chunks, hrun, hread, hrender⟩ := run?_inSource hwrites
  refine ⟨hwrites, chunks, hrun, ?_, ?_⟩
  · refine (hread 1 2 (by decide) ?_).trans (by decide)
    intro w hw i hfirst hlast
    obtain rfl : i = 1 := by omega
    revert w
    decide
  · exact (hrender 1 2 (by decide) (by decide)).trans (by rfl)

end Chunks
end GameArchive
