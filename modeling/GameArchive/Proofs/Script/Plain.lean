import GameArchive.Proofs.Script.Walk

/-!
# Plain code

Code without a line to mask is walked as it is transformed, up to the last step: the walk unmasks
the edited text, and takes the slashes off every line of the form of a masked one, though no line
was masked. Such a line is never one of the source.
-/

namespace GameArchive
namespace Script

open Grammar (Visit)
open Text (breaks)

variable {σ ε : Type}

namespace Edit

/-- The node of the edit lies in the code. -/
def InCode (code : Text) (e : Edit) : Prop :=
  e.node.start ≤ code.length ∧ e.node.stop ≤ code.length

/-- The edit writes over the place where the text of the other one begins. -/
def Covers (e other : Edit) : Prop :=
  e.node.start ≤ other.node.start ∧ other.node.start < e.node.stop

end Edit

theorem length_le_length_update (chunks : Chunks) (edits : List Edit) :
    chunks.length ≤ (update chunks edits).length := by
  induction edits generalizing chunks with
  | nil => exact Nat.le_refl _
  | cons e edits ih => exact (Chunks.length_le_length_write chunks _ _ _).trans (ih _)

theorem holds_update {chunks : Chunks} {position : Nat} {text : Text}
    (h : chunks.Holds position text) {edits : List Edit}
    (hapart : ∀ e ∈ edits, ¬(e.node.start ≤ position ∧ position < e.node.stop)) :
    (update chunks edits).Holds position text := by
  induction edits generalizing chunks with
  | nil => exact h
  | cons e edits ih =>
    refine ih (h.write e.text (hapart e List.mem_cons_self)) ?_
    intro other hother
    exact hapart other (List.mem_cons_of_mem e hother)

/-- A text that no later edit writes over stands in the edited code. -/
theorem infix_render_update {code : Text} {before after : List Edit} {e : Edit}
    (he : e.InCode code) (hlast : ∀ other ∈ after, ¬other.Covers e) :
    e.text <:+: (update (Chunks.ofText code) (before ++ e :: after)).render := by
  have hlength : code.length ≤ (update (Chunks.ofText code) before).length := by
    have h := length_le_length_update (Chunks.ofText code) before
    rwa [Chunks.ofText, List.length_map] at h
  rw [update_append]
  refine (holds_update ?_ hlast).infix_render
  exact Chunks.holds_write e.text (he.1.trans hlength) (he.2.trans hlength)

theorem runVisits_eq_ok {visitor : Visitor σ ε} {visits : List Visit} {memory last : σ}
    {chunks result : Chunks} (h : runVisits visitor visits memory chunks = .ok (last, result)) :
    result = update chunks (editsOf visitor visits memory chunks) := by
  induction visits generalizing memory chunks with
  | nil =>
    cases h
    rfl
  | cons v visits ih =>
    rw [runVisits] at h
    rw [editsOf]
    cases hanswer : visitor memory v chunks with
    | error e =>
      rw [hanswer] at h
      contradiction
    | ok answer =>
      rw [hanswer] at h
      rw [update_append]
      exact ih h

/-- What a walk over plain code makes of the answer of `transform`. -/
def Transformed.toWalk (code : Text) (t : Transformed σ) : Walk σ :=
  match t.result with
  | .error refusal => ⟨t.memory, code, [], false, some refusal⟩
  | .ok (edited, nodes) => ⟨t.memory, Mask.unsanitize edited, nodes, true, none⟩

theorem walk_eq_map {code : Text} (h : Mask.sanitize code = code) (visitor : Visitor σ ε)
    (memory : σ) :
    walk visitor memory code = (transform visitor memory code).map (Transformed.toWalk code) := by
  rw [walk, h]
  rfl

theorem transform_eq_ok {visitor : Visitor σ ε} {memory : σ} {code : Text} {t : Transformed σ}
    {changes : List (Nat × Grammar.Kind)} (hparsed : (Grammar.read code).outcome = .ok changes)
    (h : transform visitor memory code = .ok t) :
    t.result = .ok
      ((update (Chunks.ofText code) (editsOf visitor (Grammar.read code).visits memory
        (Chunks.ofText code))).render, nodesOf (Grammar.read code).visits changes) := by
  unfold transform at h
  cases hrun : runVisits visitor (Grammar.read code).visits memory (Chunks.ofText code) with
  | error e =>
    simp only [hrun] at h
    contradiction
  | ok answer =>
    obtain ⟨last, chunks⟩ := answer
    simp only [hrun, hparsed, Except.ok.injEq] at h
    rw [← h, runVisits_eq_ok hrun]

theorem Visitor.NeverStops.exists_transform {visitor : Visitor σ ε} (h : visitor.NeverStops)
    {code : Text} {changes : List (Nat × Grammar.Kind)}
    (hparsed : (Grammar.read code).outcome = .ok changes) (memory : σ) :
    ∃ t, transform visitor memory code = .ok t := by
  obtain ⟨last, hlast⟩ := runVisits_eq h (Grammar.read code).visits memory (Chunks.ofText code)
  simp only [transform, hlast, hparsed]
  exact ⟨_, rfl⟩

/-- A walk over plain code that can be parsed has an answer where `transform` has one, with the same
memory and the same nodes. Its code is the transformed code with one mask taken off each line that
has the form of a masked one, so the two are the same only if the edits have made no such line; the
source has none. What is put in place of a node stands in the transformed code unless a later edit
writes over it, and in the code of the walk at least if it holds no slash. -/
theorem walk_plain {code : Text} {changes : List (Nat × Grammar.Kind)}
    (hplain : Mask.sanitize code = code) (hparsed : (Grammar.read code).outcome = .ok changes)
    (visitor : Visitor σ ε) (memory : σ) :
    (∀ halt, walk visitor memory code = .error halt ↔ transform visitor memory code = .error halt) ∧
      (visitor.NeverStops → ∃ w, walk visitor memory code = .ok w) ∧
      ∀ w, walk visitor memory code = .ok w → ∃ edited,
        transform visitor memory code = .ok ⟨w.memory, .ok (edited, w.nodes)⟩ ∧
        w.transformed = true ∧
        breaks w.code = (breaks edited).map (Mask.unmaskLine Mask.isMarked) ∧
        (w.code = edited ↔ ∀ line ∈ breaks edited, ¬Mask.IsMasked line) ∧
        (∀ line ∈ breaks edited, Mask.IsMasked line → line ∉ breaks code) ∧
        ∀ before e after, walkEdits visitor memory code = before ++ e :: after → e.InCode code →
          (∀ other ∈ after, ¬other.Covers e) →
          e.text <:+: edited ∧ (Mask.slash ∉ e.text → e.text <:+: w.code) := by
  rw [walk_eq_map hplain]
  refine ⟨?_, ?_, ?_⟩
  · intro halt
    cases transform visitor memory code <;> simp [Except.map]
  · intro hvisitor
    obtain ⟨t, ht⟩ := hvisitor.exists_transform hparsed memory
    rw [ht]
    exact ⟨_, rfl⟩
  · intro w hw
    cases ht : transform visitor memory code with
    | error halt =>
      rw [ht] at hw
      contradiction
    | ok t =>
    obtain ⟨last, result⟩ := t
    obtain rfl := transform_eq_ok hparsed ht
    rw [ht] at hw
    obtain rfl := Except.ok.inj hw
    refine ⟨_, rfl, rfl, ?_, Mask.unsanitize_eq_self_iff, ?_, ?_⟩
    · rw [← Mask.breaks_unmaskLines, ← Mask.unsanitize_eq]
      rfl
    · intro line _ hmasked hsource
      have hmarked := Mask.isMarked_of_sanitize_eq_self hplain hsource
      rw [hmasked.isMarked] at hmarked
      contradiction
    · intro before e after hedits he hlast
      rw [walkEdits, hplain] at hedits
      have hstands : e.text <:+: (update (Chunks.ofText code) (before ++ e :: after)).render :=
        infix_render_update he hlast
      rw [← hedits] at hstands
      exact ⟨hstands, fun htext => (Mask.losesSlashes_unsanitize _).isInfix htext hstands⟩

/-- A name without slashes takes its place in both; one that makes its line a masked directive loses
its slashes on a walk. -/
theorem walk_plain_directive :
    Mask.sanitize "x;" = Text.ofString "x;" ∧
      (Grammar.read (Text.ofString "x;")).outcome = .ok [] ∧
      (∃ w, walk (.renaming "y") () "x;" = .ok w ∧
        transform (.renaming "y") () "x;" = .ok ⟨(), .ok (Text.ofString "y;", w.nodes)⟩ ∧
        w.code = Text.ofString "y;") ∧
      ∃ w, walk (.renaming "//#y") () "x;" = .ok w ∧
        transform (.renaming "//#y") () "x;" = .ok ⟨(), .ok (Text.ofString "//#y;", w.nodes)⟩ ∧
        w.code = Text.ofString "#y;" := by
  have hplain : Mask.sanitize "x;" = Text.ofString "x;" := by decide +kernel
  have hparsed : (Grammar.read (Text.ofString "x;")).outcome = .ok [] := by decide +kernel
  have hrenamed : ∀ name edited : Text,
      (update (Chunks.ofText "x;") (editsOf (.renaming name) (Grammar.read "x;").visits ()
        (Chunks.ofText "x;"))).render = edited →
      ∃ w, walk (.renaming name) () "x;" = .ok w ∧
        transform (.renaming name) () "x;" = .ok ⟨(), .ok (edited, w.nodes)⟩ ∧
        breaks w.code = (breaks edited).map (Mask.unmaskLine Mask.isMarked) := by
    intro name edited hrender
    obtain ⟨-, hwalk, hcode⟩ := walk_plain hplain hparsed (.renaming name) ()
    obtain ⟨w, hw⟩ := hwalk (Visitor.renaming_neverStops name)
    obtain ⟨other, htransform, -, hlines, -⟩ := hcode w hw
    have hresult := transform_eq_ok hparsed htransform
    simp only [Except.ok.injEq, Prod.mk.injEq] at hresult
    rw [hresult.1, hrender] at htransform hlines
    exact ⟨w, hw, htransform, hlines⟩
  refine ⟨hplain, hparsed, ?_, ?_⟩
  · obtain ⟨w, hw, htransform, hlines⟩ := hrenamed "y" "y;" (by decide +kernel)
    refine ⟨w, hw, htransform, ?_⟩
    rw [← Text.join_breaks w.code, hlines]
    decide +kernel
  · obtain ⟨w, hw, htransform, hlines⟩ := hrenamed "//#y" "//#y;" (by decide +kernel)
    refine ⟨w, hw, htransform, ?_⟩
    rw [← Text.join_breaks w.code, hlines]
    decide +kernel

end Script
end GameArchive
