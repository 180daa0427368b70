import GameArchive.Proofs.Mask
import GameArchive.Proofs.Script.Chunks
import GameArchive.Script.Walk

/-!
# What a walk leaves as it was

A visitor that never stops gives a walk all its edits, made one after another on the chunks of the
masked code. A walk whose code is refused hands the code back. A walk whose edits stay within lines
changes these lines only: each of the others is read, masked, where it stood before, and the mask is
taken off again.
-/

namespace GameArchive
namespace Script

open Grammar (Visit)
open Text (lineFeed breaks spans)

variable {σ ε : Type}

/-- The visitor answers every node and so never ends a walk. -/
def Visitor.NeverStops (visitor : Visitor σ ε) : Prop :=
  ∀ memory v chunks, ∃ answer, visitor memory v chunks = .ok answer

/-- The edits that a visitor makes at nodes, in the order in which it makes them. -/
def editsOf (visitor : Visitor σ ε) : List Visit → σ → Chunks → List Edit
  | [], _, _ => []
  | v :: visits, memory, chunks =>
    match visitor memory v chunks with
    | .error _ => []
    | .ok (memory, edits) => edits ++ editsOf visitor visits memory (update chunks edits)

/-- The edits that a visitor makes on a walk. -/
def walkEdits (visitor : Visitor σ ε) (memory : σ) (code : Text) : List Edit :=
  editsOf visitor (Grammar.read (Mask.sanitize code)).visits memory
    (Chunks.ofText (Mask.sanitize code))

namespace Edit

/-- The edit puts a text without line feeds in place of one or more characters of a line. -/
structure WithinLine (source : Text) (e : Edit) : Prop where
  start_lt_stop : e.node.start < e.node.stop
  range : lineFeed ∉ (source.drop e.node.start).take (e.node.stop - e.node.start)
  text : lineFeed ∉ e.text

instance (source : Text) (e : Edit) : Decidable (e.WithinLine source) :=
  decidable_of_iff (e.node.start < e.node.stop ∧
      lineFeed ∉ (source.drop e.node.start).take (e.node.stop - e.node.start) ∧ lineFeed ∉ e.text)
    ⟨fun h => ⟨h.1, h.2.1, h.2.2⟩, fun h => ⟨h.1, h.2, h.3⟩⟩

/-- The node of the edit has a character between the two ends. -/
def Overlaps (e : Edit) (ends : Nat × Nat) : Prop :=
  e.node.start < ends.2 ∧ ends.1 < e.node.stop

instance (e : Edit) (ends : Nat × Nat) : Decidable (e.Overlaps ends) :=
  inferInstanceAs (Decidable (_ ∧ _))

end Edit

/-! ## Runs of edits -/

theorem update_append (chunks : Chunks) (first second : List Edit) :
    update chunks (first ++ second) = update (update chunks first) second := List.foldl_append

theorem runVisits_eq {visitor : Visitor σ ε} (h : visitor.NeverStops) (visits : List Visit)
    (memory : σ) (chunks : Chunks) :
    ∃ last, runVisits visitor visits memory chunks =
      .ok (last, update chunks (editsOf visitor visits memory chunks)) := by
  induction visits generalizing memory chunks with
  | nil => exact ⟨memory, rfl⟩
  | cons v visits ih =>
    obtain ⟨⟨next, edits⟩, hanswer⟩ := h memory v chunks
    obtain ⟨last, hlast⟩ := ih next (update chunks edits)
    refine ⟨last, ?_⟩
    simp only [runVisits, editsOf, hanswer, update_append]
    exact hlast

theorem aligned_update {source : Text} {chunks : Chunks} {edits : List Edit}
    (h : chunks.Aligned source) (hedits : ∀ e ∈ edits, e.WithinLine source) :
    (update chunks edits).Aligned source := by
  induction edits generalizing chunks with
  | nil => exact h
  | cons e edits ih =>
    have he := hedits e List.mem_cons_self
    apply ih
    · exact h.write he.start_lt_stop he.range he.text
    · intro other hother
      exact hedits other (List.mem_cons_of_mem e hother)

/-- Between ends that no edit overlaps, the text is read as before. -/
theorem read_update {source : Text} {chunks : Chunks} {edits : List Edit} {ends : Nat × Nat}
    (hedits : ∀ e ∈ edits, e.WithinLine source) (hapart : ∀ e ∈ edits, ¬e.Overlaps ends) :
    (update chunks edits).read ends.1 ends.2 = chunks.read ends.1 ends.2 := by
  induction edits generalizing chunks with
  | nil => rfl
  | cons e edits ih =>
    have he := (hedits e List.mem_cons_self).start_lt_stop
    have hends := hapart e List.mem_cons_self
    have hrest : (update (e.apply chunks) edits).read ends.1 ends.2 =
        (e.apply chunks).read ends.1 ends.2 := by
      apply ih
      · intro other hother
        exact hedits other (List.mem_cons_of_mem e hother)
      · intro other hother
        exact hapart other (List.mem_cons_of_mem e hother)
    refine hrest.trans (Chunks.read_congr ?_)
    intro i hstart hstop
    have hout : ¬(e.node.start ≤ i ∧ i < e.node.stop) := by
      rintro ⟨hfirst, hlast⟩
      exact hends ⟨by omega, by omega⟩
    rw [Edit.apply, Chunks.getElem?_write chunks e.text he, if_neg hout]

/-! ## Walks -/

theorem walk_eq {visitor : Visitor σ ε} (h : visitor.NeverStops) (memory : σ) (code : Text) :
    ∃ last, walk visitor memory code =
      match (Grammar.read (Mask.sanitize code)).outcome with
      | .error .strayTemplate => .error .strayTemplate
      | .error .longNumber => .error .longNumber
      | .error (.refused refusal) => .ok ⟨last, code, [], false, some refusal⟩
      | .ok changes => .ok ⟨last, Mask.unsanitize
          (update (Chunks.ofText (Mask.sanitize code)) (walkEdits visitor memory code)).render,
          nodesOf (Grammar.read (Mask.sanitize code)).visits changes, true, none⟩ := by
  obtain ⟨last, hlast⟩ := runVisits_eq h (Grammar.read (Mask.sanitize code)).visits memory
    (Chunks.ofText (Mask.sanitize code))
  refine ⟨last, ?_⟩
  simp only [walk, transform, hlast, walkEdits]
  cases (Grammar.read (Mask.sanitize code)).outcome with
  | error fault => cases fault <;> rfl
  | ok changes => rfl

/-- The walk has nothing to write: its code cannot be parsed, or the visitor edits nothing. -/
def LeavesCode (visitor : Visitor σ ε) (memory : σ) (code : Text) : Prop :=
  (∃ fault, (Grammar.read (Mask.sanitize code)).outcome = .error fault) ∨
    walkEdits visitor memory code = []

theorem LeavesCode.code_eq {visitor : Visitor σ ε} {memory : σ} {code : Text}
    (h : LeavesCode visitor memory code) (hvisitor : visitor.NeverStops) {w : Walk σ}
    (hw : walk visitor memory code = .ok w) : w.code = code := by
  obtain ⟨last, hwalk⟩ := walk_eq hvisitor memory code
  rw [hw] at hwalk
  cases houtcome : (Grammar.read (Mask.sanitize code)).outcome with
  | error fault =>
    rw [houtcome] at hwalk
    cases fault with
    | refused refusal =>
      cases hwalk
      rfl
    | strayTemplate => contradiction
    | longNumber => contradiction
  | ok changes =>
    obtain ⟨fault, hfault⟩ | hedits := h
    · simp [houtcome] at hfault
    · rw [houtcome, hedits] at hwalk
      cases hwalk
      rw [update, List.foldl_nil, Chunks.render_ofText, Mask.sanitize_eq, Mask.unsanitize_eq,
        Mask.unmaskLines_maskLines Mask.isMarked_ignoresMask]

/-- The lines of a text that is edited and unmasked, read between the ends of the masked lines. -/
theorem breaks_unsanitize_render {source : Text} {chunks : Chunks} (h : chunks.Aligned source) :
    breaks (Mask.unsanitize chunks.render) =
      (spans source).map fun s => Mask.unmaskLine Mask.isMarked (chunks.read s.1 s.2) := by
  rw [Mask.unsanitize_eq, Mask.breaks_unmaskLines, h.breaks_render, List.map_map]
  rfl

theorem breaks_sanitize (code : Text) :
    breaks (Mask.sanitize code) = (breaks code).map (Mask.maskLine Mask.isMarked) := by
  rw [Mask.sanitize_eq, Mask.breaks_maskLines]

/-- A masked line is read between its ends as long as no edit overlaps them. -/
theorem read_line {code line : Text} {edits : List Edit} {i : Nat} {ends : Nat × Nat}
    (hedits : ∀ e ∈ edits, e.WithinLine (Mask.sanitize code))
    (hline : (breaks code)[i]? = some line) (hends : (spans (Mask.sanitize code))[i]? = some ends)
    (hapart : ∀ e ∈ edits, ¬e.Overlaps ends) :
    (update (Chunks.ofText (Mask.sanitize code)) edits).read ends.1 ends.2 =
      Mask.maskLine Mask.isMarked line := by
  have hmasked : (breaks (Mask.sanitize code))[i]? = some (Mask.maskLine Mask.isMarked line) := by
    rw [breaks_sanitize, List.getElem?_map, hline, Option.map_some]
  rw [Chunks.breaks_eq_slices, List.getElem?_map, hends, Option.map_some, Option.some.injEq]
    at hmasked
  rw [read_update hedits hapart, Chunks.read_ofText, hmasked]

/-- If the code cannot be parsed it is refused, and the walk goes on without it. -/
def IsRefusable (code : Text) : Prop :=
  ∀ fault, (Grammar.read (Mask.sanitize code)).outcome = .error fault →
    ∃ refusal, fault = .refused refusal

theorem isRefusable_of_refused {code : Text} {refusal : Grammar.Refusal}
    (h : (Grammar.read (Mask.sanitize code)).outcome = .error (.refused refusal)) :
    IsRefusable code := by
  intro fault hfault
  rw [h] at hfault
  exact ⟨refusal, (Except.error.inj hfault).symm⟩

theorem IsRefusable.exists_walk {code : Text} (h : IsRefusable code) {visitor : Visitor σ ε}
    (hvisitor : visitor.NeverStops) (memory : σ) : ∃ w, walk visitor memory code = .ok w := by
  obtain ⟨last, hwalk⟩ := walk_eq hvisitor memory code
  cases houtcome : (Grammar.read (Mask.sanitize code)).outcome with
  | error fault =>
    obtain ⟨refusal, rfl⟩ := h fault houtcome
    rw [houtcome] at hwalk
    exact ⟨_, hwalk⟩
  | ok changes =>
    rw [houtcome] at hwalk
    exact ⟨_, hwalk⟩

/-- A walk whose code cannot be parsed hands the code back if the code is refused, and has no answer
otherwise. A walk whose edits stay within lines keeps the number of lines, and every line that no
edit overlaps in the masked code. -/
theorem walk_spec {visitor : Visitor σ ε} (hvisitor : visitor.NeverStops) (memory : σ)
    (code : Text) :
    (∀ fault, (Grammar.read (Mask.sanitize code)).outcome = .error fault →
      ((∃ refusal, fault = .refused refusal) ∧
        ∃ w, walk visitor memory code = .ok w ∧ w.code = code ∧ w.transformed = false ∧
          w.nodes = []) ∨
      ((∀ refusal, fault ≠ .refused refusal) ∧ ∃ halt, walk visitor memory code = .error halt)) ∧
    (∀ changes, (Grammar.read (Mask.sanitize code)).outcome = .ok changes →
      (∀ e ∈ walkEdits visitor memory code, e.WithinLine (Mask.sanitize code)) →
      ∃ w, walk visitor memory code = .ok w ∧ w.transformed = true ∧
        (breaks w.code).length = (breaks code).length ∧
        ∀ (i : Nat) (line : Text) (ends : Nat × Nat), (breaks code)[i]? = some line →
          (spans (Mask.sanitize code))[i]? = some ends →
          (∀ e ∈ walkEdits visitor memory code, ¬e.Overlaps ends) →
          (breaks w.code)[i]? = some line) := by
  obtain ⟨last, hwalk⟩ := walk_eq hvisitor memory code
  constructor
  · intro fault hfault
    rw [hfault] at hwalk
    cases fault with
    | refused refusal => exact .inl ⟨⟨refusal, rfl⟩, _, hwalk, rfl, rfl, rfl⟩
    | strayTemplate => exact .inr ⟨by simp, _, hwalk⟩
    | longNumber => exact .inr ⟨by simp, _, hwalk⟩
  · intro changes hchanges hedits
    rw [hchanges] at hwalk
    have haligned := aligned_update (Chunks.aligned_ofText (Mask.sanitize code)) hedits
    refine ⟨_, hwalk, rfl, ?_, ?_⟩
    · rw [breaks_unsanitize_render haligned, List.length_map, Text.length_spans, breaks_sanitize,
        List.length_map]
    · intro i line ends hline hends hapart
      rw [breaks_unsanitize_render haligned, List.getElem?_map, hends, Option.map_some,
        read_line hedits hline hends hapart, Mask.unmaskLine_maskLine Mask.isMarked_ignoresMask]

theorem Visitor.idle_neverStops : (Visitor.idle : Visitor Unit ε).NeverStops :=
  fun _ _ _ => ⟨_, rfl⟩

/-- Puts another name in place of every name. -/
def Visitor.renaming (name : Text) : Visitor Unit Empty := fun _ v _ =>
  .ok ((), if v.kind = .identifier then [⟨v, name⟩] else [])

theorem Visitor.renaming_neverStops (name : Text) : (Visitor.renaming name).NeverStops :=
  fun _ _ _ => ⟨_, rfl⟩

/-- A script with a directive, a call and an import. -/
def callSample : Text := "#if\na();\n  import c;"

/-- Names are changed between lines that come back as they were; code that is refused comes back
whole; a template without a beginning ends the walk. -/
theorem walk_spec_renaming :
    (∃ w, walk (.renaming "b") () callSample = .ok w ∧ w.transformed = true ∧
      (breaks w.code)[0]? = some (Text.ofString "#if") ∧
      (breaks w.code)[2]? = some (Text.ofString "  import c;")) ∧
    (∃ w, walk (.renaming "b") () (Text.ofString "#if\na )") = .ok w ∧
      w.code = Text.ofString "#if\na )") ∧
    ∃ halt, walk (.renaming "b") () (Text.ofString "`$\x7b\x7d`") = .error halt := by
  have hvisitor := Visitor.renaming_neverStops "b"
  refine ⟨?_, ?_, ?_⟩
  · have hchanges : (Grammar.read (Mask.sanitize callSample)).outcome = .ok [] := by decide +kernel
    have hedits : ∀ e ∈ walkEdits (.renaming "b") () callSample,
        e.WithinLine (Mask.sanitize callSample) := by decide +kernel
    obtain ⟨w, hw, htransformed, -, hlines⟩ :=
      (walk_spec hvisitor () callSample).2 [] hchanges hedits
    refine ⟨w, hw, htransformed, ?_, ?_⟩
    · exact hlines 0 _ (0, 5) (by decide +kernel) (by decide +kernel) (by decide +kernel)
    · exact hlines 2 _ (11, 24) (by decide +kernel) (by decide +kernel) (by decide +kernel)
  · have hfault : (Grammar.read (Mask.sanitize (Text.ofString "#if\na )"))).outcome =
        .error (.refused ⟨2, .token ")"⟩) := by decide +kernel
    obtain ⟨-, w, hw, hcode, -⟩ | ⟨hkind, -⟩ := (walk_spec hvisitor () _).1 _ hfault
    · exact ⟨w, hw, hcode⟩
    · exact absurd rfl (hkind _)
  · have hfault : (Grammar.read (Mask.sanitize (Text.ofString "`$\x7b\x7d`"))).outcome =
        .error .strayTemplate := by decide +kernel
    obtain ⟨⟨refusal, hrefusal⟩, -⟩ | ⟨-, hhalt⟩ := (walk_spec hvisitor () _).1 _ hfault
    · cases hrefusal
    · exact hhalt

end Script
end GameArchive
