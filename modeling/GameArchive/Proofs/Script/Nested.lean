import GameArchive.Proofs.Script.Plain
import Mathlib.Data.List.Sort

/-!
# Nested edits

Nodes are visited children before parents, so of two edits the later one is of a node around the
other or apart from it. What has been written last over a position decides its chunk, and that is the
edit of the outermost node there. So the edited text is the source with the nodes of the outermost
edits replaced, one after another, and so is the text of each node when it is visited.
-/

namespace GameArchive
namespace Chunks

/-- A text in the first chunk of a range of otherwise empty chunks is what is read of the range. -/
theorem read_written {chunks : Chunks} {start stop : Nat} {text : Text} (hlt : start < stop)
    (h : ∀ i, start ≤ i → i < stop → chunks[i]? = some (if i = start then text else [])) :
    chunks.read start stop = text := by
  have hchunks : (chunks.drop start).take (stop - start) =
      text :: List.replicate (stop - start - 1) [] := by
    apply List.ext_getElem?
    intro i
    rw [List.getElem?_take, List.getElem?_drop]
    split
    · rw [h (start + i) (by omega) (by omega)]
      cases i with
      | zero => simp
      | succ i =>
        rw [List.getElem?_cons_succ, List.getElem?_replicate, if_neg (by omega),
          if_pos (by omega)]
    · rw [eq_comm, List.getElem?_eq_none_iff, List.length_cons, List.length_replicate]
      omega
  rw [read, hchunks, List.flatten_cons, List.flatten_replicate_nil, List.append_nil]

/-- A write takes the place of an earlier one to the same range. -/
theorem write_write (chunks : Chunks) {start stop : Nat} (first second : Text)
    (hlt : start < stop) :
    ((chunks.write start stop first).1.write start stop second).1 =
      (chunks.write start stop second).1 := by
  apply List.ext_getElem?
  intro i
  rw [getElem?_write _ second hlt, getElem?_write chunks first hlt, getElem?_write chunks second hlt]
  split
  · rw [Option.map_map]
    rfl
  · rfl

end Chunks

namespace Script

open Grammar (Visit)

variable {σ ε : Type}

/-! ## Nested nodes -/

namespace Grammar.Visit

def Within (v : Visit) (start stop : Nat) : Prop := start ≤ v.start ∧ v.stop ≤ stop

def Apart (v : Visit) (start stop : Nat) : Prop := v.stop ≤ start ∨ stop ≤ v.start

instance (v : Visit) (start stop : Nat) : Decidable (v.Within start stop) :=
  inferInstanceAs (Decidable (_ ∧ _))

instance (v : Visit) (start stop : Nat) : Decidable (v.Apart start stop) :=
  inferInstanceAs (Decidable (_ ∨ _))

end Grammar.Visit

/-- The nodes have characters of the source, and each of them lies in a later one or apart from
it. -/
structure IsNested (source : Text) (visits : List Visit) : Prop where
  nonempty : ∀ v ∈ visits, v.start < v.stop
  inside : ∀ v ∈ visits, v.stop ≤ source.length
  pairwise : visits.Pairwise fun v later =>
    v.Within later.start later.stop ∨ v.Apart later.start later.stop

instance (source : Text) (visits : List Visit) : Decidable (IsNested source visits) :=
  decidable_of_iff ((∀ v ∈ visits, v.start < v.stop) ∧ (∀ v ∈ visits, v.stop ≤ source.length) ∧
      visits.Pairwise fun v later =>
        v.Within later.start later.stop ∨ v.Apart later.start later.stop)
    ⟨fun h => ⟨h.1, h.2.1, h.2.2⟩, fun h => ⟨h.1, h.2, h.3⟩⟩

theorem IsNested.sublist {source : Text} {visits others : List Visit} (h : IsNested source visits)
    (hothers : others.Sublist visits) : IsNested source others where
  nonempty v hv := h.nonempty v (hothers.subset hv)
  inside v hv := h.inside v (hothers.subset hv)
  pairwise := h.pairwise.sublist hothers

/-! ## The outermost edits -/

/-- The edits whose nodes lie in the node of no later edit. -/
def outermost : List Edit → List Edit
  | [] => []
  | e :: later =>
    if ∃ other ∈ later, e.node.Within other.node.start other.node.stop then outermost later
    else e :: outermost later

/-- The position belongs to the node of the edit. -/
def Edit.Spans (e : Edit) (position : Nat) : Prop :=
  e.node.start ≤ position ∧ position < e.node.stop

theorem outermost_sublist (edits : List Edit) : (outermost edits).Sublist edits := by
  induction edits with
  | nil => exact .slnil
  | cons e later ih =>
    rw [outermost]
    split
    · exact ih.cons e
    · exact ih.cons_cons e

theorem IsNested.pairwise_edits {source : Text} {edits : List Edit}
    (h : IsNested source (edits.map (·.node))) : edits.Pairwise fun e later =>
      e.node.Within later.node.start later.node.stop ∨
        e.node.Apart later.node.start later.node.stop :=
  List.pairwise_map.mp h.pairwise

theorem IsNested.tail {source : Text} {e : Edit} {later : List Edit}
    (h : IsNested source ((e :: later).map (·.node))) : IsNested source (later.map (·.node)) :=
  h.sublist ((List.sublist_cons_self e later).map _)

theorem IsNested.pairwise_outermost {source : Text} {edits : List Edit}
    (h : IsNested source (edits.map (·.node))) :
    (outermost edits).Pairwise fun e other => e.node.Apart other.node.start other.node.stop := by
  induction edits with
  | nil => exact .nil
  | cons e later ih =>
    rw [outermost]
    split
    · exact ih h.tail
    · next hnone =>
      refine .cons ?_ (ih h.tail)
      intro other hother
      have hlater := (outermost_sublist later).subset hother
      rcases (List.pairwise_cons.mp h.pairwise_edits).1 other hlater with hwithin | hapart
      · exact absurd ⟨other, hlater, hwithin⟩ hnone
      · exact hapart

/-- Where an edit has written, so has an outermost one. -/
theorem exists_outermost {edits : List Edit} {e : Edit} (he : e ∈ edits) {position : Nat}
    (hspans : e.Spans position) : ∃ outer ∈ outermost edits, outer.Spans position := by
  induction edits generalizing e with
  | nil => simp at he
  | cons first later ih =>
    rw [outermost]
    rcases List.mem_cons.mp he with rfl | hlater
    · split
      · next hinner =>
        obtain ⟨other, hother, hstart, hstop⟩ := hinner
        exact ih hother ⟨hstart.trans hspans.1, hspans.2.trans_le hstop⟩
      · exact ⟨e, List.mem_cons_self, hspans⟩
    · obtain ⟨outer, houter, h⟩ := ih hlater hspans
      split
      · exact ⟨outer, houter, h⟩
      · exact ⟨outer, List.mem_cons_of_mem first houter, h⟩

/-- An outermost edit is the last one that has written to the positions of its node. -/
theorem IsNested.last_of_mem_outermost {source : Text} {edits : List Edit}
    (h : IsNested source (edits.map (·.node))) {e : Edit} (he : e ∈ outermost edits) {position : Nat}
    (hspans : e.Spans position) :
    ∃ before after, edits = before ++ e :: after ∧ ∀ other ∈ after, ¬other.Spans position := by
  induction edits with
  | nil => simp [outermost] at he
  | cons first later ih =>
    have hlater : e ∈ outermost later → ∃ before after, first :: later = before ++ e :: after ∧
        ∀ other ∈ after, ¬other.Spans position := by
      intro hmem
      obtain ⟨before, after, rfl, hlast⟩ := ih h.tail hmem
      exact ⟨first :: before, after, rfl, hlast⟩
    rw [outermost] at he
    split at he
    · exact hlater he
    · next hnone =>
      rcases List.mem_cons.mp he with rfl | hmem
      · refine ⟨[], later, rfl, ?_⟩
        rintro other hother ⟨hstart, hstop⟩
        obtain ⟨hfirst, hlast⟩ := hspans
        rcases (List.pairwise_cons.mp h.pairwise_edits).1 other hother with hwithin | hapart
        · exact hnone ⟨other, hother, hwithin⟩
        · unfold Grammar.Visit.Apart at hapart
          omega
      · exact hlater hmem

/-! ## What edits leave in a chunk -/

theorem getElem?_update_of_not_spans {chunks : Chunks} {edits : List Edit} {position : Nat}
    (hnonempty : ∀ e ∈ edits, e.node.start < e.node.stop)
    (hapart : ∀ e ∈ edits, ¬e.Spans position) :
    (update chunks edits)[position]? = chunks[position]? := by
  induction edits generalizing chunks with
  | nil => rfl
  | cons e edits ih =>
    rw [List.forall_mem_cons] at hnonempty hapart
    have hwrite : (e.apply chunks)[position]? = chunks[position]? := by
      rw [Edit.apply, Chunks.getElem?_write chunks e.text hnonempty.1]
      exact if_neg hapart.1
    rw [← hwrite]
    exact ih hnonempty.2 hapart.2

/-- The last edit that writes to a position decides its chunk. -/
theorem getElem?_update_of_last {chunks : Chunks} {before after : List Edit} {e : Edit}
    {position : Nat} (hnonempty : ∀ other ∈ before ++ e :: after, other.node.start < other.node.stop)
    (hlength : position < chunks.length) (hspans : e.Spans position)
    (hlast : ∀ other ∈ after, ¬other.Spans position) :
    (update chunks (before ++ e :: after))[position]? =
      some (if position = e.node.start then e.text else []) := by
  rw [List.forall_mem_append, List.forall_mem_cons] at hnonempty
  obtain ⟨-, he, hafter⟩ := hnonempty
  have hbefore : position < (update chunks before).length :=
    hlength.trans_le (length_le_length_update chunks before)
  rw [update_append]
  have hwritten : (e.apply (update chunks before))[position]? =
      some (if position = e.node.start then e.text else []) := by
    rw [Edit.apply, Chunks.getElem?_write _ e.text he, if_pos ⟨hspans.1, hspans.2⟩,
      List.getElem?_eq_getElem hbefore, Option.map_some]
  rw [← hwritten]
  exact getElem?_update_of_not_spans hafter hlast

theorem length_update {chunks : Chunks} {edits : List Edit}
    (hnonempty : ∀ e ∈ edits, e.node.start < e.node.stop) :
    (update chunks edits).length = chunks.length := by
  induction edits generalizing chunks with
  | nil => rfl
  | cons e edits ih =>
    rw [List.forall_mem_cons] at hnonempty
    exact (ih hnonempty.2).trans (Chunks.length_write chunks e.text hnonempty.1)

/-! ## Replacing nodes in the source -/

/-- The text of the source between two positions. -/
def between (source : Text) (start stop : Nat) : Text := (source.drop start).take (stop - start)

/-- The source between two positions with the texts of edits in place of their nodes; the nodes
follow each other in the source. -/
def splice (source : Text) (position stop : Nat) : List Edit → Text
  | [] => between source position stop
  | e :: edits => between source position e.node.start ++ e.text ++
      splice source e.node.stop stop edits

def inOrder (edits : List Edit) : List Edit :=
  edits.insertionSort fun e other => e.node.start ≤ other.node.start

/-- The source between two positions with every node in between that has been edited, and lies in no
node that has been edited later, replaced by the text of its edit. -/
def replaced (source : Text) (start stop : Nat) (edits : List Edit) : Text :=
  splice source start stop
    (inOrder ((outermost edits).filter fun e => e.node.Within start stop))

theorem mem_inOrder {edits : List Edit} {e : Edit} : e ∈ inOrder edits ↔ e ∈ edits :=
  List.mem_insertionSort _

/-- Nodes apart from each other are put in the order in which they stand in the source. -/
theorem pairwise_inOrder {edits : List Edit}
    (hnonempty : ∀ e ∈ edits, e.node.start < e.node.stop)
    (hapart : edits.Pairwise fun e other => e.node.Apart other.node.start other.node.stop) :
    (inOrder edits).Pairwise fun e other => e.node.stop ≤ other.node.start := by
  have hsorted : (inOrder edits).Pairwise fun e other => e.node.start ≤ other.node.start := by
    have htotal : Std.Total fun e other : Edit => e.node.start ≤ other.node.start :=
      ⟨fun e other => Nat.le_total e.node.start other.node.start⟩
    have htrans : IsTrans Edit fun e other => e.node.start ≤ other.node.start :=
      ⟨fun _ _ _ => Nat.le_trans⟩
    exact List.pairwise_insertionSort _ edits
  have hdisjoint : (inOrder edits).Pairwise fun e other =>
      e.node.Apart other.node.start other.node.stop := by
    refine (List.Perm.pairwise_iff ?_ (List.perm_insertionSort _ edits)).mpr hapart
    exact fun h => h.symm
  refine (hsorted.and hdisjoint).imp_of_mem ?_
  rintro e other - hother ⟨hstart, hbefore | hbehind⟩
  · exact hbefore
  · have hlt := hnonempty other (mem_inOrder.mp hother)
    omega

/-- Chunks that hold the texts of the edits where these have written, and the source elsewhere, are
read as the source with the edited nodes replaced. -/
theorem read_eq_splice {source : Text} {chunks : Chunks} {edits : List Edit} {position stop : Nat}
    (hordered : edits.Pairwise fun e other => e.node.stop ≤ other.node.start)
    (hnonempty : ∀ e ∈ edits, e.node.start < e.node.stop)
    (hwithin : ∀ e ∈ edits, e.node.Within position stop)
    (hkept : ∀ i, position ≤ i → i < stop → (∀ e ∈ edits, ¬e.Spans i) →
      chunks[i]? = (Chunks.ofText source)[i]?)
    (hwritten : ∀ e ∈ edits, ∀ i, e.Spans i →
      chunks[i]? = some (if i = e.node.start then e.text else [])) :
    chunks.read position stop = splice source position stop edits := by
  induction edits generalizing position with
  | nil =>
    rw [splice, between, ← Chunks.read_ofText]
    apply Chunks.read_congr
    intro i hstart hstop
    exact hkept i hstart hstop (by simp)
  | cons e edits ih =>
    rw [List.forall_mem_cons] at hnonempty hwithin hwritten
    rw [List.pairwise_cons] at hordered
    obtain ⟨hlt, hnonempty⟩ := hnonempty
    obtain ⟨⟨hposition, hend⟩, hwithin⟩ := hwithin
    have hgap : chunks.read position e.node.start = between source position e.node.start := by
      rw [between, ← Chunks.read_ofText]
      apply Chunks.read_congr
      intro i hstart hstop
      apply hkept i hstart (by omega)
      rw [List.forall_mem_cons]
      constructor
      · rintro ⟨hfirst, -⟩
        omega
      · rintro other hother ⟨hfirst, -⟩
        have hbehind := hordered.1 other hother
        omega
    have htext : chunks.read e.node.start e.node.stop = e.text :=
      Chunks.read_written hlt fun i hstart hstop => hwritten.1 i ⟨hstart, hstop⟩
    have hrest : chunks.read e.node.stop stop = splice source e.node.stop stop edits := by
      apply ih hordered.2 hnonempty
      · intro other hother
        exact ⟨hordered.1 other hother, (hwithin other hother).2⟩
      · intro i hstart hstop hnone
        apply hkept i (by omega) hstop
        rw [List.forall_mem_cons]
        refine ⟨?_, hnone⟩
        rintro ⟨-, hlast⟩
        omega
      · exact hwritten.2
    rw [splice, Chunks.read_append chunks hposition (by omega),
      Chunks.read_append chunks (Nat.le_of_lt hlt) hend, hgap, htext, hrest, List.append_assoc]

/-- What is read after nested edits, of a range that no node of an edit crosses. -/
theorem IsNested.read_update {source : Text} {edits : List Edit}
    (h : IsNested source (edits.map (·.node))) {start stop : Nat}
    (hrange : ∀ e ∈ edits, e.node.Within start stop ∨ e.node.Apart start stop) :
    (update (Chunks.ofText source) edits).read start stop = replaced source start stop edits := by
  have hnonempty : ∀ e ∈ edits, e.node.start < e.node.stop := fun e he =>
    h.nonempty e.node (List.mem_map_of_mem he)
  have hmem : ∀ {e}, e ∈ inOrder ((outermost edits).filter fun e => e.node.Within start stop) ↔
      e ∈ outermost edits ∧ e.node.Within start stop := by
    intro e
    rw [mem_inOrder, List.mem_filter, decide_eq_true_iff]
  have hsubset : ∀ e ∈ outermost edits, e ∈ edits := (outermost_sublist edits).subset
  apply read_eq_splice
  · apply pairwise_inOrder
    · intro e he
      exact hnonempty e (hsubset e (List.mem_of_mem_filter he))
    · exact h.pairwise_outermost.sublist List.filter_sublist
  · intro e he
    exact hnonempty e (hsubset e (hmem.mp he).1)
  · intro e he
    exact (hmem.mp he).2
  · intro i hstart hstop hnone
    apply getElem?_update_of_not_spans hnonempty
    intro e he hspans
    obtain ⟨outer, houter, hspans⟩ := exists_outermost he hspans
    rcases hrange outer (hsubset outer houter) with hwithin | hapart
    · exact hnone outer (hmem.mpr ⟨houter, hwithin⟩) hspans
    · unfold Grammar.Visit.Apart at hapart
      unfold Edit.Spans at hspans
      omega
  · intro e he i hspans
    have hlength : i < (Chunks.ofText source).length := by
      rw [Chunks.ofText, List.length_map]
      have hinside := h.inside e.node (List.mem_map_of_mem (hsubset e (hmem.mp he).1))
      exact hspans.2.trans_le hinside
    obtain ⟨before, after, rfl, hlast⟩ := h.last_of_mem_outermost (hmem.mp he).1 hspans
    exact getElem?_update_of_last hnonempty hlength hspans hlast

/-! ## The last edit of every visit -/

/-- The visitor edits no node but the one that it visits. -/
def Visitor.EditsOwn (visitor : Visitor σ ε) : Prop :=
  ∀ memory v chunks next edits, visitor memory v chunks = .ok (next, edits) →
    ∀ e ∈ edits, e.node = v

/-- Of the edits that a visitor makes at nodes, the last one at each node. -/
def lastEdits (visitor : Visitor σ ε) : List Visit → σ → Chunks → List Edit
  | [], _, _ => []
  | v :: visits, memory, chunks =>
    match visitor memory v chunks with
    | .error _ => []
    | .ok (memory, edits) =>
      edits.getLast?.toList ++ lastEdits visitor visits memory (update chunks edits)

/-- Of the edits of one node only the last one counts. -/
theorem update_getLast? {chunks : Chunks} {edits : List Edit} {v : Visit} (hv : v.start < v.stop)
    (h : ∀ e ∈ edits, e.node = v) : update chunks edits = update chunks edits.getLast?.toList := by
  induction edits generalizing chunks with
  | nil => rfl
  | cons e edits ih =>
    cases edits with
    | nil => rfl
    | cons other edits =>
      rw [List.forall_mem_cons] at h
      obtain ⟨last, hlast⟩ : ∃ last, (other :: edits).getLast? = some last :=
        ⟨_, List.getLast?_eq_some_getLast (List.cons_ne_nil other edits)⟩
      have hnode : last.node = v := h.2 last (List.mem_of_getLast? hlast)
      have hstep : update chunks (e :: other :: edits) = update (e.apply chunks) (other :: edits) :=
        rfl
      rw [List.getLast?_cons_cons, hstep, ih h.2, hlast]
      change last.apply (e.apply chunks) = last.apply chunks
      rw [Edit.apply, Edit.apply, Edit.apply, hnode, h.1, Chunks.write_write _ _ _ hv]

theorem toList_getLast?_subset {edits : List Edit} {e : Edit} (h : e ∈ edits.getLast?.toList) :
    e ∈ edits :=
  List.mem_of_getLast? (Option.mem_toList.mp h)

theorem update_editsOf {visitor : Visitor σ ε} (hown : visitor.EditsOwn) {visits : List Visit}
    (hnonempty : ∀ v ∈ visits, v.start < v.stop) (memory : σ) (chunks : Chunks) :
    update chunks (editsOf visitor visits memory chunks) =
      update chunks (lastEdits visitor visits memory chunks) := by
  induction visits generalizing memory chunks with
  | nil => rfl
  | cons v visits ih =>
    rw [List.forall_mem_cons] at hnonempty
    rw [editsOf, lastEdits]
    cases hanswer : visitor memory v chunks with
    | error e => rfl
    | ok answer =>
      obtain ⟨next, edits⟩ := answer
      simp only [update_append]
      rw [ih hnonempty.2, ← update_getLast? hnonempty.1 (hown memory v chunks next edits hanswer)]

/-- A visit has at most one last edit, and the visits are in order. -/
theorem map_lastEdits_sublist {visitor : Visitor σ ε} (hown : visitor.EditsOwn)
    (visits : List Visit) (memory : σ) (chunks : Chunks) :
    ((lastEdits visitor visits memory chunks).map (·.node)).Sublist visits := by
  induction visits generalizing memory chunks with
  | nil => exact .slnil
  | cons v visits ih =>
    rw [lastEdits]
    cases hanswer : visitor memory v chunks with
    | error e => exact List.nil_sublist _
    | ok answer =>
      obtain ⟨next, edits⟩ := answer
      have hedits := hown memory v chunks next edits hanswer
      simp only [List.map_append]
      cases hlast : edits.getLast? with
      | none => exact (ih next _).cons v
      | some e =>
        have hnode : e.node = v := hedits e (List.mem_of_getLast? hlast)
        simp only [Option.toList_some, List.map_cons, List.map_nil, hnode]
        exact (ih next _).cons_cons v

/-! ## Runs over nested nodes -/

theorem IsNested.lastEdits {source : Text} {visits : List Visit} (h : IsNested source visits)
    {visitor : Visitor σ ε} (hown : visitor.EditsOwn) (memory : σ) :
    IsNested source
      ((lastEdits visitor visits memory (Chunks.ofText source)).map (·.node)) :=
  h.sublist (map_lastEdits_sublist hown visits memory _)

/-- The text of a node, when it is visited and has perhaps been edited itself, is the one of the
source with the nodes replaced that have been edited before. -/
theorem IsNested.sourceOf_eq {source : Text} {before after : List Visit} {v : Visit}
    (h : IsNested source (before ++ v :: after)) {visitor : Visitor σ ε} (hown : visitor.EditsOwn)
    {memory last : σ} {chunks : Chunks}
    (hrun : runVisits visitor before memory (Chunks.ofText source) = .ok (last, chunks))
    {own : List Edit} (hedits : ∀ e ∈ own, e.node = v) :
    sourceOf (update chunks own) v = replaced source v.start v.stop
      (Script.lastEdits visitor before memory (Chunks.ofText source) ++ own.getLast?.toList) := by
  have hbefore : IsNested source before := h.sublist (List.sublist_append_left _ _)
  have hv : v ∈ before ++ v :: after := by simp
  have hlast : ∀ e ∈ own.getLast?.toList, e.node = v := fun e he =>
    hedits e (toList_getLast?_subset he)
  rw [sourceOf, runVisits_eq_ok hrun, update_editsOf hown hbefore.nonempty,
    update_getLast? (h.nonempty v hv) hedits, ← update_append]
  apply IsNested.read_update
  · apply h.sublist
    have hown' : (own.getLast?.toList.map (·.node)).Sublist (v :: after) := by
      cases hlast' : own.getLast? with
      | none => exact List.nil_sublist _
      | some e =>
        have hnode : e.node = v := hedits e (List.mem_of_getLast? hlast')
        simp [hnode]
    rw [List.map_append]
    exact (map_lastEdits_sublist hown before memory _).append hown'
  · intro e he
    rcases List.mem_append.mp he with he | he
    · have hmem : e.node ∈ before :=
        (map_lastEdits_sublist hown before memory _).subset (List.mem_map_of_mem he)
      exact (List.pairwise_append.mp h.pairwise).2.2 e.node hmem v List.mem_cons_self
    · rw [hlast e he]
      exact .inl ⟨Nat.le_refl _, Nat.le_refl _⟩

/-- The text after all visits. -/
theorem IsNested.render_eq {source : Text} {visits : List Visit} (h : IsNested source visits)
    {visitor : Visitor σ ε} (hown : visitor.EditsOwn) (memory : σ) :
    (update (Chunks.ofText source)
      (editsOf visitor visits memory (Chunks.ofText source))).render =
      replaced source 0 source.length
        (Script.lastEdits visitor visits memory (Chunks.ofText source)) := by
  have hnested := h.lastEdits hown memory
  rw [update_editsOf hown h.nonempty, ← hnested.read_update, Chunks.read, List.drop_zero,
    List.take_of_length_le, Chunks.render]
  · rw [length_update, Chunks.ofText, List.length_map, Nat.sub_zero]
    intro e he
    exact hnested.nonempty e.node (List.mem_map_of_mem he)
  · intro e he
    exact .inl ⟨Nat.zero_le _, hnested.inside e.node (List.mem_map_of_mem he)⟩

/-- On a run over nested nodes, whose visitor edits only the node that it visits, the text of a node
is at its visit the one of the source with all nodes replaced that lie in it, have been edited before
and lie in no node that has been edited since; an edit of the node itself takes the place of these.
In the same way the text after the run is the source with all nodes replaced that have been edited
and lie in no node that has been edited later; each is replaced by the text of its last edit. So it
is for what `transform` gives for code that it can read. -/
theorem runVisits_nested {source : Text} {visits : List Visit} (h : IsNested source visits)
    {visitor : Visitor σ ε} (hown : visitor.EditsOwn) (memory : σ) :
    (∀ before v after, visits = before ++ v :: after →
      ∀ last chunks, runVisits visitor before memory (Chunks.ofText source) = .ok (last, chunks) →
      ∀ own : List Edit, (∀ e ∈ own, e.node = v) →
        sourceOf (update chunks own) v = replaced source v.start v.stop
          (lastEdits visitor before memory (Chunks.ofText source) ++ own.getLast?.toList)) ∧
      (∀ last chunks, runVisits visitor visits memory (Chunks.ofText source) = .ok (last, chunks) →
        chunks.render = replaced source 0 source.length
          (lastEdits visitor visits memory (Chunks.ofText source))) ∧
      (visitor.NeverStops → ∃ answer,
        runVisits visitor visits memory (Chunks.ofText source) = .ok answer) ∧
      ∀ changes, (Grammar.read source).visits = visits →
        (Grammar.read source).outcome = .ok changes →
        (visitor.NeverStops → ∃ t, transform visitor memory source = .ok t) ∧
        ∀ t, transform visitor memory source = .ok t → t.result = .ok
          (replaced source 0 source.length
            (lastEdits visitor visits memory (Chunks.ofText source)), nodesOf visits changes) := by
  refine ⟨?_, ?_, ?_, ?_⟩
  · rintro before v after rfl last chunks hrun own hedits
    exact h.sourceOf_eq hown hrun hedits
  · intro last chunks hrun
    rw [runVisits_eq_ok hrun, h.render_eq hown]
  · intro hvisitor
    obtain ⟨last, hlast⟩ := runVisits_eq hvisitor visits memory (Chunks.ofText source)
    exact ⟨_, hlast⟩
  · rintro changes rfl hparsed
    refine ⟨fun hvisitor => hvisitor.exists_transform hparsed memory, ?_⟩
    intro t ht
    rw [transform_eq_ok hparsed ht, h.render_eq hown]

/-- Puts brackets around names and calls, by two edits of each. -/
def Visitor.wrapping : Visitor Unit Empty := fun _ v chunks =>
  .ok ((), if v.kind = .identifier ∨ v.kind = .callExpression then
    [⟨v, "?"⟩, ⟨v, "<" ++ sourceOf chunks v ++ ">"⟩] else [])

theorem Visitor.wrapping_neverStops : Visitor.wrapping.NeverStops :=
  fun _ _ _ => ⟨_, rfl⟩

theorem Visitor.wrapping_editsOwn : Visitor.wrapping.EditsOwn := by
  intro memory v chunks next edits hanswer e he
  obtain ⟨-, rfl⟩ := Prod.mk.inj (Except.ok.inj hanswer)
  split at he
  · simp only [List.mem_cons, List.not_mem_nil, or_false] at he
    rcases he with rfl | rfl <;> rfl
  · simp at he

/-- Names are seen in brackets when the call around them is visited, and the names and the call are
in brackets after the run. -/
theorem runVisits_nested_wrapping :
    IsNested "f(a)+b;" (Grammar.read "f(a)+b;").visits ∧ Visitor.wrapping.EditsOwn ∧
      (∃ last chunks, runVisits .wrapping ((Grammar.read "f(a)+b;").visits.take 2) ()
          (Chunks.ofText "f(a)+b;") = .ok (last, chunks) ∧
        sourceOf chunks ⟨.callExpression, 0, 4, none, none⟩ = Text.ofString "<f>(<a>)") ∧
      ∃ t, transform .wrapping () "f(a)+b;" = .ok t ∧
        ∃ nodes, t.result = .ok (Text.ofString "<<f>(<a>)>+<b>;", nodes) := by
  have hnested : IsNested "f(a)+b;" (Grammar.read "f(a)+b;").visits := by decide +kernel
  obtain ⟨hvisit, -, -, htransform⟩ := runVisits_nested hnested Visitor.wrapping_editsOwn ()
  refine ⟨hnested, Visitor.wrapping_editsOwn, ?_, ?_⟩
  · obtain ⟨⟨last, chunks⟩, hrun⟩ : ∃ answer, runVisits .wrapping
        ((Grammar.read "f(a)+b;").visits.take 2) () (Chunks.ofText "f(a)+b;") = .ok answer := by
      obtain ⟨last, hlast⟩ := runVisits_eq Visitor.wrapping_neverStops
        ((Grammar.read "f(a)+b;").visits.take 2) () (Chunks.ofText "f(a)+b;")
      exact ⟨_, hlast⟩
    have hvisits : (Grammar.read "f(a)+b;").visits = (Grammar.read "f(a)+b;").visits.take 2 ++
        ⟨.callExpression, 0, 4, none, none⟩ :: (Grammar.read "f(a)+b;").visits.drop 3 := by
      decide +kernel
    have hsource := hvisit _ _ _ hvisits last chunks hrun [] (by simp)
    refine ⟨last, chunks, hrun, hsource.trans ?_⟩
    decide +kernel
  · have hparsed : (Grammar.read "f(a)+b;").outcome = .ok [] := by decide +kernel
    obtain ⟨hexists, hresult⟩ := htransform [] rfl hparsed
    obtain ⟨t, ht⟩ := hexists Visitor.wrapping_neverStops
    have hcode : replaced "f(a)+b;" 0 (Text.ofString "f(a)+b;").length
        (lastEdits .wrapping (Grammar.read "f(a)+b;").visits () (Chunks.ofText "f(a)+b;")) =
        Text.ofString "<<f>(<a>)>+<b>;" := by
      decide +kernel
    rw [hcode] at hresult
    exact ⟨t, ht, _, hresult t ht⟩

end Script
end GameArchive
