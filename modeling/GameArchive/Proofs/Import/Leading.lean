import GameArchive.Proofs.Import.Scan

/-!
# Leading dots of what is imported

A path seen from a base has no dots of its own left before it. It starts with a dot only if the base
does: then the first segment of the base is empty, and a dot comes behind it unless it is dropped or
stands alone.
-/

namespace GameArchive
namespace Import

def StartsWithDot (t : Text) : Prop := t.head? = some dot

instance (t : Text) : Decidable (StartsWithDot t) := inferInstanceAs (Decidable (t.head? = some dot))

theorem startsWithDot_cons {c : CodePoint} {t : Text} : StartsWithDot (c :: t) ↔ c = dot := by
  simp [StartsWithDot]

theorem StartsWithDot.mem {t : Text} (h : StartsWithDot t) : dot ∈ t := List.mem_of_head? h

theorem startsWithDot_append {s : Text} (hs : s ≠ []) (t : Text) :
    StartsWithDot (s ++ t) ↔ StartsWithDot s := by
  rw [StartsWithDot, List.head?_append_of_ne_nil s hs, StartsWithDot]

/-- The dot that starts a joined text is one of the first piece, or the one behind it. -/
theorem startsWithDot_join (first : Text) (rest : List Text) :
    StartsWithDot (Text.join "." (first :: rest)) ↔
      StartsWithDot first ∨ first = [] ∧ rest ≠ [] := by
  cases rest with
  | nil => simp [Text.join]
  | cons second rest =>
    rw [Text.join, List.append_assoc, dot_text]
    · by_cases hfirst : first = []
      · simp [hfirst, StartsWithDot]
      · simp [startsWithDot_append hfirst, hfirst]
    · simp

/-! ## Segments of a base -/

theorem join_segments (base : Text) : Text.join "." (segments base) = base := by
  unfold segments
  split
  · next hempty =>
    rw [List.isEmpty_iff.mp hempty]
    rfl
  · rw [← dot, Text.join_eq_intercalate, Text.split_eq_splitOn, dot_text, List.intercalate_splitOn]

theorem dot_notMem_of_mem_segments {base piece : Text} (h : piece ∈ segments base) :
    dot ∉ piece := by
  unfold segments at h
  split at h
  · contradiction
  · exact Text.not_mem_of_mem_split h

theorem not_startsWithDot_of_mem_segments {base piece : Text} (h : piece ∈ segments base) :
    ¬StartsWithDot piece := fun hdot => dot_notMem_of_mem_segments h hdot.mem

/-- A base starts with a dot if its first segment is empty and others follow. -/
theorem startsWithDot_iff_segments {base first : Text} {rest : List Text}
    (h : segments base = first :: rest) : StartsWithDot base ↔ first = [] ∧ rest ≠ [] := by
  have hfirst : ¬StartsWithDot first :=
    not_startsWithDot_of_mem_segments (h ▸ List.mem_cons_self)
  rw [← join_segments base, h, startsWithDot_join]
  simp [hfirst]

/-! ## Paths seen from a base -/

theorem not_startsWithDot_afterDots (path : Text) : ¬StartsWithDot (afterDots path) := by
  intro h
  have hnot := List.head?_dropWhile_not isDot path
  rw [show path.dropWhile isDot = afterDots path from rfl, h] at hnot
  contradiction

theorem leadingDots_eq_nil {path : Text} : leadingDots path = [] ↔ ¬StartsWithDot path := by
  cases path with
  | nil => simp [leadingDots, StartsWithDot]
  | cons c path =>
    rw [startsWithDot_cons, ← isDot_iff, leadingDots, List.takeWhile_cons]
    split <;> simp_all

/-- The first segment of the base is left by so many dots, and something is behind it: another
segment or the rest of the path. -/
def LeavesFirst (base : Text) (dots : Nat) (rest : Prop) : Prop :=
  0 < dots ∧ dots < (segments base).length ∧ (rest ∨ dots + 1 < (segments base).length)

/-- What is joined of a path alone starts with no dot. -/
theorem not_startsWithDot_tail (path : Text) :
    ¬StartsWithDot (Text.join "." (if (afterDots path).isEmpty then [] else [afterDots path])) := by
  split
  · exact fun h => absurd h (by decide)
  · exact not_startsWithDot_afterDots path

theorem startsWithDot_resolve (path base : Text) :
    StartsWithDot (resolve path base) ↔
      StartsWithDot base ∧ LeavesFirst base (leadingDots path).length (afterDots path ≠ []) := by
  unfold resolve LeavesFirst
  dsimp only
  split
  · next hdots =>
    simp [hdots, leadingDots_eq_nil.mp (List.length_eq_zero_iff.mp hdots)]
  next hdots =>
  cases hsegments : segments base with
  | nil => simpa using not_startsWithDot_tail path
  | cons first rest =>
    rw [startsWithDot_iff_segments hsegments, List.length_cons]
    by_cases hleft : (leadingDots path).length < rest.length + 1
    · obtain ⟨left, hcount⟩ : ∃ left, rest.length + 1 - (leadingDots path).length = left + 1 :=
        ⟨rest.length - (leadingDots path).length, by omega⟩
      have hfirst : ¬StartsWithDot first :=
        not_startsWithDot_of_mem_segments (hsegments ▸ List.mem_cons_self)
      have hrest : rest ≠ [] := List.ne_nil_of_length_pos (by omega)
      have htake : rest.take left = [] ↔ ¬(leadingDots path).length + 1 < rest.length + 1 := by
        simp only [List.take_eq_nil_iff, hrest, or_false]
        omega
      have htail : (if (afterDots path).isEmpty then [] else [afterDots path]) = [] ↔
          afterDots path = [] := by
        split <;> simp_all
      rw [hcount, List.take_succ_cons, List.cons_append, startsWithDot_join, or_iff_right hfirst]
      simp only [ne_eq, List.append_eq_nil_iff, not_and_or, htake, htail, not_not, hrest, hleft,
        Nat.pos_of_ne_zero hdots, true_and, not_false_eq_true, and_true]
      rw [or_comm]
    · have hnone : rest.length + 1 - (leadingDots path).length = 0 := by omega
      simpa [hnone, hleft] using not_startsWithDot_tail path

/-- A path by its parts: names, or dots alone. -/
theorem parts_text {p : DottedPath} (h : p.HasNames ∨ p.names = []) :
    (leadingDots p.text).length = p.dots ∧ (afterDots p.text = [] ↔ p.names = []) := by
  rcases h with h | h
  · obtain ⟨c, rest, hjoin, -⟩ := head_join_of_names h.1 h.2
    rw [leadingDots_text h, afterDots_text h, hjoin]
    exact ⟨List.length_replicate, by simp [h.1]⟩
  · have hall : ∀ c ∈ p.leading, isDot c = true :=
      fun c hc => isDot_iff.mpr (List.eq_of_mem_replicate hc)
    rw [DottedPath.text, h, Text.join, List.append_nil, leadingDots, afterDots,
      List.takeWhile_eq_self_iff.mpr hall, List.dropWhile_eq_nil_iff.mpr hall]
    exact ⟨List.length_replicate, by simp⟩

theorem startsWithDot_resolve_text {p : DottedPath} (h : p.HasNames ∨ p.names = []) (base : Text) :
    StartsWithDot (resolve p.text base) ↔
      StartsWithDot base ∧ LeavesFirst base p.dots (p.names ≠ []) := by
  obtain ⟨hdots, hnames⟩ := parts_text h
  rw [startsWithDot_resolve, hdots, ne_eq, hnames]

theorem startsWithDot_resolve_package {p : DottedPath} (h : p.HasNames) (base : Text) :
    StartsWithDot (resolve p.package base) ↔
      StartsWithDot base ∧ LeavesFirst base p.dots (p.names.dropLast ≠ []) := by
  unfold DottedPath.package
  split
  · next hsingle =>
    rw [startsWithDot_resolve_text (.inl h), hsingle.1]
    simp [LeavesFirst]
  · have hparts : DottedPath.HasNames ⟨p.dots, p.names.dropLast⟩ ∨ p.names.dropLast = [] := by
      by_cases hnil : p.names.dropLast = []
      · exact .inr hnil
      · exact .inl ⟨hnil, fun name hname => h.2 name (List.dropLast_subset _ hname)⟩
    exact startsWithDot_resolve_text (p := ⟨p.dots, p.names.dropLast⟩) hparts base

theorem not_startsWithDot_of_isName {name : Text} (h : isName name = true) : ¬StartsWithDot name :=
  fun hdot => dot_notMem_of_isName h hdot.mem

/-! ## Records -/

namespace Form

def path : Form → DottedPath
  | .whole path _ => path
  | .member path _ _ => path

/-- The names of the path that the package is found by. -/
def packageNames : Form → List Text
  | .whole path _ => path.names.dropLast
  | .member path _ _ => path.names

variable {form : Form}

theorem startsWithDot_package (h : form.IsProper) (base : Text) (line : Nat) :
    StartsWithDot (form.record base line).package ↔
      StartsWithDot base ∧ LeavesFirst base form.path.dots (form.packageNames ≠ []) := by
  cases form with
  | whole path alias? => exact startsWithDot_resolve_package h.1 base
  | member path name alias? =>
    exact startsWithDot_resolve_text (h.1.imp_right fun hdots => hdots.2) base

theorem startsWithDot_resolvedPath (h : form.IsProper) (base : Text) (line : Nat) :
    StartsWithDot (form.record base line).resolvedPath ↔
      StartsWithDot base ∧ LeavesFirst base form.path.dots (form.path.names ≠ []) := by
  cases form with
  | whole path alias? => exact startsWithDot_resolve_text (.inl h.1) base
  | member path name alias? =>
    have hpackage := startsWithDot_package h base line
    refine Iff.trans ?_ hpackage
    dsimp only [record]
    rw [joinParts_pair _ (ne_nil_of_isName h.2.1)]
    split
    · next hempty =>
      rw [hempty]
      exact iff_of_false (not_startsWithDot_of_isName h.2.1) (by simp [StartsWithDot])
    · next hsome => rw [startsWithDot_append hsome]

end Form
end Import
end GameArchive
