import GameArchive.Proofs.Import.Twins

/-!
# Relative paths by texts

A relative path drops segments of its base from the end. The same can be said of texts alone: for
each leading dot the base is cut at its last dot. Cut and segments stay in step as long as no empty
segment stands in front, where the text of the base and the empty text could not be told apart.
-/

namespace GameArchive
namespace Import

/-- What stands before the last dot of a base, which is nothing if it has none. -/
def enclosing (base : Text) : Text := (splitLast base).1.getD []

/-- Each leading dot of the path cuts the base at its last dot. Then the rest of the path is joined
to what is left of the base, and what is empty is left out. -/
def ascend : (path base : Text) → Text
  | [], base => joinParts [base, []]
  | c :: path, base =>
    if isDot c then ascend path (enclosing base) else joinParts [base, c :: path]

/-- A cut at the last dot takes the last piece away. -/
theorem enclosing_join {pieces : List Text} (h : ∀ piece ∈ pieces, dot ∉ piece) :
    enclosing (Text.join "." pieces) = Text.join "." pieces.dropLast := by
  rcases List.eq_nil_or_concat pieces with rfl | ⟨init, last, rfl⟩
  · rfl
  · have hlast : dot ∉ last := h last (by simp)
    rw [List.concat_eq_append, List.dropLast_concat, enclosing]
    by_cases hinit : init = []
    · have hjoin : Text.join "." [last] = last := rfl
      rw [hinit, List.nil_append, hjoin, splitLast_of_notMem hlast]
      rfl
    · rw [join_concat _ _ hinit, dot_text, List.append_assoc, List.singleton_append,
        splitLast_append hlast, Option.getD_some]

theorem joinParts_nil (t : Text) : joinParts [t, []] = t := by
  by_cases ht : t = []
  · rw [ht]
    rfl
  · simp [joinParts, ht, Text.join]

/-- The pieces that are left for so many dots, dropped one by one. -/
theorem take_dropLast (pieces : List Text) (dots : Nat) :
    pieces.dropLast.take (pieces.dropLast.length - dots) =
      pieces.take (pieces.length - (dots + 1)) := by
  rw [List.dropLast_eq_take, List.take_take, List.length_take]
  congr 1
  omega

theorem ascend_join (path : Text) {pieces : List Text} (hdots : ∀ piece ∈ pieces, dot ∉ piece)
    (hhead : ∀ first ∈ pieces.head?, first ≠ []) :
    ascend path (Text.join "." pieces) =
      Text.join "." (pieces.take (pieces.length - (leadingDots path).length) ++
        if (afterDots path).isEmpty then [] else [afterDots path]) := by
  induction path generalizing pieces with
  | nil =>
    rw [ascend, joinParts_nil]
    simp [leadingDots, afterDots]
  | cons c path ih =>
    rw [ascend]
    split
    · next hc =>
      have hleading : leadingDots (c :: path) = c :: leadingDots path := List.takeWhile_cons_of_pos hc
      have hafter : afterDots (c :: path) = afterDots path := List.dropWhile_cons_of_pos hc
      have hrest : ∀ piece ∈ pieces.dropLast, dot ∉ piece := by
        intro piece hpiece
        exact hdots piece (List.dropLast_subset _ hpiece)
      have hfirst : ∀ first ∈ pieces.dropLast.head?, first ≠ [] := by
        intro first hfirst
        apply hhead
        rw [List.dropLast_eq_take, List.head?_take] at hfirst
        split at hfirst
        · contradiction
        · exact hfirst
      rw [enclosing_join hdots, ih hrest hfirst, hleading, hafter, List.length_cons, take_dropLast]
    · next hc =>
      have hleading : leadingDots (c :: path) = [] := List.takeWhile_cons_of_neg hc
      have hafter : afterDots (c :: path) = c :: path := List.dropWhile_cons_of_neg hc
      rw [hleading, hafter, List.length_nil, Nat.sub_zero, List.take_length, List.isEmpty_cons,
        if_neg Bool.false_ne_true, joinParts_pair _ (List.cons_ne_nil c path)]
      split
      · next hempty =>
        rw [(join_eq_nil hhead).mp hempty]
        rfl
      · next hsome =>
        have hne : pieces ≠ [] := mt (join_eq_nil hhead).mpr hsome
        rw [join_concat _ _ hne, dot_text, List.append_assoc, List.singleton_append]

/-- A path with a leading dot is seen from a base as the base is cut for its dots; any other path
stays as it is. -/
theorem resolve_eq_ascend (path : Text) {base : Text} (hbase : ¬StartsWithDot base) :
    resolve path base = if StartsWithDot path then ascend path base else path := by
  have hdots : ∀ piece ∈ segments base, dot ∉ piece := fun _ hpiece =>
    dot_notMem_of_mem_segments hpiece
  have hascend := ascend_join path hdots fun _ hfirst => ne_nil_of_head_segments hbase hfirst
  rw [join_segments] at hascend
  unfold resolve
  dsimp only
  by_cases hpath : StartsWithDot path
  · have hleading : (leadingDots path).length ≠ 0 := by
      intro hzero
      exact leadingDots_eq_nil.mp (List.length_eq_zero_iff.mp hzero) hpath
    rw [if_pos hpath, if_neg hleading, hascend]
  · rw [if_neg hpath, leadingDots_eq_nil.mpr hpath, List.length_nil, if_pos rfl]

/-- A base with an empty segment inside and one at its end. -/
theorem resolve_eq_ascend_empty :
    ¬StartsWithDot "a..b." ∧ resolve "...C" "a..b." = Text.ofString "a.C" ∧
      ascend "...C" "a..b." = Text.ofString "a.C" := by
  have hbase : ¬StartsWithDot "a..b." := by decide
  have hresolve : resolve "...C" "a..b." = Text.ofString "a.C" := by decide
  have hascend := resolve_eq_ascend "...C" hbase
  rw [if_pos (by decide), hresolve] at hascend
  exact ⟨hbase, hresolve, hascend.symm⟩

/-- The empty segment in front of a base is kept as a segment, and lost as a text. -/
example : resolve ".C" ".a" = Text.ofString ".C" ∧ ascend ".C" ".a" = Text.ofString "C" := by decide

end Import
end GameArchive
