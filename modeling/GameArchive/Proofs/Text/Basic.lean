import GameArchive.Text.Basic
import Mathlib.Data.List.DropRight

/-!
# Beginnings and endings

What is left of a text behind a beginning, and before an ending of characters of one kind.
-/

namespace GameArchive
namespace Text

theorem afterPrefix?_eq_some {start t rest : Text} :
    afterPrefix? start t = some rest ↔ t = start ++ rest := by
  rw [afterPrefix?, List.isPrefixOf?_eq_some_iff_append_eq, eq_comm]

theorem trimEnd_eq_rdropWhile (p : CodePoint → Bool) (t : Text) :
    trimEnd p t = t.rdropWhile p := rfl

/-- An ending of one kind is cut off as far as the kind reaches. -/
theorem trimEnd_append {p : CodePoint → Bool} {body ending : Text} (h : ∀ c ∈ ending, p c = true) :
    trimEnd p (body ++ ending) = trimEnd p body := by
  rw [trimEnd, trimEnd, List.reverse_append, List.dropWhile_append_of_pos]
  intro c hc
  exact h c (List.mem_reverse.mp hc)

theorem trimEnd_concat_of_neg {p : CodePoint → Bool} {body : Text} {c : CodePoint}
    (h : p c = false) : trimEnd p (body ++ [c]) = body ++ [c] := by
  rw [trimEnd_eq_rdropWhile, List.rdropWhile_concat_neg]
  simp [h]

/-- A text is what is left of it and an ending of the kind. -/
theorem exists_trimEnd_append (p : CodePoint → Bool) (t : Text) :
    ∃ ending : Text, t = trimEnd p t ++ ending ∧ ∀ c ∈ ending, p c = true :=
  ⟨t.rtakeWhile p, (List.rdropWhile_append_rtakeWhile).symm, fun _ hc => List.mem_rtakeWhile_imp hc⟩

end Text
end GameArchive
