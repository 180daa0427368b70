import GameArchive.Text.Basic
import Mathlib.Data.List.Lex

/-!
# The order of texts

Texts are ordered like words in a dictionary, by the numbers of their code points. Sorted texts are
in that order, and strictly so if no two of them are equal.
-/

namespace GameArchive
namespace Text

/-- Comes before in the order by code points. -/
def Before : Text → Text → Prop := List.Lex fun a b : CodePoint => a.val < b.val

instance : Std.Asymm fun a b : CodePoint => a.val < b.val :=
  ⟨fun _ _ h h' => Nat.lt_asymm h h'⟩

instance : Std.Trichotomous fun a b : CodePoint => a.val < b.val := by
  constructor
  intro ⟨a, ha⟩ ⟨b, hb⟩ h h'
  have heq : a = b := Nat.le_antisymm (Nat.not_lt.mp h') (Nat.not_lt.mp h)
  subst heq
  rfl

instance : IsOrderConnected CodePoint fun a b => a.val < b.val :=
  ⟨fun a b c h => by
    rcases Nat.lt_or_ge a.val b.val with hab | hba
    · exact .inl hab
    · exact .inr (Nat.lt_of_le_of_lt hba h)⟩

instance : Std.Asymm Before := List.Lex.asymm _

instance : Std.Trichotomous Before := List.Lex.trichotomous _

instance : IsOrderConnected Text Before := List.Lex.isOrderConnected _

theorem lt_iff_before {s t : Text} : lt s t = true ↔ Before s t := by
  induction s generalizing t with
  | nil =>
    cases t with
    | nil => exact ⟨nofun, nofun⟩
    | cons b t => exact ⟨fun _ => .nil, fun _ => rfl⟩
  | cons a s ih =>
    cases t with
    | nil => exact ⟨nofun, nofun⟩
    | cons b t =>
      rw [lt, Bool.or_eq_true, Bool.and_eq_true, decide_eq_true_eq, decide_eq_true_eq, ih]
      constructor
      · rintro (h | ⟨rfl, h⟩)
        · exact .rel h
        · exact .cons h
      · rintro (_ | h | h)
        · exact .inl h
        · exact .inr ⟨rfl, h⟩

instance : DecidableRel Before := fun _ _ => decidable_of_iff _ lt_iff_before

theorem lt_eq_false_iff {s t : Text} : lt s t = false ↔ ¬Before s t := by
  rw [← lt_iff_before, Bool.not_eq_true]

theorem perm_sort (texts : List Text) : (sort texts).Perm texts := List.mergeSort_perm _ _

theorem pairwise_sort (texts : List Text) : (sort texts).Pairwise fun s t => ¬Before t s := by
  have hsorted : (sort texts).Pairwise fun s t => (!lt t s) = true := by
    apply List.pairwise_mergeSort
    · intro a b c hab hbc
      rw [Bool.not_eq_true', lt_eq_false_iff] at *
      intro hca
      rcases IsOrderConnected.conn c b a hca with hcb | hba
      · exact hbc hcb
      · exact hab hba
    · intro a b
      simp only [Bool.or_eq_true, Bool.not_eq_true', lt_eq_false_iff]
      by_cases hba : Before b a
      · exact .inr (Std.Asymm.asymm _ _ hba)
      · exact .inl hba
  refine hsorted.imp fun {s t} h => ?_
  rwa [Bool.not_eq_true', lt_eq_false_iff] at h

/-- Texts of which no two are equal are sorted strictly. -/
theorem pairwise_sort_of_nodup {texts : List Text} (h : texts.Nodup) :
    (sort texts).Pairwise Before := by
  have hnodup := (perm_sort texts).nodup_iff.mpr h
  refine (pairwise_sort texts).imp₂ (fun s t hnot hne => ?_) hnodup
  by_contra hbefore
  exact hne (Std.Trichotomous.trichotomous s t hbefore hnot)

/-- There is one way to sort texts. -/
theorem sort_eq_of_perm {texts sorted : List Text} (hperm : texts.Perm sorted)
    (hsorted : sorted.Pairwise Before) : sort texts = sorted := by
  refine List.Perm.eq_of_pairwise (fun s t _ _ hst hts => ?_) (pairwise_sort texts)
    (hsorted.imp fun hbefore => Std.Asymm.asymm _ _ hbefore) ((perm_sort texts).trans hperm)
  exact Std.Trichotomous.trichotomous s t hts hst

end Text
end GameArchive
