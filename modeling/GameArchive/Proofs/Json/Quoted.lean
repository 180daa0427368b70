import GameArchive.Json.Printer
import GameArchive.Proofs.Text.Utf8

/-!
# Texts in quotes

What stands for one character inside quotes is read as that character, so a text in quotes is read
back, whatever follows. The quotes hold no surrogate that the text does not hold.
-/

namespace GameArchive
namespace Json

theorem printable_cases (c : CodePoint) :
    (∃ letter, shortEscape? c = some letter ∧ CodePoint.ofChar letter ≠ CodePoint.ofChar 'u' ∧
      Reader.shortEscape? (CodePoint.ofChar letter) = some c) ∨
    shortEscape? c = none ∧ c ≠ CodePoint.ofChar '"' ∧ c ≠ CodePoint.ofChar '\\' := by
  have hofNat : ∀ n, c.val = n → c = CodePoint.ofNat n := by
    rintro n rfl
    exact (CodePoint.ofNat_val c).symm
  unfold shortEscape?
  split
  · next h => exact .inl ⟨'"', rfl, by decide, by rw [h]; rfl⟩
  split
  · next h => exact .inl ⟨'\\', rfl, by decide, by rw [h]; rfl⟩
  next hquote hbackslash =>
  split
  · next h => exact .inl ⟨'n', rfl, by decide, by rw [h]; rfl⟩
  split
  · next h => exact .inl ⟨'r', rfl, by decide, by rw [h]; rfl⟩
  split
  · next h => exact .inl ⟨'t', rfl, by decide, by rw [h]; rfl⟩
  split
  · next h => exact .inl ⟨'f', rfl, by decide, by rw [hofNat _ h]; rfl⟩
  split
  · next h => exact .inl ⟨'b', rfl, by decide, by rw [hofNat _ h]; rfl⟩
  · exact .inr ⟨rfl, hquote, hbackslash⟩

namespace Reader

/-- The digits of a control character, before more text. -/
theorem unicodeEscape?_ofHex {n : Nat} (h : n < 0x20) {more : Text} (hmore : more ≠ []) :
    unicodeEscape? (Text.ofHex 4 n ++ more) = some (CodePoint.ofNat n, more) := by
  have hdigits : ∀ n < 0x20, hex4? (CodePoint.ofHexValue (n / 16 / 16 / 16 % 16))
      (CodePoint.ofHexValue (n / 16 / 16 % 16)) (CodePoint.ofHexValue (n / 16 % 16))
      (CodePoint.ofHexValue (n % 16)) = some n := by decide +kernel
  obtain ⟨next, rest, rfl⟩ := List.exists_cons_of_ne_nil hmore
  simp [Text.ofHex, unicodeEscape?, hdigits n h]

theorem stringBody_quote (opening : Text) (fuel : Nat) (rest : Text) :
    stringBody opening (fuel + 1) (CodePoint.ofChar '"' :: rest) = .ok ([], rest) := by
  rw [stringBody.eq_def]
  exact if_pos rfl

theorem stringBody_printable (opening : Text) (fuel : Nat) {c : CodePoint} (rest : Text)
    (hquote : c ≠ CodePoint.ofChar '"') (hcontrol : ¬c.val < 0x20)
    (hbackslash : c ≠ CodePoint.ofChar '\\') :
    stringBody opening (fuel + 1) (c :: rest) =
      (stringBody opening fuel rest).map fun (t, r) => (c :: t, r) := by
  rw [stringBody.eq_def]
  simp only [if_neg hquote, if_neg hcontrol, if_neg hbackslash]

/-- What stands for a character inside quotes is read as it. -/
theorem stringBody_escapeChar (opening : Text) (fuel : Nat) (c : CodePoint) {more : Text}
    (hmore : more ≠ []) :
    stringBody opening (fuel + 1) (escapeChar c ++ more) =
      (stringBody opening fuel more).map fun (t, rest) => (c :: t, rest) := by
  unfold escapeChar
  obtain ⟨letter, hletter, hu, hread⟩ | ⟨hnone, hquote, hbackslash⟩ := printable_cases c
  · rw [hletter]
    simp only [List.cons_append, List.nil_append]
    rw [stringBody, if_neg (by decide), if_neg (by decide), if_pos rfl]
    simp only [if_neg hu, hread]
  rw [hnone]
  dsimp only
  split
  · next hcontrol =>
    have hescape : Text.ofString "\\u" = [CodePoint.ofChar '\\', CodePoint.ofChar 'u'] := rfl
    have hhigh : c.isHighSurrogate = false := by
      rw [CodePoint.isHighSurrogate, Bool.and_eq_false_iff]
      exact .inl (decide_eq_false (by omega))
    rw [hescape]
    simp only [List.cons_append, List.nil_append]
    rw [stringBody, if_neg (by decide), if_neg (by decide), if_pos rfl]
    simp only [if_true, unicodeEscape?_ofHex hcontrol hmore, hhigh, CodePoint.ofNat_val]
    rfl
  · next hcontrol => exact stringBody_printable opening fuel more hquote hcontrol hbackslash

theorem stringBody_escaped (opening : Text) {fuel : Nat} {t : Text} (h : t.length < fuel)
    (rest : Text) :
    stringBody opening fuel (t.flatMap escapeChar ++ CodePoint.ofChar '"' :: rest) =
      .ok (t, rest) := by
  induction t generalizing fuel with
  | nil =>
    obtain ⟨fuel, rfl⟩ := Nat.exists_eq_succ_of_ne_zero (Nat.ne_of_gt h)
    exact stringBody_quote opening fuel rest
  | cons c t ih =>
    rw [List.length_cons] at h
    obtain ⟨fuel, rfl⟩ := Nat.exists_eq_succ_of_ne_zero (Nat.ne_of_gt (Nat.zero_lt_of_lt h))
    rw [List.flatMap_cons, List.append_assoc, stringBody_escapeChar _ _ _ (by simp),
      ih (Nat.lt_of_succ_lt_succ h)]
    rfl

end Reader

theorem quote_append (t rest : Text) :
    quote t ++ rest =
      CodePoint.ofChar '"' :: (t.flatMap escapeChar ++ CodePoint.ofChar '"' :: rest) := by
  simp [quote, Text.ofString]

theorem escapeChar_ne_nil (c : CodePoint) : escapeChar c ≠ [] := by
  unfold escapeChar
  split
  · simp
  · split
    · simp [Text.ofString]
    · simp

theorem length_le_length_escaped (t : Text) : t.length ≤ (t.flatMap escapeChar).length := by
  induction t with
  | nil => exact Nat.le_refl _
  | cons c t ih =>
    have hc := List.length_pos_iff.mpr (escapeChar_ne_nil c)
    rw [List.flatMap_cons, List.length_append, List.length_cons]
    omega

/-- A text in quotes is read back. -/
theorem Reader.string_quote (t rest : Text) : Reader.string (quote t ++ rest) = .ok (t, rest) := by
  have hlength := length_le_length_escaped t
  rw [Reader.string, quote_append, List.tail_cons]
  refine stringBody_escaped _ ?_ rest
  rw [List.length_cons, List.length_append]
  omega

/-! ## Surrogates -/

open Utf8

theorem escapeChar_of_isSurrogate {c : CodePoint} (h : c.isSurrogate = true) :
    escapeChar c = [c] := by
  have hval : 0xd800 ≤ c.val := by
    simp only [CodePoint.isSurrogate, Bool.and_eq_true, decide_eq_true_eq] at h
    exact h.1
  have hne : ∀ d : Char, c ≠ CodePoint.ofChar d := by
    rintro d rfl
    rw [isSurrogate_ofChar] at h
    contradiction
  have hnone : shortEscape? c = none := by
    rw [shortEscape?, if_neg (hne _), if_neg (hne _), if_neg (hne _), if_neg (hne _),
      if_neg (hne _), if_neg (by omega), if_neg (by omega)]
  simp only [escapeChar, hnone, if_neg (show ¬c.val < 0x20 by omega)]

theorem isEncodable_escapeChar (c : CodePoint) :
    IsEncodable (escapeChar c) ↔ c.isSurrogate = false := by
  cases hc : c.isSurrogate with
  | true => simp [escapeChar_of_isSurrogate hc, hc]
  | false =>
    refine iff_of_true ?_ rfl
    unfold escapeChar
    split
    · simp [isSurrogate_ofChar]
    · split
      · simp [isEncodable_ofHex]
      · simpa using hc

/-- The quotes hold the surrogates of the text. -/
theorem isEncodable_quote {t : Text} : IsEncodable (quote t) ↔ IsEncodable t := by
  have hescaped : IsEncodable (t.flatMap escapeChar) ↔ IsEncodable t := by
    induction t with
    | nil => exact Iff.rfl
    | cons c t ih =>
      rw [List.flatMap_cons, isEncodable_append, isEncodable_cons, ih, isEncodable_escapeChar]
  simp [quote, hescaped]

end Json
end GameArchive
