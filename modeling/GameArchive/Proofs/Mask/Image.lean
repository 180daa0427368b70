import GameArchive.Proofs.Mask
import Mathlib.Data.List.Forall2

/-!
# The masked texts

Which texts come out of masking is said here by the forms of their lines, as a reader of the text
sees them: a line of masked form that could be masked already has its mask. Masking undoes unmasking
on these texts and on no others.
-/

namespace GameArchive
namespace Mask

open Text (breaks)

/-! ## The forms of lines -/

/-- Double slashes and then a number sign. -/
def HasDirectiveForm (line : Text) : Prop :=
  ∃ count rest, line = (List.replicate count slashes).flatten ++ CodePoint.ofChar '#' :: rest

/-- The letters of `import` or of `from`, in any case. -/
def IsKeyword (word : Text) : Prop :=
  ∃ letters ∈ [['i', 'm', 'p', 'o', 'r', 't'], ['f', 'r', 'o', 'm']],
    List.Forall₂ (fun letter c => matchesLetter letter c = true) letters word

/-- The text starts with a keyword, which is a whole word of it. -/
def StartsWithKeyword (t : Text) : Prop :=
  ∃ word rest, IsKeyword word ∧ (∀ c ∈ rest.head?, c.isWord = false) ∧ t = word ++ rest

def IsBlank (piece : Text) : Prop := piece = " " ∨ piece = "\t"

/-- A keyword behind any number of such pieces. -/
def HasKeywordBehind (IsFiller : Text → Prop) (line : Text) : Prop :=
  ∃ (pieces : List Text) (rest : Text), (∀ piece ∈ pieces, IsFiller piece) ∧
    StartsWithKeyword rest ∧ line = pieces.flatten ++ rest

/-- Blanks and double slashes, in any order, and then a keyword. -/
def HasImportForm (line : Text) : Prop :=
  HasKeywordBehind (fun piece => IsBlank piece ∨ piece = slashes) line

/-! ## The forms against the executable tests -/

theorem isDirective_of_form {line : Text} (h : HasDirectiveForm line) :
    isDirective line = true := by
  obtain ⟨count, rest, rfl⟩ := h
  induction count with
  | zero => cases rest <;> rfl
  | succ count ih =>
    rw [List.replicate_succ, List.flatten_cons, List.append_assoc, isDirective_ignoresMask]
    exact ih

theorem form_of_isDirective {line : Text} (h : isDirective line = true) :
    HasDirectiveForm line := by
  induction line using isDirective.induct with
  | case1 c d rest hslash ih =>
    obtain ⟨rfl, rfl⟩ := hslash
    obtain ⟨count, rest, rfl⟩ := ih h
    exact ⟨count + 1, rest, by rw [List.replicate_succ, List.flatten_cons, List.append_assoc]; rfl⟩
  | case2 c d rest hslash =>
    rw [isDirective, if_neg hslash, decide_eq_true_eq] at h
    exact ⟨0, d :: rest, by rw [h]; rfl⟩
  | case3 c =>
    rw [isDirective, decide_eq_true_eq] at h
    exact ⟨0, [], by rw [h]; rfl⟩
  | case4 => exact absurd h Bool.false_ne_true

theorem isDirective_iff {line : Text} : isDirective line = true ↔ HasDirectiveForm line :=
  ⟨form_of_isDirective, isDirective_of_form⟩

theorem startsWithWord_iff {letters : List Char} {t : Text} :
    startsWithWord letters t = true ↔
      ∃ word rest, List.Forall₂ (fun letter c => matchesLetter letter c = true) letters word ∧
        (∀ c ∈ rest.head?, c.isWord = false) ∧ t = word ++ rest := by
  induction letters generalizing t with
  | nil =>
    have hword : startsWithWord [] t = true ↔ ∀ c ∈ t.head?, c.isWord = false := by
      cases t <;> simp [startsWithWord]
    simp [hword, List.forall₂_nil_left_iff]
  | cons letter letters ih =>
    constructor
    · intro h
      cases t with
      | nil => simp [startsWithWord] at h
      | cons c t =>
        rw [startsWithWord, Bool.and_eq_true, ih] at h
        obtain ⟨hletter, word, rest, hword, hrest, rfl⟩ := h
        exact ⟨c :: word, rest, .cons hletter hword, hrest, rfl⟩
    · rintro ⟨word, rest, hword, hrest, rfl⟩
      cases hword with
      | cons hletter hword =>
        rw [List.cons_append, startsWithWord, Bool.and_eq_true, ih]
        exact ⟨hletter, _, rest, hword, hrest, rfl⟩

theorem startsWithKeyword_iff {t : Text} : startsWithKeyword t = true ↔ StartsWithKeyword t := by
  rw [startsWithKeyword, Bool.or_eq_true, startsWithWord_iff, startsWithWord_iff]
  constructor
  · rintro (⟨word, rest, hword, h⟩ | ⟨word, rest, hword, h⟩)
    · exact ⟨word, rest, ⟨_, .head _, hword⟩, h⟩
    · exact ⟨word, rest, ⟨_, .tail _ (.head _), hword⟩, h⟩
  · rintro ⟨word, rest, ⟨letters, hletters, hword⟩, h⟩
    rcases List.mem_pair.mp hletters with rfl | rfl
    · exact .inl ⟨word, rest, hword, h⟩
    · exact .inr ⟨word, rest, hword, h⟩

/-- A keyword starts with a letter, so with nothing that may stand before it. -/
theorem StartsWithKeyword.exists_cons {t : Text} (h : StartsWithKeyword t) :
    ∃ c rest, t = c :: rest ∧
      c ≠ CodePoint.ofChar ' ' ∧ c ≠ CodePoint.ofChar '\t' ∧ c ≠ CodePoint.ofChar '/' := by
  obtain ⟨word, rest, ⟨letters, hletters, hword⟩, -, rfl⟩ := h
  have hfirst : ∀ letter ∈ letters.head?, letter = 'i' ∨ letter = 'f' := by
    rcases List.mem_pair.mp hletters with rfl | rfl <;> simp
  cases hword with
  | nil => simp at hletters
  | @cons letter c letters word hletter _ =>
    refine ⟨c, word ++ rest, rfl, ?_, ?_, ?_⟩ <;>
    · rintro rfl
      rcases hfirst letter rfl with rfl | rfl <;> exact absurd hletter (by decide)

theorem isImport_filler {piece : Text} (h : IsBlank piece ∨ piece = slashes) (line : Text) :
    isImport (piece ++ line) = isImport line := by
  rcases h with (rfl | rfl) | rfl
  · exact isImport.eq_def _
  · exact isImport.eq_def _
  · exact isImport_ignoresMask line

theorem isImport_of_startsWithKeyword {line : Text} (h : StartsWithKeyword line) :
    isImport line = true := by
  obtain ⟨c, rest, rfl, hspace, htab, hslash⟩ := h.exists_cons
  rw [isImport.eq_def]
  simp only [hspace, htab, hslash, or_self, false_and, if_false]
  cases rest <;> exact startsWithKeyword_iff.mpr h

theorem isImport_of_form {line : Text} (h : HasImportForm line) : isImport line = true := by
  obtain ⟨pieces, rest, hpieces, hrest, rfl⟩ := h
  induction pieces with
  | nil => exact isImport_of_startsWithKeyword hrest
  | cons piece pieces ih =>
    rw [List.forall_mem_cons] at hpieces
    rw [List.flatten_cons, List.append_assoc, isImport_filler hpieces.1]
    exact ih hpieces.2

theorem HasImportForm.filler {piece line : Text} (hpiece : IsBlank piece ∨ piece = slashes)
    (h : HasImportForm line) : HasImportForm (piece ++ line) := by
  obtain ⟨pieces, rest, hpieces, hrest, rfl⟩ := h
  refine ⟨piece :: pieces, rest, List.forall_mem_cons.mpr ⟨hpiece, hpieces⟩, hrest, ?_⟩
  rw [List.flatten_cons, List.append_assoc]

theorem form_of_isImport {line : Text} (h : isImport line = true) : HasImportForm line := by
  have hkeyword : ∀ {t : Text}, startsWithKeyword t = true → HasImportForm t := by
    intro t ht
    exact ⟨[], t, by simp, startsWithKeyword_iff.mp ht, rfl⟩
  induction line using isImport.induct with
  | case1 => exact absurd h Bool.false_ne_true
  | case2 c rest hblank ih =>
    rw [isImport.eq_def] at h
    simp only [if_pos hblank] at h
    have hpiece : IsBlank [c] := by
      rcases hblank with rfl | rfl
      · exact .inl rfl
      · exact .inr rfl
    exact (ih h).filler (.inl hpiece)
  | case3 c hblank d rest hslash ih =>
    obtain ⟨rfl, rfl⟩ := hslash
    exact (ih h).filler (.inr rfl)
  | case4 c hblank d rest hslash =>
    rw [isImport.eq_def] at h
    simp only [if_neg hblank, if_neg hslash] at h
    exact hkeyword h
  | case5 c hblank =>
    rw [isImport.eq_def] at h
    simp only [if_neg hblank] at h
    exact hkeyword h

theorem isImport_iff {line : Text} : isImport line = true ↔ HasImportForm line :=
  ⟨form_of_isImport, isImport_of_form⟩

theorem isMarked_iff {line : Text} :
    isMarked line = true ↔ HasDirectiveForm line ∨ HasImportForm line := by
  rw [isMarked, Bool.or_eq_true, isDirective_iff, isImport_iff]

/-! ## Lines that are masked already -/

/-- The line is none to be masked, or it has a mask. -/
def IsSettled (line : Text) : Prop := isMarked line = true → slashes <+: line

theorem isSettled_maskLine (line : Text) : IsSettled (maskLine isMarked line) := by
  intro h
  cases hline : isMarked line with
  | true =>
    rw [maskLine_of_marked hline]
    exact List.prefix_append slashes line
  | false =>
    rw [maskLine_of_not_marked hline, hline] at h
    exact absurd h Bool.false_ne_true

/-- What lies under the mask of a marked line is marked too, so that taking the mask off does not
change what masking does there. -/
theorem maskLine_unmaskLine_iff {line : Text} :
    maskLine isMarked (unmaskLine isMarked line) = line ↔ IsSettled line := by
  constructor
  · intro h
    rw [← h]
    exact isSettled_maskLine _
  · intro h
    by_cases hmasked : IsMasked line
    · obtain ⟨inner, rfl, hinner⟩ := hmasked
      rw [unmaskLine_masked hinner, maskLine_of_marked hinner]
    · rw [unmaskLine_eq_self_iff.mpr hmasked]
      apply maskLine_of_not_marked
      rw [← Bool.not_eq_true]
      intro hline
      obtain ⟨inner, rfl⟩ := h hline
      exact hmasked ⟨inner, rfl, by rwa [isMarked_ignoresMask] at hline⟩

theorem IsSettled.head?_eq {line : Text} (h : IsSettled line) (hline : isMarked line = true) :
    line.head? = some (CodePoint.ofChar '/') := by
  obtain ⟨inner, rfl⟩ := h hline
  rfl

/-! ## Whole texts -/

theorem breaks_sanitize_unsanitize (code : Text) : breaks (sanitize (unsanitize code)) =
    (breaks code).map (fun line => maskLine isMarked (unmaskLine isMarked line)) := by
  rw [sanitize_eq, breaks_maskLines, unsanitize_eq, breaks_unmaskLines, List.map_map]
  rfl

theorem sanitize_unsanitize_iff_isSettled {code : Text} :
    sanitize (unsanitize code) = code ↔ ∀ line ∈ breaks code, IsSettled line := by
  have hbreaks : sanitize (unsanitize code) = code ↔
      breaks (sanitize (unsanitize code)) = breaks code := by
    constructor
    · intro h
      rw [h]
    · intro h
      rw [← Text.join_breaks (sanitize (unsanitize code)), h, Text.join_breaks]
  rw [hbreaks, breaks_sanitize_unsanitize, map_breaks_eq_self_iff]
  simp only [maskLine_unmaskLine_iff]

theorem exists_sanitize_eq_iff {code : Text} :
    (∃ source, sanitize source = code) ↔ sanitize (unsanitize code) = code := by
  constructor
  · rintro ⟨source, rfl⟩
    rw [unsanitize_sanitize]
  · intro h
    exact ⟨unsanitize code, h⟩

theorem isSettled_of_mem_breaks {source line : Text} (h : line ∈ breaks (sanitize source)) :
    IsSettled line :=
  sanitize_unsanitize_iff_isSettled.mp (exists_sanitize_eq_iff.mp ⟨source, rfl⟩) line h

/-- A masked text has no line that starts with a number sign, or with blanks and a keyword. -/
theorem not_starts_of_mem_breaks {source line : Text} (h : line ∈ breaks (sanitize source)) :
    line.head? ≠ some (CodePoint.ofChar '#') ∧
      ¬HasKeywordBehind IsBlank line := by
  have hsettled := isSettled_of_mem_breaks h
  constructor
  · intro hhead
    obtain ⟨rest, rfl⟩ : ∃ rest, line = CodePoint.ofChar '#' :: rest := by
      cases line with
      | nil => simp at hhead
      | cons c rest => exact ⟨rest, by rw [Option.some.inj hhead]⟩
    have hslash := hsettled.head?_eq (isMarked_iff.mpr (.inl ⟨0, rest, rfl⟩))
    exact absurd (Option.some.inj hslash) (by decide)
  · rintro ⟨blanks, rest, hblanks, hrest, rfl⟩
    have hform : HasImportForm (blanks.flatten ++ rest) :=
      ⟨blanks, rest, fun piece hpiece => .inl (hblanks piece hpiece), hrest, rfl⟩
    have hslash := hsettled.head?_eq (isMarked_iff.mpr (.inr hform))
    cases blanks with
    | nil =>
      obtain ⟨c, rest, rfl, -, -, hc⟩ := hrest.exists_cons
      exact hc (Option.some.inj hslash)
    | cons piece blanks =>
      rcases hblanks piece (.head _) with rfl | rfl <;>
        exact absurd (Option.some.inj hslash) (by decide)

/-- Masking undoes unmasking on the masked texts and on these only, and a text is one of them when
each line of a form to be masked starts with a mask. So no line of a masked text starts with a number
sign, or with a keyword behind nothing but blanks. -/
theorem sanitize_unsanitize_eq_iff (code : Text) :
    (sanitize (unsanitize code) = code ↔ ∃ source, sanitize source = code) ∧
      ((∃ source, sanitize source = code) ↔
        ∀ line ∈ breaks code, HasDirectiveForm line ∨ HasImportForm line → slashes <+: line) ∧
      ∀ source, ∀ line ∈ breaks (sanitize source),
        line.head? ≠ some (CodePoint.ofChar '#') ∧
          ¬HasKeywordBehind IsBlank line := by
  refine ⟨exists_sanitize_eq_iff.symm, ?_, ?_⟩
  · rw [exists_sanitize_eq_iff, sanitize_unsanitize_iff_isSettled]
    simp only [IsSettled, isMarked_iff]
  · intro source line hline
    exact not_starts_of_mem_breaks hline

end Mask
end GameArchive
