import GameArchive.Proofs.Text.Basic

/-!
# Words and gaps

A text is words with gaps between them and perhaps around them. The words of a text are all that
such a reading can give, so a text has one reading only.
-/

namespace GameArchive
namespace Text

/-- All characters are of one kind. -/
def Run (p : CodePoint → Bool) (t : Text) : Prop := ∀ c ∈ t, p c = true

instance (p : CodePoint → Bool) (t : Text) : Decidable (Run p t) :=
  inferInstanceAs (Decidable (∀ c ∈ t, p c = true))

/-- One or more characters of one kind. -/
def Gap (p : CodePoint → Bool) (t : Text) : Prop := t ≠ [] ∧ Run p t

instance (p : CodePoint → Bool) (t : Text) : Decidable (Gap p t) :=
  inferInstanceAs (Decidable (t ≠ [] ∧ Run p t))

/-- One or more characters, none of them blank. -/
def IsWord (blank : CodePoint → Bool) (t : Text) : Prop := t ≠ [] ∧ ∀ c ∈ t, blank c = false

/-- Characters of a class without blank ones make a word. -/
theorem IsWord.of_disjoint {blank part : CodePoint → Bool} {t : Text} (hne : t ≠ [])
    (hpart : ∀ c ∈ t, part c = true) (hblank : ∀ c, blank c = true → part c = false) :
    IsWord blank t := by
  refine ⟨hne, ?_⟩
  intro c hc
  rw [← Bool.not_eq_true]
  intro hc'
  have hboth := hpart c hc
  rw [hblank c hc'] at hboth
  contradiction

/-- Ends here, or goes on with a character of the kind. -/
def Stops (p : CodePoint → Bool) (t : Text) : Prop := ∀ c ∈ t.head?, p c = true

/-- The text is made of the words, with gaps between each two. -/
inductive Spaced (blank : CodePoint → Bool) : Text → List Text → Prop where
  | none {gap : Text} : Run blank gap → Spaced blank gap []
  | word {gap word rest : Text} {words : List Text} : Run blank gap → IsWord blank word →
      Stops blank rest → Spaced blank rest words →
      Spaced blank (gap ++ (word ++ rest)) (word :: words)

section Run

variable {p : CodePoint → Bool} {s t : Text}

@[simp] theorem run_nil : Run p [] := by simp [Run]

@[simp] theorem run_cons {c : CodePoint} : Run p (c :: t) ↔ p c = true ∧ Run p t := by simp [Run]

theorem Gap.run (h : Gap p t) : Run p t := h.2

theorem Gap.stops (h : Gap p s) : Stops p (s ++ t) := by
  obtain ⟨c, rest, rfl⟩ := List.exists_cons_of_ne_nil h.1
  simpa [Stops] using h.2 c

@[simp] theorem stops_nil : Stops p [] := by simp [Stops]

theorem Run.stops (h : Run p t) : Stops p t := by
  cases t with
  | nil => exact stops_nil
  | cons c rest => simpa [Stops] using h c

end Run

variable {blank : CodePoint → Bool}

/-! ## From a reading to the words -/

theorem wordsAux_gap {gap : Text} (h : Run blank gap) (rest : Text) :
    wordsAux blank [] (gap ++ rest) = wordsAux blank [] rest := by
  induction gap with
  | nil => rfl
  | cons c gap ih =>
    rw [run_cons] at h
    simp [wordsAux, h.1, ih h.2]

theorem wordsAux_word {word : Text} (h : ∀ c ∈ word, blank c = false) (before rest : Text) :
    wordsAux blank before (word ++ rest) = wordsAux blank (word.reverse ++ before) rest := by
  induction word generalizing before with
  | nil => rfl
  | cons c word ih =>
    have hc : blank c = false := h c List.mem_cons_self
    have hword := ih (fun d hd => h d (List.mem_cons_of_mem c hd)) (c :: before)
    simpa [wordsAux, hc] using hword

theorem wordsAux_stop {before rest : Text} (hne : before ≠ []) (h : Stops blank rest) :
    wordsAux blank before rest = before.reverse :: wordsAux blank [] rest := by
  cases rest with
  | nil => simp [wordsAux, hne]
  | cons c rest =>
    have hc : blank c = true := h c rfl
    simp [wordsAux, hc, hne]

theorem Spaced.words_eq {t : Text} {ws : List Text} (h : Spaced blank t ws) :
    words blank t = ws := by
  unfold words
  induction h with
  | @none gap hgap =>
    have h := wordsAux_gap hgap []
    rw [List.append_nil] at h
    exact h
  | @word gap word rest ws hgap hword hstop _ ih =>
    have hne : word.reverse ++ [] ≠ [] := by simpa using hword.1
    rw [wordsAux_gap hgap, wordsAux_word hword.2, wordsAux_stop hne hstop, ih]
    simp

/-- Behind a word that ends, the next one has a gap before it. -/
theorem Spaced.next {t word : Text} {ws : List Text} (h : Spaced blank t (word :: ws))
    (hstop : Stops blank t) : ∃ gap rest : Text, t = gap ++ (word ++ rest) ∧ Gap blank gap ∧
      IsWord blank word ∧ Stops blank rest ∧ Spaced blank rest ws := by
  cases h with
  | @word gap word rest ws hgap hword hrest hspaced =>
    refine ⟨gap, rest, rfl, ⟨?_, hgap⟩, hword, hrest, hspaced⟩
    rintro rfl
    obtain ⟨c, letters, rfl⟩ := List.exists_cons_of_ne_nil hword.1
    have hblank : blank c = true := hstop c rfl
    rw [hword.2 c List.mem_cons_self] at hblank
    contradiction

theorem Spaced.run {t : Text} (h : Spaced blank t []) : Run blank t := by
  cases h with
  | none hgap => exact hgap

/-! ## From the words to a reading -/

theorem Spaced.cons_blank {c : CodePoint} {t : Text} {ws : List Text} (hc : blank c = true)
    (h : Spaced blank t ws) : Spaced blank (c :: t) ws := by
  cases h with
  | none hgap => exact .none (run_cons.mpr ⟨hc, hgap⟩)
  | @word gap word rest ws hgap hword hstop hrest =>
    have hmore : Run blank (c :: gap) := run_cons.mpr ⟨hc, hgap⟩
    exact Spaced.word hmore hword hstop hrest

/-- A word that has been read so far goes on or ends at the next character. -/
theorem spaced_wordsAux (before t : Text) (h : ∀ c ∈ before, blank c = false) :
    Spaced blank (before.reverse ++ t) (wordsAux blank before t) := by
  induction t generalizing before with
  | nil =>
    by_cases hne : before = []
    · subst hne
      exact .none run_nil
    · have hword : IsWord blank before.reverse := ⟨by simpa using hne, by simpa using h⟩
      have hread := Spaced.word run_nil hword stops_nil (.none run_nil)
      simpa [wordsAux, hne] using hread
  | cons c rest ih =>
    cases hc : blank c with
    | true =>
      have hrest : Spaced blank (c :: rest) (wordsAux blank [] rest) :=
        (ih [] (by simp)).cons_blank hc
      by_cases hne : before = []
      · subst hne
        simpa [wordsAux, hc] using hrest
      · have hword : IsWord blank before.reverse := ⟨by simpa using hne, by simpa using h⟩
        have hstop : Stops blank (c :: rest) := by simpa [Stops] using hc
        have hread := Spaced.word run_nil hword hstop hrest
        simpa [wordsAux, hc, hne] using hread
    | false =>
      have hmore : ∀ d ∈ c :: before, blank d = false := by
        intro d hd
        rcases List.mem_cons.mp hd with rfl | hd
        · exact hc
        · exact h d hd
      simpa [wordsAux, hc] using ih (c :: before) hmore

theorem words_eq_iff {t : Text} {ws : List Text} : words blank t = ws ↔ Spaced blank t ws := by
  constructor
  · rintro rfl
    exact spaced_wordsAux [] t (by simp)
  · exact Spaced.words_eq

end Text
end GameArchive
