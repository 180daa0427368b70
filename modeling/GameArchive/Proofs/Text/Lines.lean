import GameArchive.Proofs.Text.Breaks

/-!
# Lines and their endings

A text is lines that hold no line end, with an ending behind each but perhaps the last one. The
lines of a text are all that such a reading can give.
-/

namespace GameArchive
namespace Text

/-- What ends a line before the rest of a text: a carriage return and the line feed behind it, or
any other line end. -/
inductive Ending : Text → Text → Prop where
  | both {rest : Text} : Ending [CodePoint.ofChar '\r', CodePoint.ofChar '\n'] rest
  | one {c : CodePoint} {rest : Text} : c.isLineEnd = true →
      ¬(c = '\r' ∧ rest.head? = some (CodePoint.ofChar '\n')) → Ending [c] rest

/-- No line ends within the text. -/
def WithoutEnd (t : Text) : Prop := ∀ c ∈ t, c.isLineEnd = false

instance (t : Text) : Decidable (WithoutEnd t) :=
  inferInstanceAs (Decidable (∀ c ∈ t, c.isLineEnd = false))

/-- The text is made of the lines. -/
inductive Lined : Text → List Text → Prop where
  | none : Lined [] []
  | last {line : Text} : line ≠ [] → WithoutEnd line → Lined line [line]
  | line {line ending rest : Text} {lines : List Text} : WithoutEnd line → Ending ending rest →
      Lined rest lines → Lined (line ++ (ending ++ rest)) (line :: lines)

theorem isLineEnd_carriageReturn : (CodePoint.ofChar '\r').isLineEnd = true := by decide

theorem linesAux_text {line : Text} (h : WithoutEnd line) (before rest : Text) :
    linesAux before (line ++ rest) = linesAux (line.reverse ++ before) rest := by
  induction line generalizing before with
  | nil => rfl
  | cons c line ih =>
    have hc : c.isLineEnd = false := h c List.mem_cons_self
    have hr : c ≠ CodePoint.ofChar '\r' := by
      rintro rfl
      rw [isLineEnd_carriageReturn] at hc
      contradiction
    have hline := ih (fun d hd => h d (List.mem_cons_of_mem c hd)) (c :: before)
    rw [List.cons_append, linesAux.eq_def]
    simpa [hr, hc] using hline

theorem linesAux_ending {ending rest : Text} (h : Ending ending rest) (before : Text) :
    linesAux before (ending ++ rest) = before.reverse :: linesAux [] rest := by
  cases h with
  | both => rfl
  | @one c _ hc hsingle =>
    rw [List.singleton_append]
    by_cases hr : c = CodePoint.ofChar '\r'
    · cases rest with
      | nil => simp [linesAux, hr]
      | cons d rest =>
        have hd : d ≠ CodePoint.ofChar '\n' := by
          rintro rfl
          exact hsingle ⟨hr, rfl⟩
        simp [linesAux, hr, hd]
    · rw [linesAux.eq_def]
      simp [hr, hc]

theorem Lined.lines_eq {t : Text} {ls : List Text} (h : Lined t ls) : lines t = ls := by
  unfold lines
  induction h with
  | none => rfl
  | @last line hne hline =>
    have h := linesAux_text hline [] []
    rw [List.append_nil] at h
    simp [h, linesAux, hne]
  | @line line ending rest ls hline hending _ ih =>
    rw [linesAux_text hline, linesAux_ending hending, ih]
    simp

theorem WithoutEnd.reverse {t : Text} (h : WithoutEnd t) : WithoutEnd t.reverse := by
  intro c hc
  exact h c (List.mem_reverse.mp hc)

/-- A line that has been read so far goes on or ends at the next character. -/
theorem lined_linesAux (before t : Text) (h : WithoutEnd before) :
    Lined (before.reverse ++ t) (linesAux before t) := by
  have hnone : WithoutEnd [] := by simp [WithoutEnd]
  induction before, t using linesAux.induct with
  | case1 before hempty =>
    rw [List.isEmpty_iff] at hempty
    subst hempty
    exact .none
  | case2 before hne =>
    have hread := Lined.last (by simpa using hne) h.reverse
    simpa [linesAux, hne] using hread
  | case3 before rest ih =>
    have hread := Lined.line h.reverse .both (ih hnone)
    simpa [linesAux] using hread
  | case4 before d rest hd ih =>
    have hending : Ending [CodePoint.ofChar '\r'] (d :: rest) := by
      refine .one isLineEnd_carriageReturn ?_
      rintro ⟨-, h⟩
      exact hd (Option.some.inj h)
    have hread := Lined.line h.reverse hending (ih hnone)
    simpa [linesAux, hd] using hread
  | case5 before =>
    have hending : Ending [CodePoint.ofChar '\r'] [] := .one isLineEnd_carriageReturn (by simp)
    simpa [linesAux] using Lined.line h.reverse hending .none
  | case6 before c rest hr hc ih =>
    have hending : Ending [c] rest := .one hc fun h => hr h.1
    have hread := Lined.line h.reverse hending (ih hnone)
    rw [linesAux.eq_def]
    simpa [hr, hc] using hread
  | case7 before c rest hr hc ih =>
    have hmore : WithoutEnd (c :: before) := by
      intro d hd
      rcases List.mem_cons.mp hd with rfl | hd
      · exact Bool.eq_false_iff.mpr hc
      · exact h d hd
    have hread := ih hmore
    rw [linesAux.eq_def]
    simpa [hr, hc] using hread

theorem lines_eq_iff {t : Text} {ls : List Text} : lines t = ls ↔ Lined t ls := by
  constructor
  · rintro rfl
    exact lined_linesAux [] t (by simp [WithoutEnd])
  · exact Lined.lines_eq

/-! ## Lines of a text in two parts -/

theorem lines_eq_nil {t : Text} : lines t = [] ↔ t = [] := by
  constructor
  · intro h
    cases lines_eq_iff.mp h
    rfl
  · rintro rfl
    rfl

/-- A line feed ends a line whatever stands before it. -/
theorem lines_append_lineFeed (t rest : Text) :
    lines (t ++ lineFeed :: rest) = lines (t ++ [lineFeed]) ++ lines rest := by
  have hfeed : ∀ before more : Text,
      linesAux before (lineFeed :: more) = before.reverse :: lines more := by
    intro before more
    have hne : lineFeed ≠ CodePoint.ofChar '\r' := by decide
    have hend : lineFeed.isLineEnd = true := by decide
    rw [lines, linesAux.eq_def]
    simp [hne, hend]
  have haux : ∀ before : Text, linesAux before (t ++ lineFeed :: rest) =
      linesAux before (t ++ [lineFeed]) ++ lines rest := by
    intro before
    fun_induction linesAux before t with
    | case1 before _ => simp [hfeed, lines, linesAux]
    | case2 before _ => simp [hfeed, lines, linesAux]
    | case3 before tail ih => simpa [linesAux] using ih
    | case4 before d tail hd ih => simpa [linesAux, hd] using ih
    | case5 before => rfl
    | case6 before c tail hr hc ih =>
      have hstep : ∀ more : Text,
          linesAux before (c :: more) = before.reverse :: linesAux [] more := by
        intro more
        rw [linesAux.eq_def]
        simp [hr, hc]
      rw [List.cons_append, List.cons_append, hstep, hstep, ih, List.cons_append]
    | case7 before c tail hr hc ih =>
      have hstep : ∀ more : Text, linesAux before (c :: more) = linesAux (c :: before) more := by
        intro more
        rw [linesAux.eq_def]
        simp [hr, hc]
      rw [List.cons_append, List.cons_append, hstep, hstep, ih]
  exact haux []

/-- The first line reaches to the first line end, and what is put before it belongs to it. -/
theorem lines_eq_cons {t line : Text} {ls : List Text} (h : lines t = line :: ls) :
    ∃ tail, t = line ++ tail ∧ WithoutEnd line ∧ (∀ c ∈ tail.head?, c.isLineEnd = true) ∧
      ∀ start, WithoutEnd start → lines (start ++ t) = (start ++ line) :: ls := by
  have happend : ∀ {start line : Text}, WithoutEnd start → WithoutEnd line →
      WithoutEnd (start ++ line) := by
    intro start line hstart hline c hc
    rcases List.mem_append.mp hc with hc | hc
    · exact hstart c hc
    · exact hline c hc
  cases lines_eq_iff.mp h with
  | last hne hline =>
    refine ⟨[], (List.append_nil _).symm, hline, by simp, ?_⟩
    intro start hstart
    exact lines_eq_iff.mpr (.last (by simp [hne]) (happend hstart hline))
  | @line _ ending rest _ hline hending hrest =>
    refine ⟨ending ++ rest, rfl, hline, ?_, ?_⟩
    · cases hending with
      | both => simp [isLineEnd_carriageReturn]
      | one hc _ => simpa using hc
    · intro start hstart
      rw [← List.append_assoc]
      exact lines_eq_iff.mpr (.line (happend hstart hline) hending hrest)

/-! ## Line feeds for all line ends -/

theorem mem_unifyNewlines {t : Text} {c : CodePoint} (h : c ∈ unifyNewlines t) :
    c = CodePoint.ofChar '\n' ∨ c ∈ t ∧ c ≠ CodePoint.ofChar '\r' := by
  fun_induction unifyNewlines t with
  | case1 => contradiction
  | case2 rest ih =>
    rcases List.mem_cons.mp h with hc | hc
    · exact .inl hc
    · exact (ih hc).imp_right fun h => ⟨by simp [h.1], h.2⟩
  | case3 d rest hd ih =>
    rcases List.mem_cons.mp h with hc | hc
    · exact .inl hc
    · exact (ih hc).imp_right fun h => ⟨List.mem_cons_of_mem _ h.1, h.2⟩
  | case4 => exact .inl (List.mem_singleton.mp h)
  | case5 d rest hd ih =>
    rcases List.mem_cons.mp h with rfl | hc
    · exact .inr ⟨List.mem_cons_self, hd⟩
    · exact (ih hc).imp_right fun h => ⟨List.mem_cons_of_mem _ h.1, h.2⟩

/-- No carriage return is left. -/
theorem carriageReturn_not_mem_unifyNewlines (t : Text) :
    CodePoint.ofChar '\r' ∉ unifyNewlines t := by
  intro h
  rcases mem_unifyNewlines h with h | h
  · contradiction
  · exact h.2 rfl

/-- A text without carriage returns stays as it is. -/
theorem unifyNewlines_eq_self {t : Text} (h : CodePoint.ofChar '\r' ∉ t) :
    unifyNewlines t = t := by
  induction t with
  | nil => rfl
  | cons c rest ih =>
    rw [List.mem_cons, not_or] at h
    rw [unifyNewlines.eq_def]
    simp [Ne.symm h.1, ih h.2]

end Text
end GameArchive
