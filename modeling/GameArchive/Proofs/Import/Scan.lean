import GameArchive.Import.Scan
import GameArchive.Proofs.Import.Grammar
import GameArchive.Proofs.Text.Lines

/-!
# What a scan finds

A scan gives one entry for each line that starts with a keyword: the record of its derivation if the
line is one of the grammar, and the line itself otherwise. The entries come in the order of lines.
-/

namespace GameArchive
namespace Import

/-- The import that a line of the grammar makes, in terms of the parts of its path. -/
def Form.record (base : Text) (line : Nat) : Form → Record
  | .whole path alias? =>
    { kind := .import_
      package := resolve path.package base
      className := path.lastName
      localName := alias?.getD path.lastName
      resolvedPath := resolve path.text base
      line := line }
  | .member path name _ =>
    { kind := .from_
      package := resolve path.text base
      className := name
      localName := name
      resolvedPath := joinParts [resolve path.text base, name]
      line := line }

theorem record_statement (base : Text) (line : Nat) {form : Form} (h : form.IsProper) :
    form.statement.record base line = form.record base line := by
  cases form with
  | whole path alias? => simp [Form.statement, Statement.record, Form.record, splitName_text h.1]
  | member path name alias? => rfl

/-! ## Single lines -/

theorem entryOf?_eq (base : Text) (number : Nat) (line : Text) :
    entryOf? base number line =
      if (keyword? line).isSome then
        match statement? line with
        | some s => some (.record (s.record base number))
        | none => some (.unmatched ⟨number, line⟩)
      else none := by
  unfold entryOf? statement?
  cases keyword? line with
  | none => rfl
  | some found =>
    simp only [Option.map_some, Option.isSome_some, if_true, Option.bind_some]
    cases Statement.ofBody? found.1 found.2 <;> rfl

theorem entryOf?_of_derives (base : Text) (number : Nat) {line : Text} {form : Form}
    (h : Derives line form) :
    entryOf? base number line = some (.record (form.record base number)) := by
  rw [entryOf?_eq, if_pos (ledByKeyword_iff.mp h.ledByKeyword), h.statement?_eq,
    ← record_statement base number h.isProper]

theorem entryOf?_of_not_derives (base : Text) (number : Nat) {line : Text}
    (hled : LedByKeyword line) (h : ∀ form, ¬Derives line form) :
    entryOf? base number line = some (.unmatched ⟨number, line⟩) := by
  rw [entryOf?_eq, if_pos (ledByKeyword_iff.mp hled)]
  cases hs : statement? line with
  | none => rfl
  | some s =>
    obtain ⟨form, hform, -⟩ := exists_derives hs
    exact absurd hform (h form)

theorem entryOf?_of_not_led (base : Text) (number : Nat) {line : Text} (h : ¬LedByKeyword line) :
    entryOf? base number line = none := by
  rw [entryOf?_eq, if_neg (mt ledByKeyword_iff.mpr h)]

/-- Every line is of one of three sorts. -/
theorem line_cases (line : Text) :
    (∃ form, Derives line form) ∨ (LedByKeyword line ∧ ∀ form, ¬Derives line form) ∨
      ¬LedByKeyword line := by
  by_cases hled : LedByKeyword line
  · by_cases h : ∃ form, Derives line form
    · exact .inl h
    · exact .inr (.inl ⟨hled, fun form hform => h ⟨form, hform⟩⟩)
  · exact .inr (.inr hled)

theorem entryOf?_eq_record {base line : Text} {number : Nat} {r : Record} :
    entryOf? base number line = some (.record r) ↔
      ∃ form, Derives line form ∧ r = form.record base number := by
  constructor
  · intro h
    rcases line_cases line with ⟨form, hform⟩ | ⟨hled, hnone⟩ | hled
    · rw [entryOf?_of_derives base number hform] at h
      cases h
      exact ⟨form, hform, rfl⟩
    · rw [entryOf?_of_not_derives base number hled hnone] at h
      cases h
    · rw [entryOf?_of_not_led base number hled] at h
      contradiction
  · rintro ⟨form, hform, rfl⟩
    exact entryOf?_of_derives base number hform

theorem entryOf?_eq_unmatched {base line : Text} {number : Nat} {u : Unmatched} :
    entryOf? base number line = some (.unmatched u) ↔
      LedByKeyword line ∧ (∀ form, ¬Derives line form) ∧ u = ⟨number, line⟩ := by
  constructor
  · intro h
    rcases line_cases line with ⟨form, hform⟩ | ⟨hled, hnone⟩ | hled
    · rw [entryOf?_of_derives base number hform] at h
      cases h
    · rw [entryOf?_of_not_derives base number hled hnone] at h
      cases h
      exact ⟨hled, hnone, rfl⟩
    · rw [entryOf?_of_not_led base number hled] at h
      contradiction
  · rintro ⟨hled, hnone, rfl⟩
    exact entryOf?_of_not_derives base number hled hnone

/-! ## All lines -/

def Entry.line : Entry → Nat
  | .record r => r.line
  | .unmatched u => u.line

theorem line_eq_number {base line : Text} {number : Nat} {e : Entry}
    (h : entryOf? base number line = some e) : e.line = number := by
  cases e with
  | record r =>
    obtain ⟨form, -, rfl⟩ := entryOf?_eq_record.mp h
    cases form <;> rfl
  | unmatched u =>
    obtain ⟨-, -, rfl⟩ := entryOf?_eq_unmatched.mp h
    rfl

theorem entriesFrom_cons (base : Text) (number : Nat) (line : Text) (lines : List Text) :
    entriesFrom base number (line :: lines) =
      (entryOf? base number line).toList ++ entriesFrom base (number + 1) lines := by
  rw [entriesFrom]
  cases entryOf? base number line <;> rfl

theorem mem_entriesFrom {base : Text} {number : Nat} {lines : List Text} {e : Entry} :
    e ∈ entriesFrom base number lines ↔
      ∃ i line, lines[i]? = some line ∧ entryOf? base (number + i) line = some e := by
  induction lines generalizing number with
  | nil => simp [entriesFrom]
  | cons line lines ih =>
    rw [entriesFrom_cons, List.mem_append, Option.mem_toList, ih]
    constructor
    · rintro (h | ⟨i, other, hother, h⟩)
      · exact ⟨0, line, rfl, h⟩
      · refine ⟨i + 1, other, hother, ?_⟩
        rwa [Nat.add_assoc, Nat.add_comm 1 i] at h
    · rintro ⟨i, other, hother, h⟩
      cases i with
      | zero =>
        cases hother
        exact .inl h
      | succ i =>
        refine .inr ⟨i, other, hother, ?_⟩
        rwa [Nat.add_assoc, Nat.add_comm 1 i]

theorem entriesFrom_pairwise (base : Text) (number : Nat) (lines : List Text) :
    (entriesFrom base number lines).Pairwise (·.line < ·.line) := by
  induction lines generalizing number with
  | nil => exact .nil
  | cons line lines ih =>
    rw [entriesFrom_cons, List.pairwise_append]
    refine ⟨?_, ih (number + 1), ?_⟩
    · cases entryOf? base number line <;> simp
    · intro first hfirst second hsecond
      obtain ⟨i, other, -, h⟩ := mem_entriesFrom.mp hsecond
      rw [line_eq_number (Option.mem_toList.mp hfirst), line_eq_number h]
      omega

theorem mem_records {base code : Text} {r : Record} :
    r ∈ (scan base code).records ↔ Entry.record r ∈ entries base code := by
  simp only [scan, List.mem_filterMap]
  constructor
  · rintro ⟨e, he, hr⟩
    cases e with
    | record other =>
      cases hr
      exact he
    | unmatched u => contradiction
  · intro h
    exact ⟨.record r, h, rfl⟩

theorem mem_unmatched {base code : Text} {u : Unmatched} :
    u ∈ (scan base code).unmatched ↔ Entry.unmatched u ∈ entries base code := by
  simp only [scan, List.mem_filterMap]
  constructor
  · rintro ⟨e, he, hu⟩
    cases e with
    | record r => contradiction
    | unmatched other =>
      cases hu
      exact he
  · intro h
    exact ⟨.unmatched u, h, rfl⟩

theorem entry_mem_iff {base code : Text} {e : Entry} :
    e ∈ entries base code ↔
      ∃ i line, (Text.lines code)[i]? = some line ∧ entryOf? base (i + 1) line = some e := by
  simp only [entries, mem_entriesFrom, Nat.add_comm 1]

theorem records_pairwise (base code : Text) :
    (scan base code).records.Pairwise (·.line < ·.line) := by
  refine List.Pairwise.filterMap _ ?_ (entriesFrom_pairwise base 1 (Text.lines code))
  intro first second hlt r hr s hs
  cases first <;> cases second <;> simp_all [Entry.record?, Entry.line]

theorem unmatched_pairwise (base code : Text) :
    (scan base code).unmatched.Pairwise (·.line < ·.line) := by
  refine List.Pairwise.filterMap _ ?_ (entriesFrom_pairwise base 1 (Text.lines code))
  intro first second hlt r hr s hs
  cases first <;> cases second <;> simp_all [Entry.unmatched?, Entry.line]

/-- The records of a scan are those of the lines of the grammar and the unmatched lines are the
other ones that start with a keyword, both by increasing numbers; no line is entered twice, and none
that starts with a keyword is left out. -/
theorem scan_spec (base code : Text) :
    Text.Lined code (Text.lines code) ∧
      (∀ r, r ∈ (scan base code).records ↔ ∃ i line form, (Text.lines code)[i]? = some line ∧
        Derives line form ∧ r = form.record base (i + 1)) ∧
      (∀ u, u ∈ (scan base code).unmatched ↔ ∃ i line, (Text.lines code)[i]? = some line ∧
        LedByKeyword line ∧ (∀ form, ¬Derives line form) ∧ u = ⟨i + 1, line⟩) ∧
      (scan base code).records.Pairwise (·.line < ·.line) ∧
      (scan base code).unmatched.Pairwise (·.line < ·.line) ∧
      (∀ r ∈ (scan base code).records, ∀ u ∈ (scan base code).unmatched, r.line ≠ u.line) ∧
      (∀ i line, (Text.lines code)[i]? = some line → LedByKeyword line →
        (∃ r ∈ (scan base code).records, r.line = i + 1) ∨
          ⟨i + 1, line⟩ ∈ (scan base code).unmatched) := by
  have hrecords : ∀ r, r ∈ (scan base code).records ↔ ∃ i line form,
      (Text.lines code)[i]? = some line ∧ Derives line form ∧ r = form.record base (i + 1) := by
    intro r
    simp only [mem_records, entry_mem_iff, entryOf?_eq_record, exists_and_left]
  have hunmatched : ∀ u, u ∈ (scan base code).unmatched ↔ ∃ i line,
      (Text.lines code)[i]? = some line ∧ LedByKeyword line ∧ (∀ form, ¬Derives line form) ∧
        u = ⟨i + 1, line⟩ := by
    intro u
    simp only [mem_unmatched, entry_mem_iff, entryOf?_eq_unmatched]
  refine ⟨Text.lines_eq_iff.mp rfl, hrecords, hunmatched, records_pairwise base code,
    unmatched_pairwise base code, ?_, ?_⟩
  · intro r hr u hu hsame
    obtain ⟨i, line, form, hi, hform, rfl⟩ := (hrecords r).mp hr
    obtain ⟨j, other, hj, -, hnone, rfl⟩ := (hunmatched u).mp hu
    have hij : i = j := by cases form <;> exact Nat.succ.inj hsame
    subst hij
    rw [hi, Option.some.injEq] at hj
    exact hnone form (hj ▸ hform)
  · intro i line hi hled
    by_cases h : ∃ form, Derives line form
    · obtain ⟨form, hform⟩ := h
      refine .inl ⟨form.record base (i + 1), (hrecords _).mpr ⟨i, line, form, hi, hform, rfl⟩, ?_⟩
      cases form <;> rfl
    · exact .inr ((hunmatched _).mpr ⟨i, line, hi, hled, fun form hform => h ⟨form, hform⟩, rfl⟩)

end Import
end GameArchive
