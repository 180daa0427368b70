import GameArchive.Proofs.Import.Scan
import GameArchive.Proofs.Mask
import Mathlib.Data.List.Infix

/-!
# Scans of masked code

Masks are put on the pieces between line feeds, while a scan cuts lines at other characters too. Of
a piece only the first line gets the mask, and it gets one whenever it starts with a keyword, for
what the scanner takes as a keyword the masker takes as one. So a scan of masked code misses exactly
the lines that start a piece, and these are all there are where only line feeds end lines.
-/

namespace GameArchive
namespace Import

open Text (lineFeed WithoutEnd Run)
open Mask (isMarked maskLine slashes)

/-- The line with this number starts the text or stands right behind a line feed: all lines before
it are in a beginning of the text that is empty or ends in a line feed. -/
def IsFresh (code : Text) (number : Nat) : Prop :=
  ∃ before ∈ code.inits, (∀ c ∈ before.getLast?, c = lineFeed) ∧
    number = (Text.lines before).length + 1

instance (code : Text) (number : Nat) : Decidable (IsFresh code number) :=
  inferInstanceAs (Decidable (∃ before ∈ code.inits, _))

/-- Line feeds, alone or behind a carriage return, are all that ends a line. -/
def EndsByFeeds (code : Text) : Prop :=
  ∀ before c rest, code = before ++ c :: rest → c.isLineEnd = true →
    c = lineFeed ∨ c = CodePoint.ofChar '\r' ∧ rest.head? = some lineFeed

/-! ## Lines behind line feeds -/

theorem isFresh_one (code : Text) : IsFresh code 1 := ⟨[], by simp, by simp, rfl⟩

theorem IsFresh.pos {code : Text} {number : Nat} (h : IsFresh code number) : 0 < number := by
  obtain ⟨before, -, -, rfl⟩ := h
  exact Nat.succ_pos _

theorem eq_nil_of_getLast? {before piece : Text} (hfeed : lineFeed ∉ piece)
    (hbefore : before <+: piece) (hlast : ∀ c ∈ before.getLast?, c = lineFeed) : before = [] := by
  rcases before.eq_nil_or_concat with h | ⟨start, c, rfl⟩
  · exact h
  · obtain rfl : c = lineFeed := hlast c (by simp)
    exact absurd (hbefore.subset (by simp)) hfeed

theorem isFresh_piece {piece : Text} (hfeed : lineFeed ∉ piece) {number : Nat} :
    IsFresh piece number ↔ number = 1 := by
  constructor
  · rintro ⟨before, hbefore, hlast, rfl⟩
    rw [eq_nil_of_getLast? hfeed ((List.mem_inits _ _).mp hbefore) hlast]
    rfl
  · rintro rfl
    exact isFresh_one piece

/-- Behind a piece and its line feed the lines are counted on. -/
theorem isFresh_append {piece rest : Text} (hfeed : lineFeed ∉ piece) {number : Nat} :
    IsFresh (piece ++ lineFeed :: rest) number ↔ number = 1 ∨
      ∃ n, IsFresh rest n ∧ number = (Text.lines (piece ++ [lineFeed])).length + n := by
  constructor
  · rintro ⟨before, hbefore, hlast, rfl⟩
    obtain ⟨after, happend⟩ := (List.mem_inits _ _).mp hbefore
    rcases List.append_eq_append_iff.mp happend with ⟨more, rfl, -⟩ | ⟨more, rfl, hmore⟩
    · rw [eq_nil_of_getLast? hfeed (List.prefix_append before more) hlast]
      exact .inl rfl
    · cases more with
      | nil =>
        rw [List.append_nil] at hlast ⊢
        rw [eq_nil_of_getLast? hfeed (List.prefix_refl piece) hlast]
        exact .inl rfl
      | cons c more =>
        rw [List.cons_append, List.cons.injEq] at hmore
        obtain ⟨rfl, rfl⟩ := hmore
        refine .inr ⟨_, ⟨more, by simp, ?_, rfl⟩, ?_⟩
        · intro c hc
          refine hlast c ?_
          rw [List.getLast?_append, List.getLast?_cons, Option.mem_def.mp hc]
          rfl
        · rw [Text.lines_append_lineFeed, List.length_append, Nat.add_assoc]
  · rintro (rfl | ⟨n, ⟨before, hbefore, hlast, rfl⟩, rfl⟩)
    · exact isFresh_one _
    · refine ⟨piece ++ lineFeed :: before, ?_, ?_, ?_⟩
      · obtain ⟨after, rfl⟩ := (List.mem_inits _ _).mp hbefore
        rw [List.mem_inits]
        exact ⟨after, by simp⟩
      · cases hc : before.getLast? with
        | none => simp [List.getLast?_append, List.getLast?_cons, hc]
        | some c => simpa [List.getLast?_append, List.getLast?_cons, hc] using hlast c hc
      · rw [Text.lines_append_lineFeed piece before, List.length_append, Nat.add_assoc]

/-! ## First lines of pieces -/

theorem isWord_of_endsKeyword {c : CodePoint} (h : endsKeyword c = true) : c.isWord = false := by
  rw [endsKeyword, Bool.or_eq_true] at h
  rcases h with h | h
  · exact CodePoint.isWord_of_isBlank h
  · rw [isSemicolon_iff.mp h]
    decide

theorem isImport_indent {indent : Text} (h : Run isIndent indent) (t : Text) :
    Mask.isImport (indent ++ t) = Mask.isImport t := by
  induction indent with
  | nil => rfl
  | cons c indent ih =>
    rw [Text.run_cons, isIndent, Bool.or_eq_true, decide_eq_true_eq, decide_eq_true_eq] at h
    rw [List.cons_append, Mask.isImport.eq_def]
    simp only [if_pos h.1, ih h.2]

theorem isImport_keyword (kind : Kind) {body : Text} (h : ∀ c ∈ body.head?, c.isWord = false) :
    Mask.isImport (kind.keyword ++ body) = true := by
  have hend : Mask.startsWithWord [] body = true := by
    cases body with
    | nil => rfl
    | cons c rest => simpa [Mask.startsWithWord] using h c rfl
  cases kind with
  | import_ =>
    change (Mask.startsWithWord [] body || _) = true
    rw [hend, Bool.true_or]
  | from_ =>
    change (false || Mask.startsWithWord [] body) = true
    rw [hend, Bool.or_true]

/-- What a scan takes as a keyword line is masked as the start of its piece. -/
theorem isMarked_of_ledByKeyword {line tail : Text} (h : LedByKeyword line)
    (htail : ∀ c ∈ tail.head?, c.isLineEnd = true) : isMarked (line ++ tail) = true := by
  obtain ⟨kind, indent, body, hindent, hbody, rfl⟩ := h
  rw [isMarked, List.append_assoc, List.append_assoc, isImport_indent hindent, isImport_keyword,
    Bool.or_true]
  intro c hc
  cases body with
  | nil => exact CodePoint.isWord_of_isBlank (CodePoint.isBlank_of_isLineEnd (htail c hc))
  | cons d body => exact isWord_of_endsKeyword (hbody c hc)

theorem not_ledByKeyword_slashes (line : Text) : ¬LedByKeyword (slashes ++ line) := by
  rw [ledByKeyword_iff]
  exact Bool.false_ne_true

theorem withoutEnd_slashes : WithoutEnd slashes := by
  unfold WithoutEnd
  decide

/-- In masked code the first line of a piece does not start with a keyword, and the others are as
they were. -/
theorem exists_lines_maskLine {piece rest line : Text} {ls : List Text}
    (hrest : ∀ c ∈ rest.head?, c.isLineEnd = true) (h : Text.lines (piece ++ rest) = line :: ls) :
    ∃ first, Text.lines (maskLine isMarked piece ++ rest) = first :: ls ∧ ¬LedByKeyword first := by
  obtain ⟨tail, happend, hline, htail, hstart⟩ := Text.lines_eq_cons h
  cases hmarked : isMarked piece with
  | true =>
    refine ⟨slashes ++ line, ?_, not_ledByKeyword_slashes line⟩
    rw [Mask.maskLine_of_marked hmarked, List.append_assoc, hstart slashes withoutEnd_slashes]
  | false =>
    refine ⟨line, by rw [Mask.maskLine_of_not_marked hmarked, h], ?_⟩
    intro hled
    rw [← Bool.not_eq_true] at hmarked
    rcases List.append_eq_append_iff.mp happend with ⟨more, rfl, hmore⟩ | ⟨more, rfl, hmore⟩
    · -- The line has no line end in it, so it cannot reach behind the piece.
      cases more with
      | nil =>
        rw [List.append_nil] at hled
        have h : isMarked (piece ++ []) = true := isMarked_of_ledByKeyword hled (by simp)
        exact hmarked (by rwa [List.append_nil] at h)
      | cons c more =>
        rw [hmore] at hrest
        have hc := hline c (by simp)
        rw [hrest c rfl] at hc
        contradiction
    · refine hmarked (isMarked_of_ledByKeyword hled ?_)
      intro c hc
      refine htail c ?_
      rw [hmore, List.head?_append, Option.mem_def.mp hc]
      rfl

/-! ## Entries of masked code -/

section Entries

variable {base : Text}

theorem entriesFrom_append (number : Nat) (ls more : List Text) :
    entriesFrom base number (ls ++ more) =
      entriesFrom base number ls ++ entriesFrom base (number + ls.length) more := by
  induction ls generalizing number with
  | nil => rfl
  | cons line ls ih =>
    rw [List.cons_append, entriesFrom_cons, entriesFrom_cons, ih, List.append_assoc,
      List.length_cons, Nat.add_assoc, Nat.add_comm 1]

theorem line_bounds {number : Nat} {ls : List Text} {e : Entry}
    (h : e ∈ entriesFrom base number ls) : number ≤ e.line ∧ e.line < number + ls.length := by
  obtain ⟨i, line, hi, he⟩ := mem_entriesFrom.mp h
  rw [line_eq_number he]
  have hlength := (List.getElem?_eq_some_iff.mp hi).1
  omega

/-- Without a keyword the first line has no entry, and the other lines keep theirs. -/
theorem entriesFrom_first {first line : Text} (h : ¬LedByKeyword first) (number : Nat)
    (ls : List Text) :
    entriesFrom base number (first :: ls) =
      (entriesFrom base number (line :: ls)).filter fun e => e.line ≠ number := by
  rw [entriesFrom_cons, entriesFrom_cons, entryOf?_of_not_led base number h, List.filter_append]
  have hhead : ((entryOf? base number line).toList.filter fun e => e.line ≠ number) = [] := by
    rw [List.filter_eq_nil_iff]
    intro e he
    simp [line_eq_number (Option.mem_toList.mp he)]
  have htail : ((entriesFrom base (number + 1) ls).filter fun e => e.line ≠ number) =
      entriesFrom base (number + 1) ls := by
    rw [List.filter_eq_self]
    intro e he
    have hbounds := line_bounds he
    simp only [ne_eq, decide_eq_true_eq]
    omega
  rw [hhead, htail]
  rfl

/-- Of a piece with what ends it, masking takes the entry of the first line only. -/
theorem entriesFrom_maskLine (base : Text) {piece rest : Text}
    (hrest : ∀ c ∈ rest.head?, c.isLineEnd = true) (number : Nat) :
    entriesFrom base number (Text.lines (maskLine isMarked piece ++ rest)) =
      (entriesFrom base number (Text.lines (piece ++ rest))).filter fun e => e.line ≠ number := by
  cases hlines : Text.lines (piece ++ rest) with
  | nil =>
    obtain ⟨rfl, rfl⟩ := List.append_eq_nil_iff.mp (Text.lines_eq_nil.mp hlines)
    rfl
  | cons line ls =>
    obtain ⟨first, hfirst, hled⟩ := exists_lines_maskLine hrest hlines
    rw [hfirst, entriesFrom_first hled]

theorem length_lines_maskLine {piece rest : Text}
    (hrest : ∀ c ∈ rest.head?, c.isLineEnd = true) :
    (Text.lines (maskLine isMarked piece ++ rest)).length =
      (Text.lines (piece ++ rest)).length := by
  cases hlines : Text.lines (piece ++ rest) with
  | nil =>
    obtain ⟨rfl, rfl⟩ := List.append_eq_nil_iff.mp (Text.lines_eq_nil.mp hlines)
    rfl
  | cons line ls =>
    obtain ⟨first, hfirst, -⟩ := exists_lines_maskLine hrest hlines
    rw [hfirst]
    rfl

/-- Of a piece and its line feed only the first line is fresh in the whole text. -/
theorem filter_isFresh_piece {piece rest : Text} (hfeed : lineFeed ∉ piece) (number : Nat) :
    ((entriesFrom base number (Text.lines (piece ++ [lineFeed]))).filter fun e =>
        ¬IsFresh (piece ++ lineFeed :: rest) (e.line + 1 - number)) =
      (entriesFrom base number (Text.lines (piece ++ [lineFeed]))).filter fun e =>
        e.line ≠ number := by
  refine List.filter_congr fun e he => ?_
  have hbounds := line_bounds he
  simp only [isFresh_append hfeed, decide_eq_decide]
  constructor
  · exact fun hnot heq => hnot (.inl (by omega))
  · rintro hstart (hone | ⟨n, hn, hsum⟩)
    · omega
    · have hpos := hn.pos
      omega

/-- Behind a piece and its line feed the fresh lines are those of the rest. -/
theorem filter_isFresh_rest {piece rest : Text} (hfeed : lineFeed ∉ piece) (number : Nat)
    (ls : List Text) :
    ((entriesFrom base (number + (Text.lines (piece ++ [lineFeed])).length) ls).filter fun e =>
        ¬IsFresh (piece ++ lineFeed :: rest) (e.line + 1 - number)) =
      (entriesFrom base (number + (Text.lines (piece ++ [lineFeed])).length) ls).filter fun e =>
        ¬IsFresh rest (e.line + 1 - (number + (Text.lines (piece ++ [lineFeed])).length)) := by
  have hlines : (Text.lines (piece ++ [lineFeed])).length ≠ 0 := by
    simp [Text.lines_eq_nil]
  refine List.filter_congr fun e he => ?_
  have hbounds := line_bounds he
  simp only [isFresh_append hfeed, decide_eq_decide]
  rw [not_iff_not]
  constructor
  · rintro (hone | ⟨n, hn, hsum⟩)
    · omega
    · obtain rfl : n = e.line + 1 - (number + (Text.lines (piece ++ [lineFeed])).length) := by
        omega
      exact hn
  · exact fun hrest => .inr ⟨_, hrest, by omega⟩

/-- The entries of masked pieces are those of the lines that do not start a piece. -/
theorem entriesFrom_maskLines (base : Text) (number : Nat) {pieces : List Text} (hne : pieces ≠ [])
    (hfeed : ∀ piece ∈ pieces, lineFeed ∉ piece) :
    entriesFrom base number (Text.lines (Text.join "\n" (pieces.map (maskLine isMarked)))) =
      (entriesFrom base number (Text.lines (Text.join "\n" pieces))).filter fun e =>
        ¬IsFresh (Text.join "\n" pieces) (e.line + 1 - number) := by
  induction pieces generalizing number with
  | nil => contradiction
  | cons piece pieces ih =>
    have hpiece := hfeed piece List.mem_cons_self
    cases pieces with
    | nil =>
      have h : entriesFrom base number (Text.lines (maskLine isMarked piece ++ [])) =
          (entriesFrom base number (Text.lines (piece ++ []))).filter fun e => e.line ≠ number :=
        entriesFrom_maskLine base (by simp) number
      rw [List.append_nil, List.append_nil] at h
      rw [List.map_cons, List.map_nil, Text.join, Text.join, h]
      refine List.filter_congr fun e he => ?_
      have hbounds := line_bounds he
      simp only [isFresh_piece hpiece, decide_eq_decide]
      omega
    | cons second pieces =>
      have hrest := ih (number + (Text.lines (piece ++ [lineFeed])).length) (by simp)
        fun p hp => hfeed p (List.mem_cons_of_mem piece hp)
      have hend : ∀ c ∈ [lineFeed].head?, c.isLineEnd = true := by decide
      rw [List.map_cons] at hrest
      rw [List.map_cons, List.map_cons, Text.join_lineFeed, Text.join_lineFeed,
        Text.lines_append_lineFeed, Text.lines_append_lineFeed piece, entriesFrom_append,
        entriesFrom_append, List.filter_append, filter_isFresh_piece hpiece,
        filter_isFresh_rest hpiece, entriesFrom_maskLine base hend, length_lines_maskLine hend,
        hrest]

end Entries

/-! ## Scans of masked code -/

theorem EndsByFeeds.of_append {start rest : Text} (h : EndsByFeeds (start ++ rest)) :
    EndsByFeeds rest := by
  rintro before c more rfl hc
  exact h (start ++ before) c more (List.append_assoc ..).symm hc

/-- Where only line feeds end lines, every line is behind one. -/
theorem isFresh_of_lined {code : Text} {ls : List Text} (h : Text.Lined code ls)
    (hfeeds : EndsByFeeds code) {i : Nat} (hi : i < ls.length) : IsFresh code (i + 1) := by
  induction h generalizing i with
  | none => contradiction
  | last _ _ =>
    obtain rfl : i = 0 := by simpa using hi
    exact isFresh_one _
  | @line line ending rest ls hline hending hrest ih =>
    cases i with
    | zero => exact isFresh_one _
    | succ i =>
      obtain ⟨before, hbefore, hlast, hnumber⟩ := ih hfeeds.of_append.of_append (by simpa using hi)
      have hending' : Text.Ending ending before ∧ ending.getLast? = some lineFeed := by
        cases hending with
        | both => exact ⟨.both, rfl⟩
        | @one c _ hc hsingle =>
          rcases hfeeds line c rest rfl hc with rfl | hreturn
          · exact ⟨.one hc fun h => absurd h.1 (by decide), rfl⟩
          · exact absurd hreturn hsingle
      refine ⟨line ++ (ending ++ before), ?_, ?_, ?_⟩
      · obtain ⟨after, rfl⟩ := (List.mem_inits _ _).mp hbefore
        rw [List.mem_inits]
        exact ⟨after, by simp⟩
      · cases hc : before.getLast? with
        | none => simp [List.getLast?_append, hc, hending'.2]
        | some c => simpa [List.getLast?_append, hc] using hlast c hc
      · rw [(Text.Lined.line hline hending'.1 (Text.lines_eq_iff.mp rfl)).lines_eq, hnumber]
        rfl

theorem filterMap_filter_line {α : Type} {f : Entry → Option α} {line : α → Nat}
    (hline : ∀ e x, f e = some x → e.line = line x) (p : Nat → Bool) (found : List Entry) :
    (found.filter fun e => p e.line).filterMap f =
      (found.filterMap f).filter fun x => p (line x) := by
  induction found with
  | nil => rfl
  | cons e found ih =>
    cases hf : f e with
    | none =>
      rw [List.filterMap_cons_none hf, ← ih, List.filter_cons]
      split
      · rw [List.filterMap_cons_none hf]
      · rfl
    | some x =>
      rw [List.filterMap_cons_some hf, List.filter_cons, List.filter_cons, ← ih, hline e x hf]
      split
      · rw [List.filterMap_cons_some hf]
      · rfl

/-- A scan of masked code finds the entries of the lines that neither start the text nor stand
behind a line feed: none if only line feeds end lines. Unmasked first, the code gives them all. -/
theorem scan_sanitize (base code : Text) :
    (scan base (Mask.sanitize code)).records =
        (scan base code).records.filter (fun r => ¬IsFresh code r.line) ∧
      (scan base (Mask.sanitize code)).unmatched =
        (scan base code).unmatched.filter (fun u => ¬IsFresh code u.line) ∧
      (EndsByFeeds code → scan base (Mask.sanitize code) = ⟨[], []⟩) ∧
      scanMasked base (Mask.sanitize code) = scan base code := by
  have hentries : entries base (Mask.sanitize code) =
      (entries base code).filter fun e => ¬IsFresh code e.line := by
    have h := entriesFrom_maskLines base 1 (Text.breaks_ne_nil code)
      fun _ => Text.not_mem_of_mem_breaks
    rw [Text.join_breaks] at h
    rw [entries, Mask.sanitize_eq, Mask.maskLines, h]
    rfl
  refine ⟨?_, ?_, ?_, ?_⟩
  · rw [scan, scan, hentries]
    refine filterMap_filter_line ?_ (fun number => ¬IsFresh code number) _
    intro e r he
    cases e with
    | record other => exact congrArg Record.line (Option.some.inj he)
    | unmatched u => contradiction
  · rw [scan, scan, hentries]
    refine filterMap_filter_line ?_ (fun number => ¬IsFresh code number) _
    intro e u he
    cases e with
    | record r => contradiction
    | unmatched other => exact congrArg Unmatched.line (Option.some.inj he)
  · intro hfeeds
    have hnone : entries base (Mask.sanitize code) = [] := by
      rw [hentries, List.filter_eq_nil_iff]
      intro e he
      obtain ⟨i, line, hi, hentry⟩ := entry_mem_iff.mp he
      have hfresh := isFresh_of_lined (Text.lines_eq_iff.mp rfl) hfeeds
        (List.getElem?_eq_some_iff.mp hi).1
      rw [line_eq_number hentry]
      simpa using hfresh
    rw [scan, hnone]
    rfl
  · rw [scanMasked, Mask.unsanitize_eq, Mask.sanitize_eq,
      Mask.unmaskLines_maskLines Mask.isMarked_ignoresMask]

/-- A carriage return alone ends a line for the scan, but no piece starts behind it. -/
example :
    (scan [] (Mask.sanitize "import a;\rimport b;\nimport c;")).records.map (·.line) = [2] := by
  decide +kernel

end Import
end GameArchive
