import GameArchive.Import.Statement
import GameArchive.Proofs.Import.Path

/-!
# The grammar of import lines

A line is indentation, a keyword, a phrase and closing semicolons, with blanks between them; the
phrase of `import` is a path and perhaps an alias, that of `from` a path, the word `import`, a name
and perhaps an alias. The reader of statements takes the words that stand between the keyword and
the semicolons instead. This module proves that it accepts the lines of the grammar and no others.
-/

namespace GameArchive
namespace Import

open Text (Run Gap IsWord Stops Spaced)
open CodePoint (isBlank)

def isSemicolon (c : CodePoint) : Bool := c = ';'

/-! ## Forms -/

/-- What a line of the grammar says, its path by the parts. -/
inductive Form where
  | whole (path : DottedPath) (alias? : Option Text)
  | member (path : DottedPath) (name : Text) (alias? : Option Text)

/-- Nothing, or `as` and a name with gaps before both. -/
inductive AliasClause : Text → Option Text → Prop where
  | none : AliasClause [] none
  | named {before between name : Text} : Gap isBlank before → Gap isBlank between →
      isName name = true →
      AliasClause (before ++ (Text.ofString "as" ++ (between ++ name))) (some name)

/-- What stands between the gap behind the keyword and the blanks before the semicolons. -/
inductive Phrase : Text → Form → Prop where
  | whole {path : DottedPath} {clause : Text} {alias? : Option Text} : path.HasNames →
      AliasClause clause alias? → Phrase (path.text ++ clause) (.whole path alias?)
  | member {path : DottedPath} {before after name clause : Text} {alias? : Option Text} :
      path.HasNames ∨ path.OnlyDots → Gap isBlank before → Gap isBlank after →
      isName name = true → AliasClause clause alias? →
      Phrase (path.text ++ (before ++ (Text.ofString "import" ++ (after ++ (name ++ clause)))))
        (.member path name alias?)

namespace Form

def kind : Form → Kind
  | .whole .. => .import_
  | .member .. => .from_

def statement : Form → Statement
  | .whole path alias? => .whole path.text alias?
  | .member path name alias? => .member path.text name alias?

/-- The words of an alias clause. -/
def aliasWords : Option Text → List Text
  | none => []
  | some name => [Text.ofString "as", name]

/-- The words of a phrase. -/
def words : Form → List Text
  | .whole path alias? => path.text :: aliasWords alias?
  | .member path name alias? => path.text :: Text.ofString "import" :: name :: aliasWords alias?

/-- Paths and names have the forms that the grammar asks for. -/
def IsProper : Form → Prop
  | .whole path alias? => path.HasNames ∧ ∀ name ∈ alias?, isName name = true
  | .member path name alias? =>
    (path.HasNames ∨ path.OnlyDots) ∧ isName name = true ∧ ∀ name ∈ alias?, isName name = true

end Form

/-- The lines of the grammar. -/
inductive Derives : Text → Form → Prop where
  | line {indent gap phrase space closing tail : Text} {form : Form} : Run isIndent indent →
      Gap isBlank gap → Phrase phrase form → Run isBlank space → Gap isSemicolon closing →
      Run isBlank tail →
      Derives (indent ++ (form.kind.keyword ++ (gap ++ (phrase ++ (space ++ (closing ++ tail))))))
        form

/-- What may follow a keyword that stands alone. -/
def endsKeyword (c : CodePoint) : Bool := c.isBlank || isSemicolon c

/-- The line starts with a keyword that stands alone. -/
def LedByKeyword (line : Text) : Prop :=
  ∃ (kind : Kind) (indent body : Text), Run isIndent indent ∧ Stops endsKeyword body ∧
    line = indent ++ (kind.keyword ++ body)

/-! ## Characters of phrases -/

/-- The characters of paths. -/
def isPathPart (c : CodePoint) : Bool := isNamePart c || isDot c

theorem isPathPart_of_mem {p : DottedPath} (h : p.HasNames ∨ p.OnlyDots) {c : CodePoint}
    (hc : c ∈ p.text) : isPathPart c = true := by
  have hdot : isPathPart dot = true := by decide
  rw [DottedPath.text, List.mem_append] at hc
  rcases hc with hc | hc
  · rwa [List.eq_of_mem_replicate hc]
  · rcases h with h | h
    · rcases Text.mem_join hc with hc | ⟨name, hname, hc⟩
      · rw [dot_text, List.mem_singleton] at hc
        rwa [hc]
      · rw [isPathPart, isNamePart_of_mem (h.2 name hname) hc, Bool.true_or]
    · rw [h.2] at hc
      contradiction

theorem text_ne_nil {p : DottedPath} (h : p.HasNames ∨ p.OnlyDots) : p.text ≠ [] := by
  rcases h with h | h
  · obtain ⟨c, rest, hjoin, -⟩ := head_join_of_names h.1 h.2
    simp [DottedPath.text, hjoin]
  · have hdots : p.dots ≠ 0 := Nat.ne_of_gt h.1
    simp [DottedPath.text, DottedPath.leading, hdots]

theorem isPathPart_of_isBlank {c : CodePoint} (h : c.isBlank = true) : isPathPart c = false := by
  have hdot : isDot c = false := by
    rw [← Bool.not_eq_true, isDot_iff]
    rintro rfl
    exact absurd h (by decide)
  rw [isPathPart, isNamePart_of_isBlank h, hdot, Bool.false_or]

theorem isWord_path {p : DottedPath} (h : p.HasNames ∨ p.OnlyDots) : IsWord isBlank p.text := by
  refine .of_disjoint (text_ne_nil h) ?_ fun _ => isPathPart_of_isBlank
  intro c hc
  exact isPathPart_of_mem h hc

theorem isWord_name {name : Text} (h : isName name = true) : IsWord isBlank name := by
  refine .of_disjoint (ne_nil_of_isName h) ?_ fun _ => isNamePart_of_isBlank
  intro c hc
  exact isNamePart_of_mem h hc

theorem isWord_as : IsWord isBlank (Text.ofString "as") := by
  refine ⟨by decide, ?_⟩
  decide

theorem isWord_import : IsWord isBlank (Text.ofString "import") := by
  refine ⟨by decide, ?_⟩
  decide

/-! ## Words of a phrase -/

theorem AliasClause.spaced {clause space : Text} {alias? : Option Text}
    (h : AliasClause clause alias?) (hspace : Run isBlank space) :
    Stops isBlank (clause ++ space) ∧
      Spaced isBlank (clause ++ space) (Form.aliasWords alias?) := by
  cases h with
  | none => exact ⟨hspace.stops, .none hspace⟩
  | named hbefore hbetween hname =>
    have hlast := Spaced.word hbetween.run (isWord_name hname) hspace.stops (.none hspace)
    have hfirst := Spaced.word hbefore.run isWord_as hbetween.stops hlast
    rw [List.append_assoc]
    refine ⟨hbefore.stops, ?_⟩
    simpa [Form.aliasWords] using hfirst

theorem exists_aliasClause {t : Text} {alias? : Option Text}
    (hname : ∀ name ∈ alias?, isName name = true) (hstop : Stops isBlank t)
    (h : Spaced isBlank t (Form.aliasWords alias?)) :
    ∃ clause space, t = clause ++ space ∧ AliasClause clause alias? ∧ Run isBlank space := by
  cases alias? with
  | none => exact ⟨[], t, rfl, .none, h.run⟩
  | some name =>
    obtain ⟨before, rest, rfl, hbefore, -, hrest, h⟩ := h.next hstop
    obtain ⟨between, space, rfl, hbetween, -, -, h⟩ := h.next hrest
    refine ⟨before ++ (Text.ofString "as" ++ (between ++ name)), space, ?_, ?_, h.run⟩
    · simp
    · exact .named hbefore hbetween (hname name rfl)

theorem Phrase.isProper {phrase : Text} {form : Form} (h : Phrase phrase form) :
    form.IsProper := by
  have hclause : ∀ {clause : Text} {alias? : Option Text}, AliasClause clause alias? →
      ∀ name ∈ alias?, isName name = true := by
    intro clause alias? h name hmem
    cases h with
    | none => contradiction
    | named _ _ hname => rwa [← Option.mem_some.mp hmem]
  cases h with
  | whole hpath h => exact ⟨hpath, hclause h⟩
  | member hpath _ _ hname h => exact ⟨hpath, hname, hclause h⟩

theorem Phrase.spaced {gap phrase space : Text} {form : Form} (h : Phrase phrase form)
    (hgap : Run isBlank gap) (hspace : Run isBlank space) :
    Spaced isBlank (gap ++ (phrase ++ space)) form.words := by
  cases h with
  | @whole path clause alias? hpath hclause =>
    obtain ⟨hstop, hspaced⟩ := hclause.spaced hspace
    rw [List.append_assoc]
    exact .word hgap (isWord_path (.inl hpath)) hstop hspaced
  | @member path before after name clause alias? hpath hbefore hafter hname hclause =>
    obtain ⟨hstop, hspaced⟩ := hclause.spaced hspace
    have hthird := Spaced.word hafter.run (isWord_name hname) hstop hspaced
    have hsecond := Spaced.word hbefore.run isWord_import hafter.stops hthird
    have hfirst := Spaced.word hgap (isWord_path hpath) hbefore.stops hsecond
    simpa [Form.words] using hfirst

theorem exists_phrase {t : Text} {form : Form} (hproper : form.IsProper)
    (h : Spaced isBlank t form.words) :
    ∃ gap phrase space, t = gap ++ (phrase ++ space) ∧ Run isBlank gap ∧ Phrase phrase form ∧
      Run isBlank space := by
  cases form with
  | whole path alias? =>
    obtain ⟨hpath, halias⟩ := hproper
    cases h with
    | @word gap _ rest _ hgap _ hrest h =>
      obtain ⟨clause, space, rfl, hclause, hspace⟩ := exists_aliasClause halias hrest h
      exact ⟨gap, path.text ++ clause, space, by simp, hgap, .whole hpath hclause, hspace⟩
  | member path name alias? =>
    obtain ⟨hpath, hname, halias⟩ := hproper
    cases h with
    | @word gap _ rest _ hgap _ hrest h =>
      obtain ⟨before, rest, rfl, hbefore, -, hrest, h⟩ := h.next hrest
      obtain ⟨after, rest, rfl, hafter, -, hrest, h⟩ := h.next hrest
      obtain ⟨clause, space, rfl, hclause, hspace⟩ := exists_aliasClause halias hrest h
      refine ⟨gap, _, space, ?_, hgap, .member hpath hbefore hafter hname hclause, hspace⟩
      simp

/-! ## Statements of words -/

theorem aliasOf?_eq_some {ws : List Text} {alias? : Option Text} :
    aliasOf? ws = some alias? ↔
      (∀ name ∈ alias?, isName name = true) ∧ Form.aliasWords alias? = ws := by
  unfold aliasOf?
  split
  · cases alias? <;> simp [Form.aliasWords]
  · rename_i word name
    cases alias? with
    | none => simp [Form.aliasWords]
    | some given =>
      simp only [Form.aliasWords, Option.ite_none_right_eq_some, Option.some.injEq,
        List.cons.injEq, and_true, Option.mem_some_iff]
      grind
  · rename_i hempty hpair
    simp only [reduceCtorEq, false_iff, not_and]
    rintro - rfl
    cases alias? with
    | none => exact hempty rfl
    | some given => exact hpair _ _ rfl

theorem ofWords?_words {form : Form} (h : form.IsProper) :
    Statement.ofWords? form.kind form.words = some form.statement := by
  cases form with
  | whole path alias? =>
    have hpath : isPath path.text = true := isPath_iff.mpr ⟨path, h.1, rfl⟩
    have halias := aliasOf?_eq_some.mpr ⟨h.2, rfl⟩
    simp [Form.kind, Form.words, Statement.ofWords?, hpath, halias, Form.statement]
  | member path name alias? =>
    have hpath : isPath path.text = true ∨ isDots path.text = true := by
      rcases h.1 with hpath | hpath
      · exact .inl (isPath_iff.mpr ⟨path, hpath, rfl⟩)
      · exact .inr (isDots_iff.mpr ⟨path, hpath, rfl⟩)
    have halias := aliasOf?_eq_some.mpr ⟨h.2.2, rfl⟩
    simp [Form.kind, Form.words, Statement.ofWords?, hpath, h.2.1, halias, Form.statement]

theorem exists_form {kind : Kind} {ws : List Text} {s : Statement}
    (h : Statement.ofWords? kind ws = some s) :
    ∃ form : Form, form.IsProper ∧ form.kind = kind ∧ form.words = ws ∧ form.statement = s := by
  unfold Statement.ofWords? at h
  split at h
  · rename_i path rest
    rw [Option.ite_none_right_eq_some] at h
    obtain ⟨hpath, h⟩ := h
    obtain ⟨alias?, halias, rfl⟩ := Option.map_eq_some_iff.mp h
    obtain ⟨p, hp, rfl⟩ := isPath_iff.mp hpath
    obtain ⟨hname, rfl⟩ := aliasOf?_eq_some.mp halias
    exact ⟨.whole p alias?, ⟨hp, hname⟩, rfl, rfl, rfl⟩
  · rename_i path word name rest
    rw [Option.ite_none_right_eq_some] at h
    obtain ⟨⟨rfl, hpath, hname⟩, h⟩ := h
    obtain ⟨alias?, halias, rfl⟩ := Option.map_eq_some_iff.mp h
    obtain ⟨hgiven, rfl⟩ := aliasOf?_eq_some.mp halias
    have hparts : ∃ p : DottedPath, (p.HasNames ∨ p.OnlyDots) ∧ p.text = path := by
      rcases hpath with hpath | hpath
      · obtain ⟨p, hp, rfl⟩ := isPath_iff.mp hpath
        exact ⟨p, .inl hp, rfl⟩
      · obtain ⟨p, hp, rfl⟩ := isDots_iff.mp hpath
        exact ⟨p, .inr hp, rfl⟩
    obtain ⟨p, hp, rfl⟩ := hparts
    exact ⟨.member p name alias?, ⟨hp, hname, hgiven⟩, rfl, rfl, rfl⟩
  · contradiction

/-! ## Closing semicolons -/

theorem isSemicolon_iff {c : CodePoint} : isSemicolon c = true ↔ c = CodePoint.ofChar ';' :=
  decide_eq_true_iff

theorem terminatedWords?_eq (body : Text) :
    terminatedWords? body =
      if (Text.trimEnd isBlank body).getLast? = some (CodePoint.ofChar ';') then
        some (Text.words isBlank (Text.trimEnd isSemicolon (Text.trimEnd isBlank body)))
      else none := rfl

theorem exists_last_semicolon {closing : Text} (h : Gap isSemicolon closing) :
    ∃ init, closing = init ++ [CodePoint.ofChar ';'] := by
  obtain ⟨init, last, hlast⟩ := (List.eq_nil_or_concat closing).resolve_left h.1
  have hsemi : last = CodePoint.ofChar ';' := isSemicolon_iff.mp (h.2 last (by simp [hlast]))
  exact ⟨init, by simp [hlast, hsemi]⟩

/-- The words before closing semicolons, read off a body that ends in these and blanks. -/
theorem terminatedWords?_append {core closing tail : Text} (hcore : CodePoint.ofChar ';' ∉ core)
    (hclosing : Gap isSemicolon closing) (htail : Run isBlank tail) :
    terminatedWords? (core ++ (closing ++ tail)) = some (Text.words isBlank core) := by
  have hopen : Text.trimEnd isSemicolon (core ++ closing) = core := by
    rw [Text.trimEnd_append hclosing.run, Text.trimEnd_eq_rdropWhile, List.rdropWhile_eq_self_iff]
    intro hne hsemi
    have hmem := List.getLast_mem hne
    rw [isSemicolon_iff.mp hsemi] at hmem
    exact hcore hmem
  obtain ⟨init, rfl⟩ := exists_last_semicolon hclosing
  have hbody : Text.trimEnd isBlank (core ++ (init ++ [CodePoint.ofChar ';'] ++ tail)) =
      core ++ (init ++ [CodePoint.ofChar ';']) := by
    rw [← List.append_assoc, Text.trimEnd_append htail, ← List.append_assoc]
    exact Text.trimEnd_concat_of_neg (by decide)
  have hlast : (core ++ (init ++ [CodePoint.ofChar ';'])).getLast? =
      some (CodePoint.ofChar ';') := by simp
  rw [terminatedWords?_eq, hbody, if_pos hlast, hopen]

theorem exists_closing {body : Text} {ws : List Text} (h : terminatedWords? body = some ws) :
    ∃ core closing tail, body = core ++ (closing ++ tail) ∧ Gap isSemicolon closing ∧
      Run isBlank tail ∧ Text.words isBlank core = ws := by
  rw [terminatedWords?_eq, Option.ite_none_right_eq_some, Option.some.injEq] at h
  obtain ⟨hlast, hwords⟩ := h
  obtain ⟨tail, hbody, htail⟩ := Text.exists_trimEnd_append isBlank body
  obtain ⟨closing, htrim, hclosing⟩ :=
    Text.exists_trimEnd_append isSemicolon (Text.trimEnd isBlank body)
  refine ⟨_, closing, tail, ?_, ⟨?_, hclosing⟩, htail, hwords⟩
  · rw [← List.append_assoc, ← htrim]
    exact hbody
  · rintro rfl
    rw [List.append_nil, eq_comm, Text.trimEnd_eq_rdropWhile _ (Text.trimEnd isBlank body),
      List.rdropWhile_eq_self_iff] at htrim
    have hne : Text.trimEnd isBlank body ≠ [] := by
      intro hnil
      rw [hnil] at hlast
      contradiction
    rw [List.getLast?_eq_some_getLast hne, Option.some.injEq] at hlast
    exact htrim hne (isSemicolon_iff.mpr hlast)

/-! ## Keywords -/

theorem endsKeyword_iff {c : CodePoint} :
    endsKeyword c = true ↔ c.isBlank = true ∨ c = CodePoint.ofChar ';' := by
  rw [endsKeyword, Bool.or_eq_true, isSemicolon_iff]

theorem afterKeyword?_eq_some {kind : Kind} {t body : Text} :
    afterKeyword? kind t = some body ↔ t = kind.keyword ++ body ∧ Stops endsKeyword body := by
  rw [← Text.afterPrefix?_eq_some]
  unfold afterKeyword?
  cases h : Text.afterPrefix? kind.keyword t with
  | none => simp
  | some rest =>
    cases rest with
    | nil =>
      simp only [Option.some.injEq]
      constructor
      · rintro rfl
        exact ⟨rfl, Text.stops_nil⟩
      · exact And.left
    | cons c rest =>
      simp only [Option.ite_none_right_eq_some, Option.some.injEq, ← endsKeyword_iff]
      constructor
      · rintro ⟨hc, rfl⟩
        exact ⟨rfl, by simpa [Stops] using hc⟩
      · rintro ⟨rfl, hc⟩
        exact ⟨hc c rfl, rfl⟩

/-- A keyword starts with a letter, which is no indentation, and the keywords start with different
letters. -/
theorem keyword?_eq_some {line body : Text} {kind : Kind} :
    keyword? line = some (kind, body) ↔
      ∃ indent : Text, Run isIndent indent ∧ Stops endsKeyword body ∧
        line = indent ++ (kind.keyword ++ body) := by
  constructor
  · intro h
    have hline : line = line.takeWhile isIndent ++ line.dropWhile isIndent :=
      List.takeWhile_append_dropWhile.symm
    have hafter : afterKeyword? kind (line.dropWhile isIndent) = some body := by
      unfold keyword? at h
      cases himport : afterKeyword? .import_ (line.dropWhile isIndent) with
      | none =>
        simp only [himport] at h
        obtain ⟨rest, hfrom, hpair⟩ := Option.map_eq_some_iff.mp h
        obtain ⟨rfl, rfl⟩ := Prod.mk.inj hpair
        exact hfrom
      | some rest =>
        simp only [himport, Option.some.injEq, Prod.mk.injEq] at h
        obtain ⟨rfl, rfl⟩ := h
        exact himport
    obtain ⟨hkeyword, hstop⟩ := afterKeyword?_eq_some.mp hafter
    refine ⟨line.takeWhile isIndent, fun c hc => List.mem_takeWhile_imp hc, hstop, ?_⟩
    rw [← hkeyword]
    exact hline
  · rintro ⟨indent, hindent, hstop, rfl⟩
    have hdrop : (indent ++ (kind.keyword ++ body)).dropWhile isIndent = kind.keyword ++ body := by
      rw [List.dropWhile_append_of_pos hindent]
      cases kind <;> rfl
    have hafter : afterKeyword? kind (kind.keyword ++ body) = some body :=
      afterKeyword?_eq_some.mpr ⟨rfl, hstop⟩
    cases kind with
    | import_ => simp only [keyword?, hdrop, hafter]
    | from_ =>
      have hother : afterKeyword? .import_ (Kind.from_.keyword ++ body) = none := by
        rw [Option.eq_none_iff_forall_ne_some]
        intro rest himport
        have hhead := (afterKeyword?_eq_some.mp himport).1
        contradiction
      simp only [keyword?, hdrop, hother, hafter, Option.map_some]

theorem ledByKeyword_iff {line : Text} : LedByKeyword line ↔ (keyword? line).isSome = true := by
  constructor
  · rintro ⟨kind, indent, body, h⟩
    rw [keyword?_eq_some.mpr ⟨indent, h⟩, Option.isSome_some]
  · intro h
    obtain ⟨⟨kind, body⟩, h⟩ := Option.isSome_iff_exists.mp h
    obtain ⟨indent, h⟩ := keyword?_eq_some.mp h
    exact ⟨kind, indent, body, h⟩

/-! ## Lines -/

theorem semicolon_notMem_of_run {t : Text} (h : Run isBlank t) : CodePoint.ofChar ';' ∉ t := by
  intro hmem
  exact absurd (h _ hmem) (by decide)

theorem semicolon_notMem_of_isName {name : Text} (h : isName name = true) :
    CodePoint.ofChar ';' ∉ name := by
  intro hmem
  exact absurd (isNamePart_of_mem h hmem) (by decide)

theorem semicolon_notMem_path {p : DottedPath} (h : p.HasNames ∨ p.OnlyDots) :
    CodePoint.ofChar ';' ∉ p.text := by
  intro hmem
  exact absurd (isPathPart_of_mem h hmem) (by decide)

theorem AliasClause.semicolon_notMem {clause : Text} {alias? : Option Text}
    (h : AliasClause clause alias?) : CodePoint.ofChar ';' ∉ clause := by
  have hword : CodePoint.ofChar ';' ∉ Text.ofString "as" := by decide
  cases h with
  | none => simp
  | named hbefore hbetween hname =>
    simp [semicolon_notMem_of_run hbefore.run, semicolon_notMem_of_run hbetween.run,
      semicolon_notMem_of_isName hname, hword]

theorem Phrase.semicolon_notMem {phrase : Text} {form : Form} (h : Phrase phrase form) :
    CodePoint.ofChar ';' ∉ phrase := by
  have hword : CodePoint.ofChar ';' ∉ Text.ofString "import" := by decide
  cases h with
  | whole hpath hclause => simp [semicolon_notMem_path (.inl hpath), hclause.semicolon_notMem]
  | member hpath hbefore hafter hname hclause =>
    simp [semicolon_notMem_path hpath, semicolon_notMem_of_run hbefore.run,
      semicolon_notMem_of_run hafter.run, semicolon_notMem_of_isName hname,
      hclause.semicolon_notMem, hword]

/-- A phrase starts with a character of its path, before which a keyword does not end. -/
theorem Phrase.not_stops {phrase : Text} {form : Form} (h : Phrase phrase form) (rest : Text) :
    ¬Stops endsKeyword (phrase ++ rest) := by
  have hpath : ∃ (p : DottedPath) (more : Text), (p.HasNames ∨ p.OnlyDots) ∧
      phrase = p.text ++ more := by
    cases h with
    | @whole path clause _ hpath _ => exact ⟨path, clause, .inl hpath, rfl⟩
    | @member path _ _ _ _ _ hpath => exact ⟨path, _, hpath, rfl⟩
  obtain ⟨p, more, hp, rfl⟩ := hpath
  obtain ⟨c, letters, htext⟩ := List.exists_cons_of_ne_nil (text_ne_nil hp)
  have hc : c ∈ p.text := by simp [htext]
  intro hstop
  rw [htext] at hstop
  rcases endsKeyword_iff.mp (hstop c rfl) with hblank | hsemi
  · have hpart := isPathPart_of_mem hp hc
    rw [isPathPart_of_isBlank hblank] at hpart
    contradiction
  · exact semicolon_notMem_path hp (hsemi ▸ hc)

theorem stops_of_gap {gap : Text} (h : Gap isBlank gap) (rest : Text) :
    Stops endsKeyword (gap ++ rest) := by
  have hends : Run endsKeyword gap := fun c hc => endsKeyword_iff.mpr (.inl (h.run c hc))
  exact Gap.stops ⟨h.1, hends⟩

theorem Derives.ledByKeyword {line : Text} {form : Form} (h : Derives line form) :
    LedByKeyword line := by
  cases h with
  | @line indent gap phrase space closing tail form hindent hgap =>
    exact ⟨form.kind, indent, _, hindent, stops_of_gap hgap _, rfl⟩

theorem Derives.isProper {line : Text} {form : Form} (h : Derives line form) : form.IsProper := by
  cases h with
  | line _ _ hphrase => exact hphrase.isProper

/-- The statement of a line, if it has one. -/
def statement? (line : Text) : Option Statement :=
  (keyword? line).bind fun (kind, body) => Statement.ofBody? kind body

theorem Derives.statement?_eq {line : Text} {form : Form} (h : Derives line form) :
    statement? line = some form.statement := by
  cases h with
  | @line indent gap phrase space closing tail form hindent hgap hphrase hspace hclosing htail =>
    have hkeyword : keyword? (indent ++ (form.kind.keyword ++ (gap ++ (phrase ++ (space ++
        (closing ++ tail)))))) =
          some (form.kind, gap ++ (phrase ++ (space ++ (closing ++ tail)))) :=
      keyword?_eq_some.mpr ⟨indent, hindent, stops_of_gap hgap _, rfl⟩
    have hcore : CodePoint.ofChar ';' ∉ gap ++ (phrase ++ space) := by
      simp [semicolon_notMem_of_run hgap.run, hphrase.semicolon_notMem,
        semicolon_notMem_of_run hspace]
    have hwords := terminatedWords?_append hcore hclosing htail
    rw [(hphrase.spaced hgap.run hspace).words_eq] at hwords
    simp only [List.append_assoc] at hwords
    simp only [statement?, hkeyword, Option.bind_some, Statement.ofBody?, hwords,
      ofWords?_words hphrase.isProper]

theorem exists_derives {line : Text} {s : Statement} (h : statement? line = some s) :
    ∃ form, Derives line form ∧ form.statement = s := by
  obtain ⟨⟨kind, body⟩, hkeyword, hbody⟩ := Option.bind_eq_some_iff.mp h
  obtain ⟨ws, hterminated, hof⟩ := Option.bind_eq_some_iff.mp hbody
  obtain ⟨indent, hindent, hstop, rfl⟩ := keyword?_eq_some.mp hkeyword
  obtain ⟨core, closing, tail, rfl, hclosing, htail, hwords⟩ := exists_closing hterminated
  obtain ⟨form, hproper, rfl, rfl, rfl⟩ := exists_form hof
  obtain ⟨gap, phrase, space, rfl, hgap, hphrase, hspace⟩ :=
    exists_phrase hproper (Text.words_eq_iff.mp hwords)
  have hne : gap ≠ [] := by
    rintro rfl
    rw [List.nil_append, List.append_assoc] at hstop
    exact hphrase.not_stops _ hstop
  refine ⟨form, ?_, rfl⟩
  simpa using Derives.line hindent ⟨hne, hgap⟩ hphrase hspace hclosing htail

end Import
end GameArchive
