import GameArchive.Proofs.Import.Leading

/-!
# One import in two forms

`import P.C;` and `from P import C;` make the same import. The first form resolves the whole path,
the second resolves `P` and joins the name afterwards; both ways lead to the names that the base
keeps, then those of `P`, then `C`.
-/

namespace GameArchive
namespace Import

open Text (Gap WithoutEnd)
open CodePoint (isBlank)

namespace DottedPath

/-- The path with one more name behind it. -/
def extend (p : DottedPath) (name : Text) : DottedPath := ⟨p.dots, p.names ++ [name]⟩

/-- What the base keeps of its segments for the dots of the path. -/
def keptSegments (p : DottedPath) (base : Text) : List Text :=
  if p.dots = 0 then [] else (segments base).take ((segments base).length - p.dots)

/-- The names of the path as they are seen from the base. -/
def seenFrom (p : DottedPath) (base : Text) : List Text := p.keptSegments base ++ p.names

theorem HasNames.extend {p : DottedPath} (h : p.HasNames ∨ p.OnlyDots) {name : Text}
    (hname : isName name = true) : (p.extend name).HasNames := by
  refine ⟨by simp [DottedPath.extend], ?_⟩
  intro other hother
  rcases List.mem_append.mp hother with hother | hother
  · rcases h with h | h
    · exact h.2 other hother
    · rw [h.2] at hother
      contradiction
  · rwa [List.mem_singleton.mp hother]

/-- A dot comes before the new name unless the path is dots alone. -/
theorem text_extend (p : DottedPath) (name : Text) :
    (p.extend name).text = p.text ++ if p.names = [] then name else dot :: name := by
  unfold text extend
  split
  · next hnames => simp [hnames, leading, Text.join]
  · next hnames =>
    rw [join_concat _ _ hnames, dot_text]
    simp [leading]

theorem package_extend {p : DottedPath} (h : p.HasNames ∨ p.OnlyDots) (name : Text) :
    (p.extend name).package = p.text := by
  have hlong : ¬((p.extend name).dots = 0 ∧ (p.extend name).names.length = 1) := by
    rintro ⟨hdots, hlength⟩
    have hnames : p.names = [] := by simpa [extend] using hlength
    rcases h with h | h
    · exact h.1 hnames
    · exact Nat.ne_of_gt h.1 hdots
  rw [package, if_neg hlong]
  simp [extend, text, leading]

theorem lastName_extend (p : DottedPath) (name : Text) : (p.extend name).lastName = name := by
  simp [extend, lastName]

theorem seenFrom_extend (p : DottedPath) (name base : Text) :
    (p.extend name).seenFrom base = p.seenFrom base ++ [name] := by
  rw [seenFrom, seenFrom, List.append_assoc]
  rfl

end DottedPath

/-! ## Resolved paths -/

/-- A resolved path is its names as they are seen from the base, with single dots between them. -/
theorem resolve_text {p : DottedPath} (h : p.HasNames ∨ p.OnlyDots) (base : Text) :
    resolve p.text base = Text.join "." (p.seenFrom base) := by
  have hparts := parts_text (h.imp_right And.right)
  unfold resolve DottedPath.seenFrom DottedPath.keptSegments
  dsimp only
  rw [hparts.1]
  split
  · next hdots => simp [DottedPath.text, DottedPath.leading, hdots]
  · have hrest : (if (afterDots p.text).isEmpty then [] else [afterDots p.text]) =
        if p.names = [] then [] else [Text.join "." p.names] := by
      rcases h with h | h
      · have hne : afterDots p.text ≠ [] := mt hparts.2.mp h.1
        rw [afterDots_text h] at hne ⊢
        simp [hne, h.1]
      · simp [hparts.2.mpr h.2, h.2]
    rw [hrest]
    split
    · next hnames => rw [hnames]
    · next hnames =>
      by_cases hkept : (segments base).take ((segments base).length - p.dots) = []
      · simp [hkept, Text.join]
      · rw [join_append _ hkept hnames, join_append _ hkept (by simp), Text.join]

/-- A base that starts with no dot has no empty segment in front. -/
theorem ne_nil_of_head_segments {base first : Text} (hbase : ¬StartsWithDot base)
    (h : first ∈ (segments base).head?) : first ≠ [] := by
  obtain ⟨rest, hsegments⟩ := List.head?_eq_some_iff.mp h
  rintro rfl
  have hrest : rest = [] := by
    by_contra hrest
    exact hbase ((startsWithDot_iff_segments hsegments).mpr ⟨rfl, hrest⟩)
  have hempty : base = [] := by
    rw [← join_segments base, hsegments, hrest]
    rfl
  rw [hempty] at hsegments
  contradiction

theorem ne_nil_of_head_seenFrom {p : DottedPath} (h : p.HasNames ∨ p.OnlyDots) {base first : Text}
    (hbase : ¬StartsWithDot base) (hfirst : first ∈ (p.seenFrom base).head?) : first ≠ [] := by
  rw [DottedPath.seenFrom, List.head?_append] at hfirst
  rcases Option.or_eq_some_iff.mp hfirst with hkept | ⟨-, hnames⟩
  · unfold DottedPath.keptSegments at hkept
    split at hkept
    · contradiction
    · rw [List.head?_take] at hkept
      split at hkept
      · contradiction
      · exact ne_nil_of_head_segments hbase hkept
  · rcases h with h | h
    · exact ne_nil_of_isName (h.2 first (List.mem_of_head? hnames))
    · rw [h.2] at hnames
      contradiction

theorem join_eq_nil {pieces : List Text} (h : ∀ first ∈ pieces.head?, first ≠ []) :
    Text.join "." pieces = [] ↔ pieces = [] := by
  cases pieces with
  | nil => simp [Text.join]
  | cons first rest =>
    have hfirst : first ≠ [] := h first rfl
    cases rest <;> simp [Text.join, hfirst]

theorem resolve_text_eq_nil {p : DottedPath} (h : p.HasNames ∨ p.OnlyDots) {base : Text}
    (hbase : ¬StartsWithDot base) : resolve p.text base = [] ↔ p.seenFrom base = [] := by
  rw [resolve_text h]
  exact join_eq_nil fun _ hfirst => ne_nil_of_head_seenFrom h hbase hfirst

theorem resolve_extend {p : DottedPath} (h : p.HasNames ∨ p.OnlyDots) {name base : Text}
    (hname : isName name = true) (hbase : ¬StartsWithDot base) :
    resolve (p.extend name).text base = joinParts [resolve p.text base, name] := by
  have hextend : resolve (p.extend name).text base = Text.join "." (p.seenFrom base ++ [name]) := by
    rw [resolve_text (.inl (.extend h hname)), DottedPath.seenFrom_extend]
  rw [hextend, joinParts_pair _ (ne_nil_of_isName hname)]
  split
  · next hnone =>
    rw [(resolve_text_eq_nil h hbase).mp hnone]
    rfl
  · next hsome =>
    have hne : p.seenFrom base ≠ [] := mt (resolve_text_eq_nil h hbase).mpr hsome
    rw [join_concat _ _ hne, resolve_text h, dot_text, List.append_assoc, List.singleton_append]

/-- The two forms differ in their kind alone. -/
theorem record_twins {p : DottedPath} (h : p.HasNames ∨ p.OnlyDots) {name base : Text}
    (hname : isName name = true) (hbase : ¬StartsWithDot base) (line : Nat) :
    (Form.whole (p.extend name) none).record base line =
      { (Form.member p name none).record base line with kind := .import_ } := by
  simp only [Form.record, DottedPath.package_extend h, DottedPath.lastName_extend,
    Option.getD_none, resolve_extend h hname hbase]

/-! ## Lines -/

/-- The line that imports the path. -/
def wholeLine (path : Text) : Text := Text.ofString "import " ++ path ++ Text.ofString ";"

/-- The line that imports the name from the path. -/
def memberLine (path name : Text) : Text :=
  Text.ofString "from " ++ path ++ Text.ofString " import " ++ name ++ Text.ofString ";"

theorem gap_space : Gap isBlank (Text.ofString " ") := by decide

theorem gap_semicolon : Gap isSemicolon (Text.ofString ";") := by decide

theorem derives_wholeLine {p : DottedPath} (h : p.HasNames) :
    Derives (wholeLine p.text) (.whole p none) := by
  have hline := Derives.line Text.run_nil gap_space (.whole h .none) Text.run_nil gap_semicolon
    Text.run_nil
  simp only [List.nil_append, List.append_nil] at hline
  rw [wholeLine, List.append_assoc]
  exact hline

theorem derives_memberLine {p : DottedPath} (h : p.HasNames ∨ p.OnlyDots) {name : Text}
    (hname : isName name = true) : Derives (memberLine p.text name) (.member p name none) := by
  have hline := Derives.line Text.run_nil gap_space (.member h gap_space gap_space hname .none)
    Text.run_nil gap_semicolon Text.run_nil
  simp only [List.nil_append, List.append_nil, List.append_assoc] at hline
  simp only [memberLine, List.append_assoc]
  exact hline

theorem withoutEnd_append {s t : Text} (hs : WithoutEnd s) (ht : WithoutEnd t) :
    WithoutEnd (s ++ t) := by
  intro c hc
  rcases List.mem_append.mp hc with hc | hc
  · exact hs c hc
  · exact ht c hc

theorem withoutEnd_path {p : DottedPath} (h : p.HasNames ∨ p.OnlyDots) : WithoutEnd p.text := by
  intro c hc
  rw [← Bool.not_eq_true]
  intro hend
  have hpart := isPathPart_of_mem h hc
  rw [isPathPart_of_isBlank (CodePoint.isBlank_of_isLineEnd hend)] at hpart
  contradiction

theorem withoutEnd_name {name : Text} (h : isName name = true) : WithoutEnd name := by
  intro c hc
  rw [← Bool.not_eq_true]
  intro hend
  have hpart := isNamePart_of_mem h hc
  rw [isNamePart_of_isBlank (CodePoint.isBlank_of_isLineEnd hend)] at hpart
  contradiction

theorem withoutEnd_wholeLine {path : Text} (h : WithoutEnd path) : WithoutEnd (wholeLine path) := by
  have hword : WithoutEnd (Text.ofString "import ") := by decide
  have hclosing : WithoutEnd (Text.ofString ";") := by decide
  exact withoutEnd_append (withoutEnd_append hword h) hclosing

theorem withoutEnd_memberLine {path name : Text} (hpath : WithoutEnd path)
    (hname : WithoutEnd name) : WithoutEnd (memberLine path name) := by
  have hfrom : WithoutEnd (Text.ofString "from ") := by decide
  have himport : WithoutEnd (Text.ofString " import ") := by decide
  have hclosing : WithoutEnd (Text.ofString ";") := by decide
  exact withoutEnd_append (withoutEnd_append (withoutEnd_append (withoutEnd_append hfrom hpath)
    himport) hname) hclosing

theorem Derives.ne_nil {line : Text} {form : Form} (h : Derives line form) : line ≠ [] := by
  have hkeyword : form.kind.keyword ≠ [] := by cases form.kind <;> decide
  cases h
  simp [hkeyword]

/-- A line of the grammar that stands alone is scanned to its record. -/
theorem scan_line (base : Text) {line : Text} {form : Form} (h : Derives line form)
    (hline : WithoutEnd line) : scan base line = ⟨[form.record base 1], []⟩ := by
  have hentries : entries base line = [.record (form.record base 1)] := by
    rw [entries, Text.lines_eq_iff.mpr (.last h.ne_nil hline), entriesFrom_cons,
      entryOf?_of_derives base 1 h]
    rfl
  rw [scan, hentries]
  rfl

/-- The two forms of one import scan to records that differ in their kind alone. Its full path is
the name behind the package and a dot, or the name alone if the base is used up, and no dots are
left before either. -/
theorem scan_twins {p : DottedPath} (h : p.HasNames ∨ p.OnlyDots) {name base : Text}
    (hname : isName name = true) (hbase : ¬StartsWithDot base) :
    ∃ whole member : Record,
      scan base (wholeLine (p.text ++ if p.names = [] then name else dot :: name)) =
        ⟨[whole], []⟩ ∧
      scan base (memberLine p.text name) = ⟨[member], []⟩ ∧
      whole.package = member.package ∧ whole.className = member.className ∧
      whole.localName = member.localName ∧ whole.resolvedPath = member.resolvedPath ∧
      whole.className = name ∧ whole.localName = name ∧
      whole.resolvedPath = (if whole.package = [] then name else whole.package ++ dot :: name) ∧
      ¬StartsWithDot whole.package ∧ ¬StartsWithDot whole.resolvedPath := by
  have hextend : (p.extend name).HasNames := .extend h hname
  have hproper : (Form.member p name none).IsProper := ⟨h, hname, by simp⟩
  have htwins := record_twins h hname hbase 1
  refine ⟨(Form.whole (p.extend name) none).record base 1, (Form.member p name none).record base 1,
    ?_, ?_, ?_⟩
  · rw [← DottedPath.text_extend]
    exact scan_line base (derives_wholeLine hextend)
      (withoutEnd_wholeLine (withoutEnd_path (.inl hextend)))
  · exact scan_line base (derives_memberLine h hname)
      (withoutEnd_memberLine (withoutEnd_path h) (withoutEnd_name hname))
  · rw [htwins]
    refine ⟨rfl, rfl, rfl, rfl, rfl, rfl, joinParts_pair _ (ne_nil_of_isName hname), ?_, ?_⟩
    · exact fun hdot => hbase ((Form.startsWithDot_package hproper base 1).mp hdot).1
    · exact fun hdot => hbase ((Form.startsWithDot_resolvedPath hproper base 1).mp hdot).1

/-- Two dots leave one of three segments. -/
theorem scan_twins_relative :
    DottedPath.HasNames ⟨2, ["a"]⟩ ∧ isName "C" = true ∧ ¬StartsWithDot "x.y.z" ∧
      ∃ whole member : Record,
        scan "x.y.z" "import ..a.C;" = ⟨[whole], []⟩ ∧
        scan "x.y.z" "from ..a import C;" = ⟨[member], []⟩ ∧
        whole.package = member.package ∧ whole.className = member.className ∧
        whole.localName = member.localName ∧ whole.resolvedPath = member.resolvedPath ∧
        whole.package = Text.ofString "x.a" ∧ whole.className = Text.ofString "C" ∧
        whole.resolvedPath = Text.ofString "x.a.C" ∧ ¬StartsWithDot whole.resolvedPath := by
  have hpath : DottedPath.HasNames ⟨2, ["a"]⟩ := by
    unfold DottedPath.HasNames
    decide
  have hbase : ¬StartsWithDot "x.y.z" := by decide
  have hname : isName (Text.ofString "C") = true := by decide
  have htwins := scan_twins (.inl hpath) hname hbase
  have hwholeLine : wholeLine (DottedPath.text ⟨2, ["a"]⟩ ++ dot :: Text.ofString "C") =
      Text.ofString "import ..a.C;" := by decide +kernel
  have hmemberLine : memberLine (DottedPath.text ⟨2, ["a"]⟩) (Text.ofString "C") =
      Text.ofString "from ..a import C;" := by decide +kernel
  rw [if_neg (List.cons_ne_nil _ _), hwholeLine, hmemberLine] at htwins
  obtain ⟨whole, member, hwhole, hmember, hpackage, hclass, hlocal, hresolved, hgiven, -, hjoined,
    -, hdot⟩ := htwins
  have hkept : whole.package = Text.ofString "x.a" := by
    have hrecord : scan "x.y.z" "import ..a.C;" =
        ⟨[⟨.import_, "x.a", "C", "C", "x.a.C", 1⟩], []⟩ := by decide +kernel
    have hsame := hwhole.symm.trans hrecord
    simp only [Scan.mk.injEq, List.cons.injEq, and_true] at hsame
    rw [hsame]
  rw [hkept, if_neg (by decide)] at hjoined
  exact ⟨hpath, hname, hbase, whole, member, hwhole, hmember, hpackage, hclass, hlocal,
    hresolved, hkept, hgiven, hjoined, hdot⟩

end Import
end GameArchive
