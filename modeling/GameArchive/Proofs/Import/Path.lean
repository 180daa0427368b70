import GameArchive.Import.Path
import GameArchive.Proofs.Text.Breaks
import GameArchive.Proofs.Text.Class
import GameArchive.Proofs.Text.Words

/-!
# Dotted paths by their parts

A path is given by the number of its leading dots and by its names. What the functions on paths find
in the text of such a path are these parts.
-/

namespace GameArchive
namespace Import

def dot : CodePoint := '.'

/-! ## Characters of names -/

theorem isNamePart_of_isNameStart {c : CodePoint} (h : isNameStart c = true) :
    isNamePart c = true := by
  unfold isNameStart at h
  unfold isNamePart CodePoint.isWord
  simp only [Bool.or_eq_true, decide_eq_true_eq] at h ⊢
  rcases h with (h | rfl) | rfl
  · have hascii : c.val < 0x80 := by
      simp only [CodePoint.isLetter, CodePoint.between, Bool.or_eq_true, Bool.and_eq_true,
        decide_eq_true_eq] at h
      have hz : ('z').val.toNat < 0x80 := by decide
      have hZ : ('Z').val.toNat < 0x80 := by decide
      omega
    simp [hascii, h]
  · decide
  · decide

theorem isNamePart_of_mem {name : Text} (h : isName name = true) {c : CodePoint} (hc : c ∈ name) :
    isNamePart c = true := by
  cases name with
  | nil => contradiction
  | cons first rest =>
    rw [isName, Bool.and_eq_true, List.all_eq_true] at h
    rcases List.mem_cons.mp hc with rfl | hc
    · exact isNamePart_of_isNameStart h.1
    · exact h.2 c hc

theorem ne_nil_of_isName {name : Text} (h : isName name = true) : name ≠ [] := by
  rintro rfl
  contradiction

theorem isNamePart_of_isBlank {c : CodePoint} (h : c.isBlank = true) : isNamePart c = false := by
  have hdollar : c ≠ CodePoint.ofChar '$' := by
    rintro rfl
    exact absurd h (by decide)
  simp [isNamePart, CodePoint.isWord_of_isBlank h, hdollar]

theorem dot_notMem_of_isName {name : Text} (h : isName name = true) : dot ∉ name := by
  intro hmem
  exact absurd (isNamePart_of_mem h hmem) (by decide)

/-! ## Paths -/

/-- Leading dots and names. -/
structure DottedPath where
  dots : Nat
  names : List Text

namespace DottedPath

def leading (p : DottedPath) : Text := List.replicate p.dots dot

/-- The path as it is written. -/
def text (p : DottedPath) : Text := p.leading ++ Text.join "." p.names

/-- One name at least, and only names between the dots. -/
def HasNames (p : DottedPath) : Prop := p.names ≠ [] ∧ ∀ name ∈ p.names, isName name = true

/-- One dot at least, and nothing else. -/
def OnlyDots (p : DottedPath) : Prop := 0 < p.dots ∧ p.names = []

def lastName (p : DottedPath) : Text := p.names.getLast?.getD []

/-- Where the last name is taken from. A single name without dots is its own package. -/
def package (p : DottedPath) : Text :=
  if p.dots = 0 ∧ p.names.length = 1 then p.text else p.leading ++ Text.join "." p.names.dropLast

end DottedPath

theorem dot_text : Text.ofString "." = [dot] := by decide

theorem head_join_of_names {names : List Text} (hne : names ≠ [])
    (h : ∀ name ∈ names, isName name = true) :
    ∃ c rest, Text.join "." names = c :: rest ∧ isNameStart c = true := by
  obtain ⟨name, names, rfl⟩ := List.exists_cons_of_ne_nil hne
  have hname := h name List.mem_cons_self
  cases name with
  | nil => contradiction
  | cons c name =>
    rw [isName, Bool.and_eq_true] at hname
    cases names with
    | nil => exact ⟨c, name, rfl, hname.1⟩
    | cons second names => exact ⟨c, _, rfl, hname.1⟩

theorem isDot_iff {c : CodePoint} : isDot c = true ↔ c = dot := decide_eq_true_iff

theorem isDot_of_isNameStart {c : CodePoint} (h : isNameStart c = true) : isDot c = false := by
  rw [← Bool.not_eq_true, isDot_iff]
  rintro rfl
  exact absurd h (by decide)

section HasNames

variable {p : DottedPath} (h : p.HasNames)

include h

theorem leadingDots_text : leadingDots p.text = p.leading := by
  obtain ⟨c, rest, hjoin, hc⟩ := head_join_of_names h.1 h.2
  rw [leadingDots, DottedPath.text, hjoin, List.takeWhile_append_of_pos,
    List.takeWhile_cons_of_neg, List.append_nil]
  · simp [isDot_of_isNameStart hc]
  · intro d hd
    rw [List.eq_of_mem_replicate hd]
    rfl

theorem afterDots_text : afterDots p.text = Text.join "." p.names := by
  obtain ⟨c, rest, hjoin, hc⟩ := head_join_of_names h.1 h.2
  rw [afterDots, DottedPath.text, hjoin, List.dropWhile_append_of_pos,
    List.dropWhile_cons_of_neg]
  · simp [isDot_of_isNameStart hc]
  · intro d hd
    rw [List.eq_of_mem_replicate hd]
    rfl

theorem split_join_names : (Text.join "." p.names).split dot = p.names := by
  have hdot : ∀ name ∈ p.names, dot ∉ name := by
    intro name hname
    exact dot_notMem_of_isName (h.2 name hname)
  rw [Text.join_eq_intercalate, Text.split_eq_splitOn, dot_text,
    List.splitOn_intercalate dot hdot h.1]

end HasNames

theorem leadingDots_eq (t : Text) :
    leadingDots t = List.replicate (leadingDots t).length dot := by
  rw [List.eq_replicate_iff]
  refine ⟨rfl, ?_⟩
  intro c hc
  exact isDot_iff.mp (List.mem_takeWhile_imp hc)

theorem isPath_iff {t : Text} : isPath t = true ↔ ∃ p : DottedPath, p.HasNames ∧ p.text = t := by
  constructor
  · intro h
    rw [isPath, List.all_eq_true] at h
    refine ⟨⟨(leadingDots t).length, (afterDots t).split dot⟩, ⟨Text.split_ne_nil _ _, h⟩, ?_⟩
    rw [DottedPath.text, DottedPath.leading, ← leadingDots_eq, Text.join_eq_intercalate,
      Text.split_eq_splitOn, dot_text, List.intercalate_splitOn]
    exact List.takeWhile_append_dropWhile
  · rintro ⟨p, h, rfl⟩
    rw [isPath, afterDots_text h, ← dot, split_join_names h, List.all_eq_true]
    exact h.2

theorem isDots_iff {t : Text} : isDots t = true ↔ ∃ p : DottedPath, p.OnlyDots ∧ p.text = t := by
  constructor
  · intro h
    simp only [isDots, Bool.and_eq_true, Bool.not_eq_true', List.all_eq_true] at h
    refine ⟨⟨t.length, []⟩, ⟨?_, rfl⟩, ?_⟩
    · exact List.length_pos_iff.mpr (by simpa using h.1)
    · have ht : t = List.replicate t.length dot := by
        rw [List.eq_replicate_iff]
        refine ⟨rfl, ?_⟩
        intro c hc
        exact isDot_iff.mp (h.2 c hc)
      rw [DottedPath.text, DottedPath.leading, Text.join, List.append_nil, ← ht]
  · rintro ⟨⟨dots, names⟩, ⟨hpos, rfl⟩, rfl⟩
    have hne : dots ≠ 0 := Nat.ne_of_gt hpos
    simp [isDots, DottedPath.text, DottedPath.leading, Text.join, isDot, dot, hne]

/-! ## The last name -/

theorem splitLast_of_notMem {t : Text} (h : dot ∉ t) : splitLast t = (none, t) := by
  have hall : (t.reverse.takeWhile (!isDot ·)) = t.reverse := by
    rw [List.takeWhile_eq_self_iff]
    intro c hc
    rw [Bool.not_eq_true', ← Bool.not_eq_true, isDot_iff]
    rintro rfl
    exact h (List.mem_reverse.mp hc)
  simp [splitLast, hall]

theorem splitLast_append {head last : Text} (h : dot ∉ last) :
    splitLast (head ++ dot :: last) = (some head, last) := by
  have hlast : ((head ++ dot :: last).reverse.takeWhile (!isDot ·)) = last.reverse := by
    rw [List.reverse_append, List.reverse_cons, List.append_assoc, List.takeWhile_append_of_pos,
      List.singleton_append, List.takeWhile_cons_of_neg, List.append_nil]
    · simp [isDot, dot]
    · intro c hc
      rw [Bool.not_eq_true', ← Bool.not_eq_true, isDot_iff]
      rintro rfl
      exact h (List.mem_reverse.mp hc)
  have hlength : (head ++ dot :: last).length - last.length - 1 = head.length := by
    simp only [List.length_append, List.length_cons]
    omega
  have hne : last.length ≠ (head ++ dot :: last).length := by
    simp only [List.length_append, List.length_cons]
    omega
  simp only [splitLast, hlast, List.reverse_reverse, if_neg hne, hlength]
  rw [List.take_left]

theorem join_append (separator : Text) {before after : List Text} (hbefore : before ≠ [])
    (hafter : after ≠ []) :
    Text.join separator (before ++ after) =
      Text.join separator before ++ separator ++ Text.join separator after := by
  induction before with
  | nil => contradiction
  | cons first before ih =>
    cases before with
    | nil =>
      obtain ⟨second, after, rfl⟩ := List.exists_cons_of_ne_nil hafter
      simp [Text.join]
    | cons second before =>
      have hrest := ih (by simp)
      simp only [List.cons_append] at hrest
      simp [Text.join, hrest]

theorem join_concat (separator last : Text) {texts : List Text} (hne : texts ≠ []) :
    Text.join separator (texts ++ [last]) = Text.join separator texts ++ separator ++ last :=
  join_append separator hne (by simp)

/-- A name alone, or behind its package and a dot. -/
theorem joinParts_pair (package : Text) {name : Text} (hname : name ≠ []) :
    joinParts [package, name] =
      if package = [] then name else package ++ dot :: name := by
  split
  · next hpackage => simp [joinParts, hpackage, hname, Text.join]
  · next hpackage => simp [joinParts, hpackage, hname, Text.join, dot_text]

theorem splitName_text {p : DottedPath} (h : p.HasNames) :
    splitName p.text = (p.package, p.lastName) := by
  rw [splitName, leadingDots_text h, afterDots_text h, DottedPath.package, DottedPath.lastName]
  obtain ⟨init, last, hnames⟩ := (List.eq_nil_or_concat p.names).resolve_left h.1
  have hlast : dot ∉ last := dot_notMem_of_isName (h.2 last (by simp [hnames]))
  by_cases hinit : init = []
  · subst hinit
    have hempty : p.leading.isEmpty = decide (p.dots = 0) := by
      simp [DottedPath.leading]
    simp [hnames, Text.join, splitLast_of_notMem hlast, hempty]
    split <;> rfl
  · have hjoin : Text.join "." p.names = Text.join "." init ++ dot :: last := by
      rw [hnames, List.concat_eq_append, join_concat _ _ hinit, dot_text]
      simp
    have hlength : ¬(p.dots = 0 ∧ p.names.length = 1) := by
      simp [hnames, hinit]
    rw [hjoin, splitLast_append hlast, if_neg hlength]
    simp [hnames]

end Import
end GameArchive
