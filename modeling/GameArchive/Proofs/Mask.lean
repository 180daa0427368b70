import GameArchive.Mask
import GameArchive.Proofs.Text.Basic
import GameArchive.Proofs.Text.Breaks

/-!
# Masking and unmasking

Both work line by line. A mask keeps the kind of a line, and no line is a directive and an import at
once, so the two passes of `sanitize` put on one mask at most and those of `unsanitize` take off one
mask at most: each pair of passes is a single pass for the marked lines. Unmasking goes by the form
of a line alone: it changes every line of the masked form, and takes nothing but slashes from a text.
-/

namespace GameArchive
namespace Mask

open Text (breaks lineFeed afterPrefix?_eq_some)

/-- The lines that are masked by one pass or the other. -/
def isMarked (line : Text) : Bool := isDirective line || isImport line

/-! ## Kinds of lines -/

/-- A kind of lines that a mask on a line neither adds to nor takes from. -/
def IgnoresMask (marked : Text → Bool) : Prop := ∀ line, marked (slashes ++ line) = marked line

theorem isDirective_ignoresMask : IgnoresMask isDirective := by
  intro line
  rfl

theorem isImport_ignoresMask : IgnoresMask isImport := by
  intro line
  rfl

theorem isMarked_ignoresMask : IgnoresMask isMarked := by
  intro line
  rw [isMarked, isDirective_ignoresMask, isImport_ignoresMask, isMarked]

theorem isImport_numberSign (rest : Text) : isImport (CodePoint.ofChar '#' :: rest) = false := by
  cases rest <;> rfl

/-- Both kinds are decided behind all double slashes: by a number sign or by a keyword. -/
theorem isImport_of_isDirective {line : Text} (h : isDirective line = true) :
    isImport line = false := by
  induction line using isDirective.induct with
  | case1 c d rest hslash ih =>
    obtain ⟨rfl, rfl⟩ := hslash
    exact ih h
  | case2 c d rest hslash =>
    rw [isDirective, if_neg hslash, decide_eq_true_eq] at h
    rw [h, isImport_numberSign]
  | case3 c =>
    rw [isDirective, decide_eq_true_eq] at h
    rw [h, isImport_numberSign]
  | case4 => rfl

/-! ## Single lines -/

theorem maskLine_of_marked {marked : Text → Bool} {line : Text} (h : marked line = true) :
    maskLine marked line = slashes ++ line := if_pos h

theorem maskLine_of_not_marked {marked : Text → Bool} {line : Text} (h : marked line = false) :
    maskLine marked line = line := by
  rw [maskLine, h]
  rfl

theorem unmaskLine_masked {marked : Text → Bool} {line : Text} (h : marked line = true) :
    unmaskLine marked (slashes ++ line) = line := by
  rw [unmaskLine, afterPrefix?_eq_some.mpr rfl]
  exact if_pos h

/-- Nothing is taken off a line under which no line of the kind lies. -/
theorem unmaskLine_eq_self {marked : Text → Bool} {line : Text}
    (h : ∀ inner, line = slashes ++ inner → marked inner = false) :
    unmaskLine marked line = line := by
  unfold unmaskLine
  cases hp : Text.afterPrefix? slashes line with
  | none => rfl
  | some inner => simp [h inner (afterPrefix?_eq_some.mp hp)]

theorem unmaskLine_maskLine {marked : Text → Bool} (hm : IgnoresMask marked) (line : Text) :
    unmaskLine marked (maskLine marked line) = line := by
  cases h : marked line with
  | true => rw [maskLine_of_marked h, unmaskLine_masked h]
  | false =>
    rw [maskLine_of_not_marked h]
    apply unmaskLine_eq_self
    intro inner hinner
    rw [← hm, ← hinner, h]

/-- The second pass leaves alone what the first one has masked. -/
theorem maskLine_isImport_maskLine (line : Text) :
    maskLine isImport (maskLine isDirective line) = maskLine isMarked line := by
  cases h : isDirective line with
  | true =>
    have himport : isImport (slashes ++ line) = false := by
      rw [isImport_ignoresMask, isImport_of_isDirective h]
    rw [maskLine_of_marked h, maskLine_of_not_marked himport, maskLine_of_marked]
    rw [isMarked, h, Bool.true_or]
  | false =>
    rw [maskLine_of_not_marked h, maskLine, maskLine, isMarked, h, Bool.false_or]

/-- The second pass leaves alone what the first one has uncovered. -/
theorem unmaskLine_isImport_unmaskLine (line : Text) :
    unmaskLine isImport (unmaskLine isDirective line) = unmaskLine isMarked line := by
  by_cases hline : ∃ inner, line = slashes ++ inner
  · obtain ⟨inner, rfl⟩ := hline
    cases h : isDirective inner with
    | true =>
      rw [unmaskLine_masked h, unmaskLine_masked (by rw [isMarked, h, Bool.true_or])]
      apply unmaskLine_eq_self
      intro core hcore
      rw [← isImport_ignoresMask, ← hcore, isImport_of_isDirective h]
    | false =>
      have hstay : unmaskLine isDirective (slashes ++ inner) = slashes ++ inner := by
        apply unmaskLine_eq_self
        intro other hother
        rw [← List.append_cancel_left hother, h]
      rw [hstay, unmaskLine, unmaskLine, afterPrefix?_eq_some.mpr rfl]
      simp [isMarked, h]
  · have hplain : ∀ marked : Text → Bool, unmaskLine marked line = line := by
      intro marked
      apply unmaskLine_eq_self
      intro inner hinner
      exact absurd ⟨inner, hinner⟩ hline
    rw [hplain, hplain, hplain]

theorem lineFeed_notMem_slashes : lineFeed ∉ slashes := by decide

theorem lineFeed_notMem_maskLine (marked : Text → Bool) {line : Text} (h : lineFeed ∉ line) :
    lineFeed ∉ maskLine marked line := by
  unfold maskLine
  split
  · rw [List.mem_append, not_or]
    exact ⟨lineFeed_notMem_slashes, h⟩
  · exact h

theorem lineFeed_notMem_unmaskLine (marked : Text → Bool) {line : Text} (h : lineFeed ∉ line) :
    lineFeed ∉ unmaskLine marked line := by
  unfold unmaskLine
  split
  · rename_i inner hp
    split
    · rw [afterPrefix?_eq_some.mp hp, List.mem_append, not_or] at h
      exact h.2
    · exact h
  · exact h

/-! ## Whole texts -/

theorem breaks_maskLines (marked : Text → Bool) (code : Text) :
    Text.breaks (maskLines marked code) = (Text.breaks code).map (maskLine marked) :=
  Text.breaks_join_map code fun _ => lineFeed_notMem_maskLine marked

theorem breaks_unmaskLines (marked : Text → Bool) (code : Text) :
    Text.breaks (unmaskLines marked code) = (Text.breaks code).map (unmaskLine marked) :=
  Text.breaks_join_map code fun _ => lineFeed_notMem_unmaskLine marked

theorem sanitize_eq (code : Text) : sanitize code = maskLines isMarked code := by
  have h : maskLine isImport ∘ maskLine isDirective = maskLine isMarked :=
    funext maskLine_isImport_maskLine
  rw [sanitize, maskLines, breaks_maskLines, List.map_map, h, maskLines]

theorem unsanitize_eq (code : Text) : unsanitize code = unmaskLines isMarked code := by
  have h : unmaskLine isImport ∘ unmaskLine isDirective = unmaskLine isMarked :=
    funext unmaskLine_isImport_unmaskLine
  rw [unsanitize, unmaskLines, breaks_unmaskLines, List.map_map, h, unmaskLines]

theorem unmaskLines_maskLines {marked : Text → Bool} (hm : IgnoresMask marked) (code : Text) :
    unmaskLines marked (maskLines marked code) = code := by
  have h : unmaskLine marked ∘ maskLine marked = id := funext (unmaskLine_maskLine hm)
  rw [unmaskLines, breaks_maskLines, List.map_map, h, List.map_id, Text.join_breaks]

/-- Unmasking undoes masking, whatever lines and masks the code has. -/
theorem unsanitize_sanitize (code : Text) : unsanitize (sanitize code) = code := by
  rw [sanitize_eq, unsanitize_eq, unmaskLines_maskLines isMarked_ignoresMask]

/-! ## Lines of the masked form -/

/-- The line has the form of a masked one: slashes before a line of the kind to be masked. -/
def IsMasked (line : Text) : Prop := ∃ inner, line = slashes ++ inner ∧ isMarked inner = true

theorem IsMasked.isMarked {line : Text} (h : IsMasked line) : isMarked line = true := by
  obtain ⟨inner, rfl, hinner⟩ := h
  rwa [isMarked_ignoresMask]

theorem unmaskLine_eq_self_iff {line : Text} :
    unmaskLine isMarked line = line ↔ ¬IsMasked line := by
  constructor
  · rintro h ⟨inner, rfl, hinner⟩
    rw [unmaskLine_masked hinner] at h
    have hlength := congrArg List.length h
    rw [List.length_append, show slashes.length = 2 from rfl] at hlength
    omega
  · intro h
    apply unmaskLine_eq_self
    intro inner hline
    rw [← Bool.not_eq_true]
    intro hinner
    exact h ⟨inner, hline, hinner⟩

theorem map_breaks_eq_self_iff {f : Text → Text} {code : Text} :
    (breaks code).map f = breaks code ↔ ∀ line ∈ breaks code, f line = line := by
  have h : (breaks code).map f = (breaks code).map id ↔ ∀ line ∈ breaks code, f line = id line :=
    List.map_inj_left
  rwa [List.map_id] at h

theorem unsanitize_eq_self_iff {code : Text} :
    unsanitize code = code ↔ ∀ line ∈ breaks code, ¬IsMasked line := by
  have hmap : unsanitize code = code ↔ (breaks code).map (unmaskLine isMarked) = breaks code := by
    rw [unsanitize_eq, ← breaks_unmaskLines]
    constructor
    · intro h
      rw [h]
    · intro h
      rw [← Text.join_breaks (unmaskLines isMarked code), h, Text.join_breaks]
  rw [hmap, map_breaks_eq_self_iff]
  simp only [unmaskLine_eq_self_iff]

/-- Code that masking leaves as it is has no line to be masked. -/
theorem isMarked_of_sanitize_eq_self {code line : Text} (h : sanitize code = code)
    (hline : line ∈ breaks code) : isMarked line = false := by
  have hmap : (breaks code).map (maskLine isMarked) = breaks code := by
    rw [← breaks_maskLines, ← sanitize_eq, h]
  rw [← Bool.not_eq_true]
  intro hmarked
  have hself := map_breaks_eq_self_iff.mp hmap line hline
  rw [maskLine_of_marked hmarked] at hself
  have hlength := congrArg List.length hself
  rw [List.length_append, show slashes.length = 2 from rfl] at hlength
  omega

/-! ## Texts in unmasked code -/

def slash : CodePoint := '/'

/-- The second text is the first one without some of its slashes. -/
inductive LosesSlashes : Text → Text → Prop where
  | nil : LosesSlashes [] []
  | keep {c : CodePoint} {s t : Text} : LosesSlashes s t → LosesSlashes (c :: s) (c :: t)
  | lose {s t : Text} : LosesSlashes s t → LosesSlashes (slash :: s) t

namespace LosesSlashes

theorem refl (t : Text) : LosesSlashes t t := by
  induction t with
  | nil => exact .nil
  | cons c t ih => exact .keep ih

theorem append {s s' t t' : Text} (hs : LosesSlashes s s') (ht : LosesSlashes t t') :
    LosesSlashes (s ++ t) (s' ++ t') := by
  induction hs with
  | nil => exact ht
  | keep _ ih => exact .keep ih
  | lose _ ih => exact .lose ih

theorem exists_append {s t u : Text} (h : LosesSlashes (s ++ t) u) :
    ∃ s' t', u = s' ++ t' ∧ LosesSlashes s s' ∧ LosesSlashes t t' := by
  induction s generalizing u with
  | nil => exact ⟨[], u, rfl, .nil, h⟩
  | cons c s ih =>
    cases h with
    | keep h =>
      obtain ⟨s', t', rfl, hs, ht⟩ := ih h
      exact ⟨c :: s', t', rfl, .keep hs, ht⟩
    | lose h =>
      obtain ⟨s', t', rfl, hs, ht⟩ := ih h
      exact ⟨s', t', rfl, .lose hs, ht⟩

theorem eq_of_notMem {s t : Text} (h : LosesSlashes s t) (hs : slash ∉ s) : t = s := by
  induction h with
  | nil => rfl
  | keep _ ih =>
    rw [List.mem_cons, not_or] at hs
    rw [ih hs.2]
  | lose => simp at hs

/-- A text without slashes is not torn apart. -/
theorem isInfix {s t text : Text} (h : LosesSlashes s t) (htext : slash ∉ text)
    (hpart : text <:+: s) : text <:+: t := by
  obtain ⟨before, after, rfl⟩ := hpart
  obtain ⟨before', after', rfl, hbefore, -⟩ := exists_append h
  obtain ⟨before', text', rfl, -, hmiddle⟩ := exists_append hbefore
  rw [hmiddle.eq_of_notMem htext]
  exact ⟨before', after', rfl⟩

theorem join (separator : Text) {f : Text → Text} (h : ∀ line, LosesSlashes line (f line))
    (lines : List Text) :
    LosesSlashes (Text.join separator lines) (Text.join separator (lines.map f)) := by
  induction lines with
  | nil => exact .nil
  | cons line lines ih =>
    cases lines with
    | nil => exact h line
    | cons other lines => exact ((h line).append (refl separator)).append ih

end LosesSlashes

theorem losesSlashes_unmaskLine (marked : Text → Bool) (line : Text) :
    LosesSlashes line (unmaskLine marked line) := by
  unfold unmaskLine
  split
  · next inner hinner =>
    rw [Text.afterPrefix?_eq_some.mp hinner]
    split
    · exact .lose (.lose (.refl inner))
    · exact .refl _
  · exact .refl line

theorem losesSlashes_unsanitize (code : Text) : LosesSlashes code (unsanitize code) := by
  have h := LosesSlashes.join "\n" (losesSlashes_unmaskLine isMarked) (breaks code)
  rwa [Text.join_breaks, ← unmaskLines, ← unsanitize_eq] at h

end Mask
end GameArchive
