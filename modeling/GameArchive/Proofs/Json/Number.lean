import GameArchive.Json.Printer
import GameArchive.Proofs.Text.Basic
import Mathlib.Algebra.Group.Nat.Defs
import Mathlib.Data.List.Induction
import Mathlib.Data.List.TakeWhile

/-!
# Numbers that are written and read

Decimal digits write a natural number and are read back as it. A number that is read from a text is
read from it as well if something follows that no number goes on with.
-/

namespace GameArchive

namespace Text

theorem isDigit_ofChar {c : Char} (h : c.isDigit = true) : (CodePoint.ofChar c).isDigit = true := by
  simp only [Char.isDigit, Bool.and_eq_true, decide_eq_true_eq] at h
  rw [CodePoint.isDigit, CodePoint.between, Bool.and_eq_true, decide_eq_true_eq, decide_eq_true_eq]
  exact h

theorem isDigit_of_mem_ofNat {n : Nat} {c : CodePoint} (h : c ∈ ofNat n) : c.isDigit = true := by
  obtain ⟨d, hd, rfl⟩ := List.mem_map.mp h
  exact isDigit_ofChar (Nat.isDigit_of_mem_toDigits (by decide) (by decide) hd)

theorem ofNat_ne_nil (n : Nat) : ofNat n ≠ [] := by
  rw [ofNat, Ne, List.map_eq_nil_iff]
  exact List.ne_nil_of_length_pos Nat.length_toDigits_pos

theorem digitsValue_ofNat (n : Nat) : digitsValue (ofNat n) = n := by
  rw [digitsValue, ofNat, List.foldl_map]
  exact Nat.ofDigitChars_eq_foldl.symm.trans Nat.ofDigitChars_ten_toDigits

theorem length_ofNat_le_iff {n k : Nat} (h : 0 < k) : (ofNat n).length ≤ k ↔ n < 10 ^ k := by
  rw [ofNat, List.length_map, Nat.length_toDigits_le_iff (by decide) h]

/-- No number but zero starts with a zero. -/
theorem eq_zero_of_head_ofNat {n : Nat} (h : (ofNat n).head? = some (CodePoint.ofChar '0')) :
    n = 0 := by
  induction n using Nat.strongRecOn with
  | ind n ih =>
    by_cases hn : n < 10
    · rw [ofNat, Nat.toDigits_of_lt_base hn] at h
      have hzero : ∀ m < 10, CodePoint.ofChar (Nat.digitChar m) = CodePoint.ofChar '0' → m = 0 := by
        decide
      exact hzero n hn (Option.some.inj h)
    · have hne : ofNat (n / 10) ≠ [] := ofNat_ne_nil _
      rw [ofNat, Nat.toDigits_of_base_le (by decide) (by omega), List.map_append,
        List.head?_append] at h
      have hhead : (ofNat (n / 10)).head? = some (CodePoint.ofChar '0') := by
        obtain ⟨c, rest, hcons⟩ := List.exists_cons_of_ne_nil hne
        rw [ofNat] at hcons ⊢
        rw [hcons] at h ⊢
        exact h
      have hquotient := ih (n / 10) (by omega) hhead
      omega

theorem digitsValue_append (s t : Text) :
    digitsValue (s ++ t) = t.foldl (fun n c => 10 * n + (c.val - 0x30)) (digitsValue s) :=
  List.foldl_append

theorem digitsValue_lt {t : Text} (h : ∀ c ∈ t, c.isDigit = true) :
    digitsValue t < 10 ^ t.length := by
  induction t using List.reverseRecOn with
  | nil => decide
  | append_singleton t c ih =>
    have hc := h c (by simp)
    have ht := ih fun d hd => h d (by simp [hd])
    have hbounds : 0x30 ≤ c.val ∧ c.val ≤ 0x39 := by
      simpa [CodePoint.isDigit, CodePoint.between] using hc
    rw [digitsValue_append, List.foldl_cons, List.foldl_nil, List.length_append,
      List.length_singleton, Nat.pow_succ]
    omega

end Text

namespace Json
namespace Reader

/-- A character that ends a number: one that goes between values or behind them, or a blank. -/
def isDelimiter (c : CodePoint) : Bool := c = ',' || c = ']' || c = '\x7d' || isSpace c

/-- Nothing follows, or what follows starts with a delimiter. -/
def Delimited (t : Text) : Prop := ∀ c ∈ t.head?, isDelimiter c = true

theorem delimited_nil : Delimited [] := by simp [Delimited]

theorem delimited_cons {c : CodePoint} {t : Text} : Delimited (c :: t) ↔ isDelimiter c = true := by
  simp [Delimited]

/-- No number goes on with a delimiter. -/
theorem isDelimiter_spec {c : CodePoint} (h : isDelimiter c = true) :
    c.isDigit = false ∧ c ≠ CodePoint.ofChar '.' ∧ c ≠ CodePoint.ofChar 'e' ∧
      c ≠ CodePoint.ofChar 'E' ∧ c ≠ CodePoint.ofChar '-' ∧ c ≠ CodePoint.ofChar '+' := by
  simp only [isDelimiter, isSpace, Bool.or_eq_true, decide_eq_true_eq] at h
  rcases h with ((rfl | rfl) | rfl) | ((rfl | rfl) | rfl) | rfl <;> decide

theorem takeWhile_append_of_stop {p : CodePoint → Bool} {more : Text}
    (h : ∀ c ∈ more.head?, p c = false) (t : Text) :
    (t ++ more).takeWhile p = t.takeWhile p ∧ (t ++ more).dropWhile p = t.dropWhile p ++ more := by
  induction t with
  | nil =>
    cases more with
    | nil => exact ⟨rfl, rfl⟩
    | cons c more => simp [h c rfl]
  | cons c t ih =>
    cases hc : p c with
    | true => simpa [hc] using ih
    | false => simp [hc]

theorem numberFrom_eq (start whole t : Text) (negative : Bool) :
    numberFrom start negative whole t =
      if (fractionPart t).1.isEmpty ∧ (exponentPart (fractionPart t).2).1.isNone then
        if digitLimit < whole.length then .error ⟨.tooManyDigits whole.length, start⟩
        else
          .ok (.int (if negative then -(Text.digitsValue whole : Int) else Text.digitsValue whole),
            t)
      else
        .ok (.float (Binary64.ofDecimal negative (Text.digitsValue (whole ++ (fractionPart t).1))
          ((exponentPart (fractionPart t).2).1.getD 0 - (fractionPart t).1.length)),
          (exponentPart (fractionPart t).2).2) := rfl

section Append

variable {more : Text} (hmore : Delimited more)
include hmore

theorem digits_append (t : Text) :
    (t ++ more).takeWhile (·.isDigit) = t.takeWhile (·.isDigit) ∧
      (t ++ more).dropWhile (·.isDigit) = t.dropWhile (·.isDigit) ++ more :=
  takeWhile_append_of_stop (fun c hc => (isDelimiter_spec (hmore c hc)).1) t

theorem fractionPart_append (t : Text) :
    fractionPart (t ++ more) = ((fractionPart t).1, (fractionPart t).2 ++ more) := by
  have hstop : ∀ c ∈ more.head?, c ≠ CodePoint.ofChar '.' ∧ c.isDigit = false := fun c hc =>
    ⟨(isDelimiter_spec (hmore c hc)).2.1, (isDelimiter_spec (hmore c hc)).1⟩
  obtain _ | ⟨p, _ | ⟨d, t⟩⟩ := t
  · obtain _ | ⟨c, _ | ⟨d, more⟩⟩ := more
    · rfl
    · rfl
    · simp [fractionPart, (hstop c rfl).1]
  · obtain _ | ⟨c, more⟩ := more
    · rfl
    · simp [fractionPart, (hstop c rfl).2]
  · have hdigits := digits_append hmore (d :: t)
    rw [List.cons_append] at hdigits
    rw [List.cons_append, List.cons_append, fractionPart, fractionPart, hdigits.1, hdigits.2]
    split <;> rfl

theorem exponentPart_append (t : Text) :
    exponentPart (t ++ more) = ((exponentPart t).1, (exponentPart t).2 ++ more) := by
  obtain _ | ⟨e, t⟩ := t
  · obtain _ | ⟨c, more⟩ := more
    · rfl
    · have hc := isDelimiter_spec (hmore c rfl)
      simp [exponentPart, hc.2.2.1, hc.2.2.2.1]
  by_cases he : e = 'e' ∨ e = 'E'
  · obtain _ | ⟨s, t⟩ := t
    · obtain _ | ⟨c, more⟩ := more
      · simp
      · have hc := isDelimiter_spec (hmore c rfl)
        simp [exponentPart, he, hc.1, hc.2.2.2.2.1, hc.2.2.2.2.2]
    · have hrest := digits_append hmore t
      have hall := digits_append hmore (s :: t)
      rw [List.cons_append] at hall
      simp only [exponentPart, List.cons_append, if_pos he]
      by_cases hminus : s = '-'
      · simp only [if_pos hminus, hrest.1, hrest.2]
        split <;> rfl
      by_cases hplus : s = '+'
      · simp only [if_neg hminus, if_pos hplus, hrest.1, hrest.2]
        split <;> rfl
      · simp only [if_neg hminus, if_neg hplus, hall.1, hall.2]
        split <;> rfl
  · simp [exponentPart, he]

theorem numberFrom_append {start whole t rest : Text} {negative : Bool} {v : Json}
    (h : numberFrom start negative whole t = .ok (v, rest)) :
    numberFrom (start ++ more) negative whole (t ++ more) = .ok (v, rest ++ more) := by
  rw [numberFrom_eq] at h ⊢
  rw [fractionPart_append hmore, exponentPart_append hmore]
  split at h
  · next hint =>
    rw [if_pos hint]
    split at h
    · contradiction
    · next hshort =>
      rw [if_neg hshort]
      cases h
      rfl
  · next hfloat =>
    rw [if_neg hfloat]
    cases h
    rfl

theorem unsigned_append {start t rest : Text} {negative : Bool} {v : Json}
    (h : unsigned start negative t = .ok (v, rest)) :
    unsigned (start ++ more) negative (t ++ more) = .ok (v, rest ++ more) := by
  cases t with
  | nil => contradiction
  | cons d t =>
    have hdigits := digits_append hmore (d :: t)
    rw [List.cons_append] at hdigits
    rw [unsigned] at h
    rw [List.cons_append, unsigned, hdigits.1, hdigits.2]
    split at h
    · next hzero =>
      rw [if_pos hzero]
      exact numberFrom_append hmore h
    split at h
    · next hzero hdigit =>
      rw [if_neg hzero, if_pos hdigit]
      exact numberFrom_append hmore h
    · contradiction

/-- A number ends where it ended, before something that no number goes on with. -/
theorem number_append {t rest : Text} {v : Json} (h : number t = .ok (v, rest)) :
    number (t ++ more) = .ok (v, rest ++ more) := by
  cases t with
  | nil => contradiction
  | cons c t =>
    rw [number] at h
    rw [List.cons_append, number]
    split at h
    · next hminus =>
      rw [if_pos hminus]
      exact unsigned_append hmore h
    · next hminus =>
      rw [if_neg hminus]
      exact unsigned_append hmore h

end Append

/-! ## Integers -/

theorem unsigned_ofNat {n : Nat} (h : (Text.ofNat n).length ≤ digitLimit) (start : Text)
    (negative : Bool) :
    unsigned start negative (Text.ofNat n) = .ok (.int (if negative then -n else n), []) := by
  have hread : numberFrom start negative (Text.ofNat n) [] =
      .ok (.int (if negative then -n else n), []) := by
    simp [numberFrom, fractionPart, exponentPart, Nat.not_lt.mpr h, Text.digitsValue_ofNat]
  obtain ⟨d, rest, hcons⟩ := List.exists_cons_of_ne_nil (Text.ofNat_ne_nil n)
  rw [hcons] at hread ⊢
  rw [unsigned]
  split
  · next hzero =>
    -- A number that starts with a zero is zero, so nothing comes behind it.
    obtain rfl : n = 0 := Text.eq_zero_of_head_ofNat (by rw [hcons, hzero]; rfl)
    cases hcons
    exact hread
  · have hdigits : ∀ c ∈ d :: rest, c.isDigit = true := fun c hc =>
      Text.isDigit_of_mem_ofNat (hcons ▸ hc)
    rw [if_pos (hdigits d List.mem_cons_self), List.takeWhile_eq_self_iff.mpr hdigits,
      List.dropWhile_eq_nil_iff.mpr hdigits, hread]

/-- An integer is read from its text. -/
theorem number_ofInt {n : Int} (h : (Text.ofNat n.natAbs).length ≤ digitLimit) :
    number (Text.ofInt n) = .ok (.int n, []) := by
  cases n with
  | negSucc n =>
    have hread := unsigned_ofNat h (Text.ofInt (.negSucc n)) true
    exact hread
  | ofNat n =>
    have hread := unsigned_ofNat h (Text.ofNat n) false
    obtain ⟨d, rest, hcons⟩ := List.exists_cons_of_ne_nil (Text.ofNat_ne_nil n)
    have hminus : d ≠ CodePoint.ofChar '-' := by
      rintro rfl
      have hdigit : (CodePoint.ofChar '-').isDigit = true :=
        Text.isDigit_of_mem_ofNat (n := n) (by simp [hcons])
      contradiction
    rw [Text.ofInt, hcons, number, if_neg hminus, ← hcons]
    exact hread

theorem length_ofNat_digitsValue_le {whole : Text} (hdigits : ∀ c ∈ whole, c.isDigit = true)
    (h : whole.length ≤ digitLimit) :
    (Text.ofNat (Text.digitsValue whole)).length ≤ digitLimit := by
  rw [Text.length_ofNat_le_iff (by decide)]
  exact Nat.lt_of_lt_of_le (Text.digitsValue_lt hdigits) (Nat.pow_le_pow_right (by decide) h)

theorem length_of_numberFrom {start whole t rest : Text} {negative : Bool} {n : Int}
    (hdigits : ∀ c ∈ whole, c.isDigit = true)
    (h : numberFrom start negative whole t = .ok (.int n, rest)) :
    (Text.ofNat n.natAbs).length ≤ digitLimit := by
  rw [numberFrom_eq] at h
  split at h
  · split at h
    · contradiction
    · next hshort =>
      cases h
      have hlength := length_ofNat_digitsValue_le hdigits (Nat.not_lt.mp hshort)
      cases negative <;> simpa using hlength
  · cases h

/-- No integer that is read has too many digits. -/
theorem length_of_number {t rest : Text} {n : Int} (h : number t = .ok (.int n, rest)) :
    (Text.ofNat n.natAbs).length ≤ digitLimit := by
  have hunsigned : ∀ {start t : Text} {negative : Bool},
      unsigned start negative t = .ok (.int n, rest) →
      (Text.ofNat n.natAbs).length ≤ digitLimit := by
    intro start t negative h
    cases t with
    | nil => contradiction
    | cons d t =>
      rw [unsigned] at h
      split at h
      · next hzero =>
        refine length_of_numberFrom ?_ h
        simp [hzero]
        decide
      split at h
      · exact length_of_numberFrom (fun c hc => List.mem_takeWhile_imp hc) h
      · contradiction
  cases t with
  | nil => contradiction
  | cons c t =>
    rw [number] at h
    split at h <;> exact hunsigned h

/-! ## Values that are numbers -/

theorem exists_digit_of_number {t rest : Text} {v : Json} (h : number t = .ok (v, rest)) :
    ∃ d more, d.isDigit = true ∧ (t = d :: more ∨ t = CodePoint.ofChar '-' :: d :: more) := by
  have hunsigned : ∀ {start t : Text} {negative : Bool},
      unsigned start negative t = .ok (v, rest) → ∃ d more, d.isDigit = true ∧ t = d :: more := by
    intro start t negative h
    cases t with
    | nil => contradiction
    | cons d t =>
      refine ⟨d, t, ?_, rfl⟩
      rw [unsigned] at h
      split at h
      · next hzero =>
        rw [hzero]
        decide
      split at h
      · assumption
      · contradiction
  cases t with
  | nil => contradiction
  | cons c t =>
    rw [number] at h
    split at h
    · next hminus =>
      obtain ⟨d, more, hd, rfl⟩ := hunsigned h
      exact ⟨d, more, hd, .inr (by rw [hminus])⟩
    · obtain ⟨d, more, hd, hcons⟩ := hunsigned h
      exact ⟨d, more, hd, .inl hcons⟩

theorem exists_start_of_named {entry : Text × Json} (h : entry ∈ named) :
    ∃ c e tail, entry.1 = c :: e :: tail ∧ c.isDigit = false ∧
      (c = CodePoint.ofChar '-' → e.isDigit = false) := by
  simp only [named, List.mem_cons, List.not_mem_nil, or_false] at h
  rcases h with rfl | rfl | rfl | rfl | rfl | rfl <;> exact ⟨_, _, _, rfl, by decide, by decide⟩

/-- No value that is written by name starts like a number. -/
theorem named?_of_number {t rest : Text} {v : Json} (h : number t = .ok (v, rest)) :
    named? t = none := by
  obtain ⟨d, more, hd, hcons⟩ := exists_digit_of_number h
  rw [named?, List.findSome?_eq_none_iff]
  intro entry hentry
  rw [Option.map_eq_none_iff, Option.eq_none_iff_forall_ne_some]
  intro after hafter
  rw [Text.afterPrefix?_eq_some] at hafter
  obtain ⟨c, e, tail, hstart, hc, he⟩ := exists_start_of_named hentry
  rw [hstart] at hafter
  rcases hcons with rfl | rfl
  · obtain rfl : d = c := (List.cons.inj hafter).1
    rw [hd] at hc
    contradiction
  · obtain ⟨rfl, hrest⟩ := List.cons.inj hafter
    obtain rfl : d = e := (List.cons.inj hrest).1
    rw [hd] at he
    exact absurd (he rfl) Bool.true_eq_false.mp

theorem value_of_number {t more : Text} {v : Json} (h : number t = .ok (v, []))
    (hmore : Delimited more) (fuel : Nat) : value (fuel + 1) (t ++ more) = .ok (v, more) := by
  have happend := number_append hmore h
  rw [List.nil_append] at happend
  have hnamed := named?_of_number happend
  obtain ⟨d, tail, hd, hcons⟩ := exists_digit_of_number happend
  have hne : ∀ c : CodePoint, c.isDigit = false → d ≠ c := by
    rintro c hc rfl
    rw [hd] at hc
    contradiction
  rcases hcons with hcons | hcons <;> rw [hcons] at happend hnamed ⊢
  · rw [value, if_neg (hne _ (by decide)), if_neg (hne _ (by decide)), if_neg (hne _ (by decide)),
      hnamed]
    exact happend
  · rw [value, if_neg (by decide), if_neg (by decide), if_neg (by decide), hnamed]
    exact happend

end Reader
end Json

/-! ## Characters of numbers -/

namespace Binary64

variable {P : CodePoint → Prop} {style : Notation}

/-- A property of all characters that the numbers of a notation are written with: digits, signs,
the point, and those of its words. -/
structure Notation.Allows (style : Notation) (P : CodePoint → Prop) : Prop where
  digit : ∀ c, c.isDigit = true → P c
  sign : ∀ c ∈ Text.ofString ".e+-", P c
  fraction : ∀ c ∈ Text.ofString style.fraction, P c
  notANumber : ∀ c ∈ Text.ofString style.notANumber, P c
  infinity : ∀ c ∈ Text.ofString style.infinity, P c

theorem Notation.Allows.zeros (h : style.Allows P) (n : Nat) : ∀ c ∈ Binary64.zeros n, P c := by
  intro c hc
  rw [List.eq_of_mem_replicate hc]
  exact h.digit _ (by decide)

theorem Notation.Allows.ofNat (h : style.Allows P) (n : Nat) : ∀ c ∈ Text.ofNat n, P c :=
  fun c hc => h.digit c (Text.isDigit_of_mem_ofNat hc)

/-- A sign is written with characters of signs. -/
theorem Notation.Allows.ofString (h : style.Allows P) {sign : String}
    (hsign : Text.ofString sign ⊆ Text.ofString ".e+-") : ∀ c ∈ Text.ofString sign, P c :=
  fun c hc => h.sign c (hsign hc)

theorem Notation.Allows.layOut (h : style.Allows P) {digits : Text} (hdigits : ∀ c ∈ digits, P c)
    (point : Int) : ∀ c ∈ style.layOut digits point, P c := by
  have hpoint : P (CodePoint.ofChar '.') := h.sign _ (by decide)
  have hzero : ∀ c ∈ Text.ofString "0.", P c := by
    intro c hc
    obtain rfl | rfl : c = CodePoint.ofChar '0' ∨ c = CodePoint.ofChar '.' := by
      simpa [Text.ofString] using hc
    · exact h.digit _ (by decide)
    · exact hpoint
  unfold Notation.layOut
  split
  · split
    · simp only [List.forall_mem_append]
      exact ⟨⟨hzero, h.zeros _⟩, hdigits⟩
    split
    · simp only [List.forall_mem_append]
      exact ⟨⟨hdigits, h.zeros _⟩, h.fraction⟩
    · simp only [List.forall_mem_append]
      exact ⟨⟨fun c hc => hdigits c (List.take_subset _ _ hc), h.ofString (by decide)⟩,
        fun c hc => hdigits c (List.drop_subset _ _ hc)⟩
  · simp only [List.forall_mem_append]
    refine ⟨⟨⟨?_, ?_⟩, h.zeros _⟩, h.ofNat _⟩
    · split
      · simp
      · exact hdigits
      · rw [List.forall_mem_cons] at hdigits ⊢
        exact ⟨hdigits.1, List.forall_mem_cons.mpr ⟨hpoint, hdigits.2⟩⟩
    · split <;> exact h.ofString (by decide)

/-- A number is written with no other characters than those of its notation. -/
theorem Notation.Allows.write (h : style.Allows P) (x : Binary64) :
    ∀ c ∈ Binary64.write style x, P c := by
  have hsign (negative : Bool) :
      ∀ c ∈ Text.ofString (if negative then "-" else ""), P c := by
    cases negative <;> exact h.ofString (by decide)
  cases x with
  | nan => exact h.notANumber
  | infinite negative => exact List.forall_mem_append.mpr ⟨hsign negative, h.infinity⟩
  | finite negative m e =>
    refine List.forall_mem_append.mpr ⟨hsign negative, ?_⟩
    split
    · refine h.layOut (fun c hc => ?_) 1
      rw [List.mem_singleton.mp hc]
      exact h.digit _ (by decide)
    · refine h.layOut (fun c hc => ?_) _
      exact h.ofNat _ c (List.mem_reverse.mp (List.dropWhile_subset _ (List.mem_reverse.mp hc)))

end Binary64
end GameArchive
