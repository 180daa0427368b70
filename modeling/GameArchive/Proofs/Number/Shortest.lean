import GameArchive.Number.Shortest
import Mathlib.Algebra.Order.Field.Rat
import Mathlib.Algebra.Order.Ring.Abs
import Mathlib.Data.Nat.Digits.Lemmas
import Mathlib.Tactic.FieldSimp
import Mathlib.Tactic.Linarith
import Mathlib.Tactic.NormNum
import Mathlib.Tactic.Positivity
import Mathlib.Tactic.Ring

/-!
# The search for the shortest decimal

The numbers that round to a floating-point number leave room for a decimal of seventeen digits on
both sides of it, so the search from coarse to fine grids ends with digits that it has found. As
zero is not among the numbers that round to a positive one, these digits are not zero.
-/

namespace GameArchive
namespace Binary64

variable {num den m : Nat} {e k : Int} {i : Interval}

/-- A finite number has a mantissa of 53 bits and an exponent in the range of 64 bits. -/
def IsStorable : Binary64 → Prop
  | .finite _ m e => m < 2 ^ 53 ∧ -1074 ≤ e ∧ e ≤ 971
  | _ => True

instance : (x : Binary64) → Decidable x.IsStorable
  | .finite _ m e => inferInstanceAs (Decidable (m < 2 ^ 53 ∧ -1074 ≤ e ∧ e ≤ 971))
  | .nan | .infinite _ => .isTrue trivial

/-! ## Quotients -/

theorem ratioLt_iff {n d a b : Nat} (hd : 0 < d) (hb : 0 < b) :
    ratioLt n d a b = true ↔ (n : ℚ) / d < a / b := by
  rw [ratioLt, decide_eq_true_eq, div_lt_div_iff₀ (by exact_mod_cast hd) (by exact_mod_cast hb)]
  exact_mod_cast Iff.rfl

theorem magnitude_den_pos (m : Nat) (e : Int) : 0 < (magnitude m e).2 := by
  unfold magnitude
  split
  · exact Nat.pow_pos (by decide)
  · exact Nat.one_pos

theorem magnitude_div (m : Nat) (e : Int) :
    ((magnitude m e).1 : ℚ) / (magnitude m e).2 = m * 2 ^ e := by
  unfold magnitude
  split
  · next h =>
    obtain ⟨n, rfl⟩ : ∃ n : Nat, e = -n := ⟨(-e).toNat, by omega⟩
    simp [div_eq_mul_inv]
  · next h =>
    obtain ⟨n, rfl⟩ : ∃ n : Nat, e = n := ⟨e.toNat, by omega⟩
    simp

/-- Rounding moves a quotient by no more than a half. -/
theorem abs_roundDiv_sub_le (num : Nat) (hden : 0 < den) :
    |(roundDiv num den : ℚ) - num / den| ≤ 1 / 2 := by
  have hden' : (0 : ℚ) < den := by exact_mod_cast hden
  have hsplit : (num : ℚ) / den = (num / den : Nat) + (num % den : Nat) / den := by
    rw [div_eq_iff hden'.ne', add_mul, div_mul_cancel₀ _ hden'.ne']
    exact_mod_cast (Nat.div_add_mod' num den).symm
  have hmod : ((num % den : Nat) : ℚ) / den < 1 := by
    rw [div_lt_one hden']
    exact_mod_cast Nat.mod_lt num hden
  have hmod' : (0 : ℚ) ≤ (num % den : Nat) / den := by positivity
  unfold roundDiv
  rw [hsplit, abs_le]
  dsimp only
  split
  · next h =>
    have hhalf : ((num % den : Nat) : ℚ) / den < 1 / 2 := by
      rw [div_lt_div_iff₀ hden' two_pos]
      exact_mod_cast (by omega : num % den * 2 < 1 * den)
    constructor <;> linarith
  split
  · next h =>
    have hhalf : (1 : ℚ) / 2 < (num % den : Nat) / den := by
      rw [div_lt_div_iff₀ two_pos hden']
      exact_mod_cast (by omega : 1 * den < num % den * 2)
    push_cast
    constructor <;> linarith
  · next h h' =>
    have hhalf : ((num % den : Nat) : ℚ) / den = 1 / 2 := by
      rw [div_eq_div_iff hden'.ne' two_ne_zero]
      exact_mod_cast (by omega : num % den * 2 = 1 * den)
    have heven : ((num / den % 2 : Nat) : ℚ) ≤ 1 := by
      exact_mod_cast (by omega : num / den % 2 ≤ 1)
    have heven' : (0 : ℚ) ≤ (num / den % 2 : Nat) := Nat.cast_nonneg _
    push_cast at heven heven' ⊢
    constructor <;> linarith

/-! ## The power of ten -/

/-- The test of a power compares the quotient with it. -/
theorem below_iff (num : Nat) (hden : 0 < den) (k : Int) :
    (if k < 0 then ratioLt (num * Nat.pow 10 (-k).toNat) den 1 1
      else ratioLt num den (Nat.pow 10 k.toNat) 1) = true ↔ (num : ℚ) / den < 10 ^ k := by
  split
  · next h =>
    obtain ⟨n, rfl⟩ : ∃ n : Nat, k = -n := ⟨(-k).toNat, by omega⟩
    rw [ratioLt_iff hden Nat.one_pos]
    have hpow : (0 : ℚ) < 10 ^ n := by positivity
    simp only [neg_neg, Int.toNat_natCast, zpow_neg, zpow_natCast, Nat.pow_eq]
    push_cast
    rw [mul_div_right_comm, div_one, ← lt_div_iff₀ hpow, one_div]
  · next h =>
    obtain ⟨n, rfl⟩ : ∃ n : Nat, k = n := ⟨k.toNat, by omega⟩
    rw [ratioLt_iff hden Nat.one_pos]
    simp

theorem decimalPowerFrom_le (hden : 0 < den) (fuel : Nat) (h : (10 : ℚ) ^ (k - 1) ≤ num / den) :
    (10 : ℚ) ^ (decimalPowerFrom num den fuel k - 1) ≤ num / den := by
  induction fuel generalizing k with
  | zero => exact h
  | succ fuel ih =>
    have hbelow := below_iff num hden k
    rw [decimalPowerFrom]
    by_cases hlt : (num : ℚ) / den < 10 ^ k
    · rwa [if_pos (hbelow.mpr hlt)]
    · rw [if_neg (mt hbelow.mp hlt)]
      refine ih ?_
      rw [add_sub_cancel_right]
      exact not_lt.mp hlt

theorem lt_pow_decimalLength (n : Nat) : n < 10 ^ decimalLength n :=
  (Nat.length_toDigits_le_iff (by decide) Nat.length_toDigits_pos).mp (Nat.le_refl _)

theorem pow_decimalLength_le {n : Nat} (h : 0 < n) : 10 ^ (decimalLength n - 1) ≤ n := by
  by_contra hlt
  rcases Nat.eq_zero_or_pos (decimalLength n - 1) with hzero | hpos
  · rw [hzero] at hlt
    omega
  · have hle := (Nat.length_toDigits_le_iff (by decide) hpos).mpr (Nat.not_le.mp hlt)
    have : 0 < decimalLength n := Nat.length_toDigits_pos
    rw [decimalLength] at hle hpos this
    omega

/-- The power of ten is not above the power that the quotient is below. -/
theorem decimalPower_le (hnum : 0 < num) (hden : 0 < den) :
    (10 : ℚ) ^ (decimalPower num den - 1) ≤ num / den := by
  refine decimalPowerFrom_le hden 4 ?_
  have hlength : 0 < decimalLength num := Nat.length_toDigits_pos
  have hlow : (10 : ℚ) ^ (decimalLength num - 1) ≤ num := by
    exact_mod_cast pow_decimalLength_le hnum
  have hhigh : (den : ℚ) ≤ 10 ^ decimalLength den := by
    exact_mod_cast (lt_pow_decimalLength den).le
  calc (10 : ℚ) ^ ((decimalLength num : Int) - decimalLength den - 1 - 1)
      ≤ 10 ^ (((decimalLength num - 1 : Nat) : Int) - (decimalLength den : Int)) :=
        zpow_le_zpow_right₀ (by norm_num) (by omega)
    _ = 10 ^ (decimalLength num - 1) / 10 ^ decimalLength den := by
        rw [zpow_sub₀ (by norm_num), zpow_natCast, zpow_natCast]
    _ ≤ num / den := div_le_div₀ (Nat.cast_nonneg _) hlow (by exact_mod_cast hden) hhigh

/-! ## Grids -/

theorem contains_of_lt {n d : Nat} (hden : 0 < i.den) (hd : 0 < d)
    (hlow : (i.low : ℚ) / i.den < n / d) (hhigh : (n : ℚ) / d < i.high / i.den) :
    i.contains n d = true := by
  have hlow' := (ratioLt_iff hden hd).mpr hlow
  have hhigh' := (ratioLt_iff hd hden).mpr hhigh
  unfold Interval.contains
  split
  · rw [Bool.and_eq_true, Bool.not_eq_true', Bool.not_eq_true', ← Bool.not_eq_true,
      ← Bool.not_eq_true, ratioLt_iff hd hden, ratioLt_iff hden hd]
    exact ⟨hlow.le.not_gt, hhigh.le.not_gt⟩
  · rw [hlow', hhigh']
    rfl

theorem not_contains_zero {d : Nat} (hlow : 0 < i.low) (hd : 0 < d) :
    i.contains 0 d = false := by
  have hlt : ratioLt 0 d i.low i.den = true := by simpa [ratioLt] using ⟨hlow, hd⟩
  have hge : ratioLt i.low i.den 0 d = false := by simp [ratioLt]
  unfold Interval.contains
  split <;> simp [hlt, hge]

/-- Digits on a grid lie in an interval. -/
def hits (i : Interval) (power : Int) (digits : Nat) : Bool :=
  if power < 0 then i.contains digits (Nat.pow 10 (-power).toNat)
  else i.contains (digits * Nat.pow 10 power.toNat) 1

theorem hits_of_lt {power : Int} {digits : Nat} (hden : 0 < i.den)
    (hlow : (i.low : ℚ) / i.den < digits * 10 ^ power)
    (hhigh : (digits : ℚ) * 10 ^ power < i.high / i.den) : hits i power digits = true := by
  unfold hits
  split
  · next h =>
    obtain ⟨n, rfl⟩ : ∃ n : Nat, power = -n := ⟨(-power).toNat, by omega⟩
    rw [zpow_neg, zpow_natCast, ← div_eq_mul_inv] at hlow hhigh
    refine contains_of_lt hden (Nat.pow_pos (by decide)) ?_ ?_
    · simpa using hlow
    · simpa using hhigh
  · next h =>
    obtain ⟨n, rfl⟩ : ∃ n : Nat, power = n := ⟨power.toNat, by omega⟩
    rw [zpow_natCast] at hlow hhigh
    refine contains_of_lt hden Nat.one_pos ?_ ?_
    · simpa using hlow
    · simpa using hhigh

theorem hits_zero (hlow : 0 < i.low) (power : Int) : hits i power 0 = false := by
  unfold hits
  split
  · exact not_contains_zero hlow (Nat.pow_pos (by decide))
  · rw [Nat.zero_mul]
    exact not_contains_zero hlow Nat.one_pos

/-- The quotient counted in steps of a grid. -/
def steps (num den : Nat) (power : Int) : Nat × Nat :=
  if power < 0 then (num * Nat.pow 10 (-power).toNat, den)
  else (num, den * Nat.pow 10 power.toNat)

theorem steps_den_pos (num : Nat) (hden : 0 < den) (power : Int) : 0 < (steps num den power).2 := by
  unfold steps
  split
  · exact hden
  · exact Nat.mul_pos hden (Nat.pow_pos (by decide))

theorem steps_div (num den : Nat) (power : Int) :
    ((steps num den power).1 : ℚ) / (steps num den power).2 = num / den / 10 ^ power := by
  unfold steps
  split
  · next h =>
    obtain ⟨n, rfl⟩ : ∃ n : Nat, power = -n := ⟨(-power).toNat, by omega⟩
    simp [div_eq_mul_inv, mul_right_comm]
  · next h =>
    obtain ⟨n, rfl⟩ : ∃ n : Nat, power = n := ⟨power.toNat, by omega⟩
    simp [div_div]

/-- The nearest number of steps is tried first, and then its neighbour. -/
theorem onGrid_eq (num den : Nat) (i : Interval) (power : Int) :
    ∃ other, onGrid? num den i power =
      if hits i power (roundDiv (steps num den power).1 (steps num den power).2) then
        some (roundDiv (steps num den power).1 (steps num den power).2)
      else if hits i power other then some other else none := by
  by_cases h : power < 0
  · simp only [onGrid?, hits, steps, if_pos h]
    exact ⟨_, rfl⟩
  · simp only [onGrid?, hits, steps, if_neg h]
    exact ⟨_, rfl⟩

theorem hits_of_onGrid {power : Int} {digits : Nat} (h : onGrid? num den i power = some digits) :
    hits i power digits = true := by
  obtain ⟨other, heq⟩ := onGrid_eq num den i power
  rw [heq] at h
  split at h
  · next hhits =>
    cases h
    exact hhits
  split at h
  · next hhits =>
    cases h
    exact hhits
  · contradiction

/-- The grid has digits for an interval with room for half a step on both sides of the quotient. -/
theorem onGrid_ne_none {power : Int} (hden : 0 < den) (hiden : 0 < i.den)
    (hlow : (i.low : ℚ) / i.den < num / den - 10 ^ power / 2)
    (hhigh : (num : ℚ) / den + 10 ^ power / 2 < i.high / i.den) :
    onGrid? num den i power ≠ none := by
  obtain ⟨other, heq⟩ := onGrid_eq num den i power
  have hnear := abs_roundDiv_sub_le (steps num den power).1 (steps_den_pos num hden power)
  rw [steps_div, abs_le] at hnear
  have hpow : (0 : ℚ) < 10 ^ power := zpow_pos (by norm_num) power
  have hscale : (num : ℚ) / den / 10 ^ power * 10 ^ power = num / den :=
    div_mul_cancel₀ _ hpow.ne'
  have hhits : hits i power (roundDiv (steps num den power).1 (steps num den power).2) = true := by
    refine hits_of_lt hiden ?_ ?_
    · nlinarith
    · nlinarith
  rw [heq, if_pos hhits]
  exact Option.some_ne_none _

theorem shortestFrom_mem {fuel count last : Nat} (hcount : count ≤ last) (hlast : last < count + fuel)
    (h : onGrid? num den i (k - last) ≠ none) :
    ∃ digits power, shortestFrom num den i k fuel count = (digits, power) ∧
      hits i power digits = true := by
  induction fuel generalizing count with
  | zero => omega
  | succ fuel ih =>
    rw [shortestFrom]
    cases hgrid : onGrid? num den i (k - count) with
    | some digits => exact ⟨digits, _, rfl, hits_of_onGrid hgrid⟩
    | none =>
      have hne : count ≠ last := by
        rintro rfl
        exact h hgrid
      exact ih (by omega) (by omega)

/-! ## Numbers that round to one number -/

theorem magnitude_eq_mul (m : Nat) (e : Int) :
    magnitude m e = (m * (magnitude 1 e).1, (magnitude 1 e).2) := by
  unfold magnitude
  split <;> simp

/-- The bounds, counted in quarters of the distance to the next number: two quarters above, and two
below, or one where the distance is halved. -/
theorem interval_quarters (hm : m < 2 ^ 53) (e : Int) :
    ∃ part, part ≤ 2 ∧ m ≤ part * 2 ^ 52 ∧
      (interval m e).low = (4 * m - part) * (magnitude 1 (e - 2)).1 ∧
      (interval m e).high = (4 * m + 2) * (magnitude 1 (e - 2)).1 ∧
      (interval m e).den = (magnitude 1 (e - 2)).2 := by
  by_cases h : m = Nat.pow 2 52 ∧ -1074 < e
  · refine ⟨1, by decide, by rw [h.1]; decide, ?_, ?_, ?_⟩
    all_goals simp only [interval, magnitude_eq_mul (4 * m), if_pos h, Nat.sub_mul, Nat.add_mul,
      Nat.one_mul]
  · refine ⟨2, by decide, by omega, ?_, ?_, ?_⟩
    all_goals simp only [interval, magnitude_eq_mul (4 * m), if_neg h, Nat.sub_mul, Nat.add_mul]

/-- There is some room below a positive number, and some above it, but zero lies below the room. -/
theorem interval_spec (hm : 0 < m) (hm' : m < 2 ^ 53) (e : Int) :
    0 < (interval m e).den ∧ 0 < (interval m e).low ∧
      ((interval m e).low : ℚ) / (interval m e).den ≤ m * 2 ^ e * (1 - 2 ^ (-54 : Int)) ∧
      m * 2 ^ e * (1 + 2 ^ (-54 : Int)) ≤ ((interval m e).high : ℚ) / (interval m e).den := by
  have hden := magnitude_den_pos 1 (e - 2)
  have hunit : ((magnitude 1 (e - 2)).1 : ℚ) / (magnitude 1 (e - 2)).2 = 2 ^ (e - 2) := by
    simpa using magnitude_div 1 (e - 2)
  have hpos : (0 : ℚ) < 2 ^ (e - 2) := zpow_pos two_pos _
  have hunitPos : 0 < (magnitude 1 (e - 2)).1 := by
    rw [← hunit] at hpos
    exact_mod_cast (div_pos_iff_of_pos_right (by exact_mod_cast hden)).mp hpos
  have hvalue : (m : ℚ) * 2 ^ e = 4 * m * 2 ^ (e - 2) := by
    rw [show e = e - 2 + 2 by ring, zpow_add₀ two_ne_zero, add_sub_cancel_right]
    ring
  obtain ⟨part, hpart, hroom, hlow, hhigh, hiden⟩ := interval_quarters hm' e
  have hroom' : (m : ℚ) ≤ part * 2 ^ 52 := by exact_mod_cast hroom
  have hm'' : (m : ℚ) < 2 ^ 53 := by exact_mod_cast hm'
  refine ⟨hiden ▸ hden, ?_, ?_, ?_⟩
  · rw [hlow]
    exact Nat.mul_pos (by omega) hunitPos
  · rw [hlow, hiden, hvalue, Nat.cast_mul, mul_div_assoc, hunit, Nat.cast_sub (by omega),
      mul_right_comm]
    refine mul_le_mul_of_nonneg_right ?_ hpos.le
    push_cast
    norm_num
    linarith
  · rw [hhigh, hiden, hvalue, Nat.cast_mul, mul_div_assoc, hunit, mul_right_comm]
    refine mul_le_mul_of_nonneg_right ?_ hpos.le
    push_cast
    norm_num
    linarith

/-- The shortest decimal of a positive number is one of those that round to it. -/
theorem hits_shortest (hm : 0 < m) (hm' : m < 2 ^ 53) (e : Int) :
    hits (interval m e) (shortest m e).2 (shortest m e).1 = true := by
  obtain ⟨hiden, -, hlow, hhigh⟩ := interval_spec hm hm' e
  have hvalue := magnitude_div m e
  have hden := magnitude_den_pos m e
  have hpos : (0 : ℚ) < m * 2 ^ e := mul_pos (by exact_mod_cast hm) (zpow_pos two_pos e)
  have hnum : 0 < (magnitude m e).1 := by
    rw [← hvalue] at hpos
    exact_mod_cast (div_pos_iff_of_pos_right (by exact_mod_cast hden)).mp hpos
  have hpower := decimalPower_le hnum hden
  rw [hvalue] at hpower
  -- Half a step of the grid of seventeen digits is less than the room on either side.
  have hstep : (10 : ℚ) ^ (decimalPower (magnitude m e).1 (magnitude m e).2 - 17) / 2 <
      m * 2 ^ e * 2 ^ (-54 : Int) := by
    have hsplit : (10 : ℚ) ^ (decimalPower (magnitude m e).1 (magnitude m e).2 - 17) =
        10 ^ (decimalPower (magnitude m e).1 (magnitude m e).2 - 1) * 10 ^ (-16 : Int) := by
      rw [← zpow_add₀ (by norm_num)]
      congr 1
      ring
    rw [hsplit]
    have hnumbers : (10 : ℚ) ^ (-16 : Int) / 2 < 2 ^ (-54 : Int) := by norm_num
    nlinarith
  have hgrid : onGrid? (magnitude m e).1 (magnitude m e).2 (interval m e)
      (decimalPower (magnitude m e).1 (magnitude m e).2 - (17 : Nat)) ≠ none := by
    refine onGrid_ne_none hden hiden ?_ ?_
    · rw [hvalue]
      push_cast
      linarith
    · rw [hvalue]
      push_cast
      linarith
  obtain ⟨digits, power, hfound, hhits⟩ :=
    shortestFrom_mem (show 1 ≤ 17 by decide) (show 17 < 1 + 17 by decide) hgrid
  have hshortest : shortest m e = (digits, power) := hfound
  rwa [hshortest]

theorem shortest_ne_zero (hm : 0 < m) (hm' : m < 2 ^ 53) (e : Int) : (shortest m e).1 ≠ 0 := by
  intro hzero
  obtain ⟨-, hlow, -⟩ := interval_spec hm hm' e
  have hhits := hits_shortest hm hm' e
  rw [hzero, hits_zero hlow] at hhits
  contradiction

end Binary64
end GameArchive
