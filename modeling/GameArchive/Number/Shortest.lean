import GameArchive.Number.Binary64
import GameArchive.Text.Basic

/-!
# Shortest decimals

The decimal of a finite number is the one with the fewest digits among all that round to it, and of
those the nearest; an exact tie goes to the even last digit. `Notation` says how digits and power of
ten are laid out as a text.
-/

namespace GameArchive
namespace Binary64

/-- `n / d < a / b`. -/
def ratioLt (n d a b : Nat) : Bool := n * b < a * d

/-- The numbers that round to a finite one lie between two quotients over the same denominator; the
ends belong to them exactly if the mantissa is even. -/
structure Interval where
  low : Nat
  high : Nat
  den : Nat
  closed : Bool

/-- Below a power of two the neighbour is only half as far away. -/
def interval (m : Nat) (e : Int) : Interval :=
  let (num, den) := magnitude (4 * m) (e - 2)
  let (unit, _) := magnitude 1 (e - 2)
  { low := num - (if m = Nat.pow 2 52 ∧ -1074 < e then unit else 2 * unit)
    high := num + 2 * unit
    den := den
    closed := m % 2 = 0 }

/-- A quotient lies in the interval. -/
def Interval.contains (i : Interval) (num den : Nat) : Bool :=
  if i.closed then !ratioLt num den i.low i.den && !ratioLt i.high i.den num den
  else ratioLt i.low i.den num den && ratioLt num den i.high i.den

/-- The least power `k` with `num / den < 10 ^ k`, found by counting up from a first guess. -/
def decimalPowerFrom (num den : Nat) : (fuel : Nat) → Int → Int
  | 0, k => k
  | fuel + 1, k =>
    let below := if k < 0 then ratioLt (num * Nat.pow 10 (-k).toNat) den 1 1
      else ratioLt num den (Nat.pow 10 k.toNat) 1
    if below then k else decimalPowerFrom num den fuel (k + 1)

def decimalPower (num den : Nat) : Int :=
  let guess : Int := (decimalLength num : Int) - (decimalLength den : Int) - 1
  decimalPowerFrom num den 4 guess

/-- The digits that hit the interval on the grid `10 ^ power`, one of the value's two neighbours. -/
def onGrid? (num den : Nat) (i : Interval) (power : Int) : Option Nat :=
  let (n, d) := if power < 0 then (num * Nat.pow 10 (-power).toNat, den)
    else (num, den * Nat.pow 10 power.toNat)
  let hits (digits : Nat) : Bool :=
    if power < 0 then i.contains digits (Nat.pow 10 (-power).toNat)
    else i.contains (digits * Nat.pow 10 power.toNat) 1
  let below := n / d
  let nearest := roundDiv n d
  let other := if nearest = below then below + 1 else below
  if hits nearest then some nearest
  else if hits other then some other
  else none

/-- Grids from coarse to fine, starting with one digit. -/
def shortestFrom (num den : Nat) (i : Interval) (k : Int) : (fuel : Nat) → Nat → Nat × Int
  | 0, count => (roundDiv num den, k - count)
  | fuel + 1, count =>
    match onGrid? num den i (k - count) with
    | some digits => (digits, k - count)
    | none => shortestFrom num den i k fuel (count + 1)

/-- Digits and power of ten of a positive finite number. -/
def shortest (m : Nat) (e : Int) : Nat × Int :=
  let (num, den) := magnitude m e
  shortestFrom num den (interval m e) (decimalPower num den) 17 1

/-- How the digits `d₁d₂…` of `0.d₁d₂… · 10 ^ point` are laid out. -/
structure Notation where
  /-- Points from `low` up to `high` are written without an exponent. -/
  low : Int
  high : Int
  /-- What follows an integer that has no exponent. -/
  fraction : String
  /-- The least number of digits of an exponent, which always has a sign. -/
  exponentDigits : Nat
  notANumber : String
  infinity : String

/-- Positional from `0.0001` up to below `10 ^ 16`, an integer with `.0`, and an exponent of at
least two digits. -/
def plain : Notation := ⟨-3, 16, ".0", 2, "nan", "inf"⟩

/-- The same digits with the names that a JSON text has for what is not finite. -/
def json : Notation := { plain with notANumber := "NaN", infinity := "Infinity" }

def zeros (n : Nat) : Text := List.replicate n '0'

/-- Digits laid out with the point before digit number `point`. -/
def Notation.layOut (style : Notation) (digits : Text) (point : Int) : Text :=
  if style.low ≤ point ∧ point ≤ style.high then
    if point ≤ 0 then Text.ofString "0." ++ zeros (-point).toNat ++ digits
    else if digits.length ≤ point.toNat then
      digits ++ zeros (point.toNat - digits.length) ++ Text.ofString style.fraction
    else digits.take point.toNat ++ Text.ofString "." ++ digits.drop point.toNat
  else
    let exponent := point - 1
    let power := Text.ofNat exponent.natAbs
    let mantissa := match digits with
      | [] => []
      | [d] => [d]
      | d :: more => d :: CodePoint.ofChar '.' :: more
    mantissa ++ Text.ofString (if exponent < 0 then "e-" else "e+") ++
      zeros (style.exponentDigits - power.length) ++ power

/-- The text of a number. -/
def write (style : Notation) : Binary64 → Text
  | .nan => Text.ofString style.notANumber
  | .infinite negative =>
    Text.ofString (if negative then "-" else "") ++ Text.ofString style.infinity
  | .finite negative m e =>
    Text.ofString (if negative then "-" else "") ++
      if m = 0 then style.layOut (Text.ofString "0") 1
      else
        let (digits, power) := shortest m e
        let shown := Text.trimEnd (· = '0') (Text.ofNat digits)
        style.layOut shown (decimalLength digits + power)

end Binary64
end GameArchive
