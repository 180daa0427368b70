import GameArchive.Number.Shortest

/-!
# Rounded decimals

The decimal of a number with a given precision: so many places behind the point, or so many digits
in all. A finite number is a quotient, so it is rounded once, and an exact tie goes to the even
digit.
-/

namespace GameArchive
namespace Binary64

/-- The exponent and sign that follow a mantissa: a sign and at least two digits. -/
def exponentText (power : Int) : Text :=
  let digits := Text.ofNat power.natAbs
  Text.ofString (if power < 0 then "e-" else "e+") ++ zeros (2 - digits.length) ++ digits

/-- Digits with a point before the last `places` of them. A point with nothing behind it is written
only if it is kept. -/
def withPoint (keepPoint : Bool) (places : Nat) (digits : Text) : Text :=
  let digits := zeros (places + 1 - digits.length) ++ digits
  let whole := digits.take (digits.length - places)
  let rest := digits.drop (digits.length - places)
  if rest.isEmpty ∧ !keepPoint then whole else whole ++ CodePoint.ofChar '.' :: rest

/-- The quotient rounded to a number of places. -/
def fixed (keepPoint : Bool) (places num den : Nat) : Text :=
  withPoint keepPoint places (Text.ofNat (roundDiv (num * Nat.pow 10 places) den))

/-- The first `count` digits of a quotient, rounded, and the power of ten of the first one. -/
def leadingDigits (count num den : Nat) : Text × Int :=
  if num = 0 then (zeros count, 0)
  else
    let point := decimalPower num den
    let power := point - count
    let (n, d) := if power < 0 then (num * Nat.pow 10 (-power).toNat, den)
      else (num, den * Nat.pow 10 power.toNat)
    let digits := roundDiv n d
    if digits = Nat.pow 10 count then (CodePoint.ofChar '1' :: zeros (count - 1), point)
    else (Text.ofNat digits, point - 1)

/-- Digits with the point behind the first one, and a power of ten. -/
def scientificLayout (keepPoint : Bool) (digits : Text) (power : Int) : Text :=
  withPoint keepPoint (digits.length - 1) digits ++ exponentText power

/-- The quotient with one digit before the point, a number of places, and a power of ten. -/
def scientific (keepPoint : Bool) (places num den : Nat) : Text :=
  let (digits, power) := leadingDigits (places + 1) num den
  scientificLayout keepPoint digits power

/-- No number has more digits than this before the zeros at its end. -/
def digitBound : Nat := 1100

/-- The quotient with a number of digits in all, by a power of ten if it is very small or has more
digits before the point. Zeros at the end behind the point are written only if the point is kept. -/
def general (keepPoint : Bool) (precision num den : Nat) : Text :=
  let count := max 1 (if keepPoint then precision else min precision digitBound)
  let (digits, power) := leadingDigits count num den
  let inside := -4 ≤ power ∧ power < count
  let places := if inside then ((count : Int) - 1 - power).toNat else count - 1
  let zerosAtEnd := (digits.reverse.takeWhile (· = CodePoint.ofChar '0')).length
  let spare := if keepPoint then 0 else min places zerosAtEnd
  let shown := digits.take (digits.length - spare)
  if inside then withPoint keepPoint (places - spare) shown
  else scientificLayout keepPoint shown power

/-- How a number is rounded. -/
inductive Rounding where
  | fixed
  | scientific
  | general

/-- The magnitude of a number with a precision. -/
def rounded (rounding : Rounding) (keepPoint : Bool) (precision : Nat) : Binary64 → Text
  | .nan => "nan"
  | .infinite _ => "inf"
  | .finite _ m e =>
    let (num, den) := magnitude m e
    match rounding with
    | .fixed => fixed keepPoint precision num den
    | .scientific => scientific keepPoint precision num den
    | .general => general keepPoint precision num den

/-- A minus sign belongs to the number, negative zero included. -/
def isNegative : Binary64 → Bool
  | .nan => false
  | .infinite negative => negative
  | .finite negative _ _ => negative

end Binary64
end GameArchive
