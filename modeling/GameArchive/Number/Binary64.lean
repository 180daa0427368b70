/-!
# Binary floating-point numbers of 64 bits

A finite number is `± mantissa · 2 ^ exponent` with a mantissa below `2 ^ 53` and an exponent from
`-1074` to `971`. Every ratio of natural numbers is rounded to the nearest such number, a tie to the
even mantissa; all arithmetic is exact before that one rounding.
-/

namespace GameArchive

inductive Binary64 where
  | nan
  | infinite (negative : Bool)
  | finite (negative : Bool) (mantissa : Nat) (exponent : Int)
deriving DecidableEq

namespace Binary64

def zero (negative : Bool) : Binary64 := .finite negative 0 (-1074)

def isFinite : Binary64 → Bool
  | .finite .. => true
  | _ => false

def isZero : Binary64 → Bool
  | .finite _ m _ => m = 0
  | _ => false

/-- The quotient rounded to the nearest integer, a tie to the even one. -/
def roundDiv (num den : Nat) : Nat :=
  let q := num / den
  let twice := 2 * (num % den)
  if twice < den then q
  else if den < twice then q + 1
  else q + q % 2

/-- `num / (den · 2 ^ e)` as a quotient of natural numbers. -/
def scaled (num den : Nat) (e : Int) : Nat × Nat :=
  if e < 0 then (num * Nat.pow 2 (-e).toNat, den) else (num, den * Nat.pow 2 e.toNat)

/-- The exponent under which a positive ratio has a mantissa of 53 bits, or the least exponent. -/
def exponentFor (num den : Nat) : Int :=
  let k : Int := (Nat.log2 num : Int) - (Nat.log2 den : Int)
  let e := k - 53
  let (n, d) := scaled num den e
  max (-1074) (if n / d < Nat.pow 2 53 then e else e + 1)

/-- The number nearest to `± num / den`. -/
def ofRatio (negative : Bool) (num den : Nat) : Binary64 :=
  if num = 0 then zero negative
  else
    let e := exponentFor num den
    let (n, d) := scaled num den e
    let m := roundDiv n d
    let (m, e) := if m = Nat.pow 2 53 then (Nat.pow 2 52, e + 1) else (m, e)
    if 971 < e then .infinite negative else .finite negative m e

/-- The number of decimal digits of a natural number. -/
def decimalLength (n : Nat) : Nat := (Nat.toDigits 10 n).length

/-- The number nearest to `± digits · 10 ^ power`. A size beyond every finite number, or below half
of the least one, is decided without computing the power. -/
def ofDecimal (negative : Bool) (digits : Nat) (power : Int) : Binary64 :=
  if digits = 0 then zero negative
  else
    let size : Int := decimalLength digits + power
    if 310 < size then .infinite negative
    else if size < -330 then zero negative
    else if power < 0 then ofRatio negative digits (Nat.pow 10 (-power).toNat)
    else ofRatio negative (digits * Nat.pow 10 power.toNat) 1

/-- The magnitude of a finite number as a quotient. -/
def magnitude (m : Nat) (e : Int) : Nat × Nat :=
  if e < 0 then (m, Nat.pow 2 (-e).toNat) else (m * Nat.pow 2 e.toNat, 1)

/-- The product with a natural number. -/
def times (x : Binary64) (n : Nat) : Binary64 :=
  match x with
  | .finite negative m e =>
    let (num, den) := magnitude m e
    ofRatio negative (num * n) den
  | other => other

/-- The integer part of a finite number. -/
def truncate? : Binary64 → Option Int
  | .finite negative m e =>
    let (num, den) := magnitude m e
    let n : Int := (num / den : Nat)
    some (if negative then -n else n)
  | _ => none

/-- The number is exactly this integer. -/
def equalsInt (x : Binary64) (n : Int) : Bool :=
  match x with
  | .finite negative m e =>
    let (num, den) := magnitude m e
    (if negative then -(num : Int) else num) = n * den
  | _ => false

/-- Equality of values: the zeros are equal, and what is no number equals nothing. -/
def same : Binary64 → Binary64 → Bool
  | .infinite s, .infinite t => s = t
  | .finite s m e, .finite t n f =>
    (m = 0 && n = 0) || (s = t && m = n && e = f)
  | _, _ => false

end Binary64
end GameArchive
