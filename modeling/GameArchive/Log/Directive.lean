import GameArchive.Value.Printer

/-!
# Directives

A template has directives such as `%s` and `%-8.3f` in the places of values: a percent sign, perhaps
a key in parentheses, flags, a width, a precision, and the letter that says how the value is
written. An asterisk takes the width or the precision from the values.
-/

namespace GameArchive
namespace Log

/-- Why a message cannot be made. -/
inductive FormatError where
  | tooManyValues
  | tooFewValues
  /-- No number under a letter for integers that are cut. -/
  | notANumber (letter : CodePoint) (type : Text)
  /-- No integer under a letter for integers in another base. -/
  | notAnInteger (letter : CodePoint) (type : Text)
  /-- No number under a letter for decimals. -/
  | notReal (type : Text)
  /-- An integer beyond every floating-point number. -/
  | tooLarge
  | notFinite (isNan : Bool)
  | notACharacter
  | noSuchCharacter
  /-- A width or precision among the values that is no integer. -/
  | boundNotInteger
  /-- A width or precision among the values that is no machine integer. -/
  | boundTooLarge (isWidth : Bool)
  | widthTooBig
  | precisionTooBig
  /-- A precision that no integer is written with. -/
  | precisionTooLarge
  /-- A width that no text can be filled up to. -/
  | noRoom
  | unknownLetter (letter : CodePoint) (position : Nat)
  | incomplete
  | incompleteKey
  | notAMapping
  | missingKey (key : Text)
  | value (fault : Value.Fault)
deriving DecidableEq

/-- The values for a template: those that are left, and the entries that keys name if the values are
one mapping. -/
structure Source where
  rest : List Value
  entries : Option (List (Value × Value))

namespace Source

/-- A single value that is a mapping with entries stands for its entries too. -/
def ofArgs (heap : Heap) (args : List Value) : Source :=
  match args with
  | [.object number] =>
    match heap[number]? with
    | some (.mapping (entry :: entries)) => ⟨args, some (entry :: entries)⟩
    | _ => ⟨args, none⟩
  | _ => ⟨args, none⟩

/-- The next value. -/
def next (s : Source) : Except FormatError (Value × Source) :=
  match s.rest with
  | v :: rest => .ok (v, { s with rest := rest })
  | [] => .error .tooFewValues

/-- The value for a key becomes the next one, and the only one. -/
def select (key : Text) (s : Source) : Except FormatError Source :=
  match s.entries with
  | none => .error .notAMapping
  | some entries =>
    match entries.lookup (.scalar (.string key)) with
    | some v => .ok { s with rest := [v] }
    | none => .error (.missingKey key)

/-- All values have been used. Entries need not be. -/
def isUsed (s : Source) : Bool := s.entries.isSome || s.rest.isEmpty

end Source

/-- A directive without its percent sign and key. -/
structure Directive where
  left : Bool
  zero : Bool
  /-- The other form of a letter: with the base, or with the point in every case. -/
  alternate : Bool
  /-- What stands before a number that is not negative. -/
  sign : Text
  width : Nat
  precision : Option Nat
  letter : CodePoint

/-- The length of a key before the parenthesis that closes it; `depth` others are open in it. -/
def keyLength? : (depth : Nat) → Text → Option Nat
  | _, [] => none
  | depth, c :: rest =>
    if c = ')' then
      match depth with
      | 0 => some 0
      | depth + 1 => (keyLength? depth rest).map (· + 1)
    else (keyLength? (if c = '(' then depth + 1 else depth) rest).map (· + 1)

/-- Goes over a key in parentheses, whose value becomes the next one. -/
def takeKey (s : Source) (t : Text) : Except FormatError (Source × Text) :=
  if t.head? ≠ some (CodePoint.ofChar '(') then .ok (s, t)
  else if s.entries.isNone then .error .notAMapping
  else
    match keyLength? 0 t.tail with
    | none => .error .incompleteKey
    | some n => (s.select (t.tail.take n)).map (·, t.tail.drop (n + 1))

/-- The integer that a value is. -/
def integer? : Value → Option Int
  | .scalar s => s.integer?
  | .object _ => none

/-- The greatest width that is read. -/
def widthLimit : Nat := Nat.pow 2 63 - 1

/-- The greatest precision that is read. -/
def precisionLimit : Nat := Nat.pow 2 31 - 1

/-- Goes over a width or precision: an asterisk for the next value, or digits. `limit` is the
greatest one. -/
def takeBound (limit : Nat) (isWidth : Bool) (s : Source) (t : Text) :
    Except FormatError (Option Int × Source × Text) :=
  if t.head? = some (CodePoint.ofChar '*') then do
    let (v, s) ← s.next
    match integer? v with
    | none => .error .boundNotInteger
    | some n =>
      if n < -limit - 1 ∨ limit < n then .error (.boundTooLarge isWidth)
      else .ok (some n, s, t.tail)
  else
    let digits := t.takeWhile (·.isDigit)
    let n := Text.digitsValue digits
    if limit < n then .error (if isWidth then .widthTooBig else .precisionTooBig)
    else .ok (if digits.isEmpty then none else some n, s, t.drop digits.length)

def isFlag (c : CodePoint) : Bool := c = '-' || c = '+' || c = ' ' || c = '#' || c = '0'

/-- A letter before the letter that is of no consequence. -/
def isSize (c : CodePoint) : Bool := c = 'h' || c = 'l' || c = 'L'

/-- The directive behind a percent sign, what follows it, and the values that are left for it. A
width below zero is a width to the left, unless it has no counterpart above zero; a precision below
zero is zero. -/
def takeDirective (s : Source) (t : Text) : Except FormatError (Directive × Source × Text) := do
  let (s, t) ← takeKey s t
  let flags := t.takeWhile isFlag
  let has := fun (c : Char) => flags.contains (CodePoint.ofChar c)
  let (width, s, t) ← takeBound widthLimit true s (t.drop flags.length)
  let (precision, s, t) ← if t.head? = some (CodePoint.ofChar '.') then do
      let (precision, s, t) ← takeBound precisionLimit false s t.tail
      pure (some ((precision.getD 0).toNat), s, t)
    else pure (none, s, t)
  match if t.head?.any isSize then t.tail else t with
  | [] => .error .incomplete
  | letter :: rest =>
    let d : Directive :=
      { left := has '-' || width.any (· < 0)
        zero := has '0'
        alternate := has '#'
        sign := if has '+' then "+" else if has ' ' then " " else ""
        width := if (width.getD 0).natAbs ≤ widthLimit then (width.getD 0).natAbs else 0
        precision := precision
        letter := letter }
    .ok (d, s, rest)

end Log
end GameArchive
