import GameArchive.Log.Directive
import GameArchive.Number.Rounded

/-!
# Messages

A message is a template with values in the places of its directives. Two percent signs stand for
one. A template without values is taken as it is, percent signs included.
-/

namespace GameArchive
namespace Log

/-- A text filled up to the width of a directive. -/
def fill (d : Directive) (t : Text) : Text :=
  let blanks := List.replicate (d.width - t.length) (CodePoint.ofChar ' ')
  if d.left then t ++ blanks else blanks ++ t

/-- A number filled up to the width: zeros go between what stands before it and its digits. -/
def fillNumber (d : Directive) (negative : Bool) (base digits : Text) : Text :=
  let sign : Text := if negative then "-" else d.sign
  let start := sign ++ base
  if d.zero ∧ !d.left then
    start ++ Binary64.zeros (d.width - start.length - digits.length) ++ digits
  else fill d (start ++ digits)

/-! ## Integers -/

/-- The integer that a number is cut to. -/
def cutInteger (heap : Heap) (letter : CodePoint) (v : Value) : Except FormatError Int :=
  match v, integer? v with
  | _, some n => .ok n
  | .scalar (.float x), none =>
    match x.truncate? with
    | some n => .ok n
    | none => .error (.notFinite (x = .nan))
  | v, none => .error (.notANumber letter (v.typeName heap))

/-- An integer as a directive asks for it, in a base that is named by `mark`. Its precision must
leave room for a sign and a mark. -/
def writeInteger (d : Directive) (base : Nat) (mark : Text) (n : Int) :
    Except FormatError Text := do
  if precisionLimit - 3 < d.precision.getD 0 then throw .precisionTooLarge
  if base = 10 ∧ Json.isLongInteger n then throw (.value .longInteger)
  let digits : Text := (Nat.toDigits base n.natAbs).map CodePoint.ofChar
  let digits := Binary64.zeros (d.precision.getD 0 - digits.length) ++ digits
  let upper := d.letter = CodePoint.ofChar 'X'
  return fillNumber d (n < 0) (if d.alternate then mark else [])
    (if upper then digits.map CodePoint.capital else digits)

/-- An integer in base eight or sixteen. -/
def writeBased (heap : Heap) (d : Directive) (base : Nat) (v : Value) : Except FormatError Text :=
  match integer? v with
  | none => .error (.notAnInteger d.letter (v.typeName heap))
  | some n => writeInteger d base [CodePoint.ofChar '0', d.letter] n

/-! ## Decimals and characters -/

/-- The floating-point number that a value is. -/
def realOf (heap : Heap) (v : Value) : Except FormatError Binary64 :=
  match v, integer? v with
  | .scalar (.float x), _ => .ok x
  | _, some n =>
    let x := Binary64.ofRatio (n < 0) n.natAbs 1
    if x.isFinite then .ok x else .error .tooLarge
  | _, none => .error (.notReal (v.typeName heap))

/-- The precision of a decimal, six unless the directive says more. The greatest one leaves no room
for the digit before the point, so with a power of ten it counts as none. -/
def decimalPrecision (d : Directive) (rounding : Binary64.Rounding) : Nat :=
  let precision := d.precision.getD 6
  if rounding matches .scientific ∧ precision = precisionLimit then 0 else precision

/-- A decimal as a directive asks for it. -/
def writeDecimal (heap : Heap) (d : Directive) (rounding : Binary64.Rounding) (v : Value) :
    Except FormatError Text := do
  let x ← realOf heap v
  let digits := x.rounded rounding d.alternate (decimalPrecision d rounding)
  let upper := d.letter.between 'A' 'Z'
  return fillNumber d x.isNegative [] (if upper then digits.map CodePoint.capital else digits)

/-- A character by itself or by its number. -/
def characterOf (v : Value) : Except FormatError CodePoint :=
  match v, integer? v with
  | .scalar (.string [c]), _ => .ok c
  | _, none => .error .notACharacter
  | _, some n =>
    if 0 ≤ n ∧ n < 0x110000 then .ok (CodePoint.ofNat n.toNat) else .error .noSuchCharacter

/-! ## Templates -/

/-- A value in the place of a directive whose width a text can have. -/
def writeNarrow (heap : Heap) (d : Directive) (position : Nat) (v : Value) :
    Except FormatError Text :=
  let cut := fun (t : Text) => fill d ((d.precision.map t.take).getD t)
  match d.letter.char? with
  | some 's' => ((v.text heap).mapError .value).map cut
  | some 'r' => ((v.shown heap).mapError .value).map cut
  | some 'a' => ((v.shown heap).mapError .value).map fun t => cut t.ascii
  | some 'd' | some 'i' | some 'u' => (cutInteger heap d.letter v).bind (writeInteger d 10 [])
  | some 'o' => writeBased heap d 8 v
  | some 'x' | some 'X' => writeBased heap d 16 v
  | some 'e' | some 'E' => writeDecimal heap d .scientific v
  | some 'f' | some 'F' => writeDecimal heap d .fixed v
  | some 'g' | some 'G' => writeDecimal heap d .general v
  | some 'c' => (characterOf v).map fun c => fill d [c]
  | _ => .error (.unknownLetter d.letter position)

/-- The greatest number of characters that a value is filled up to. -/
def roomLimit : Nat := Nat.pow 2 32

/-- A value in the place of a directive. A width beyond all room fails last. -/
def writeValue (heap : Heap) (d : Directive) (position : Nat) (v : Value) :
    Except FormatError Text := do
  if d.width ≤ roomLimit then writeNarrow heap d position v
  else
    let _ ← writeNarrow heap { d with width := 0 } position v
    throw .noRoom

/-- The template from a position on, with the values that are left. The first argument bounds the
number of characters. -/
def fillFrom (heap : Heap) (length : Nat) : (fuel : Nat) → Source → Text → Except FormatError Text
  | 0, _, _ => .ok []
  | _, s, [] => if s.isUsed then .ok [] else .error .tooManyValues
  | fuel + 1, s, c :: rest =>
    if c ≠ '%' then (fillFrom heap length fuel s rest).map (c :: ·)
    else if rest.head? = some (CodePoint.ofChar '%') then
      (fillFrom heap length fuel s rest.tail).map (c :: ·)
    else do
      let (d, s, rest) ← takeDirective s rest
      let (v, s) ← s.next
      let text ← writeValue heap d (length - rest.length - 1) v
      return text ++ (← fillFrom heap length fuel s rest)

/-- The message that a template and values make. -/
def message (heap : Heap) (template : Text) (args : List Value) : Except FormatError Text :=
  if args.isEmpty then .ok template
  else fillFrom heap template.length template.length.succ (Source.ofArgs heap args) template

def FormatError.message : FormatError → Text
  | .tooManyValues => "not all arguments converted during string formatting"
  | .tooFewValues => "not enough arguments for format string"
  | .notANumber letter type =>
    "%" ++ [letter] ++ " format: a real number is required, not " ++ type
  | .notAnInteger letter type =>
    "%" ++ [letter] ++ " format: an integer is required, not " ++ type
  | .notReal type => "must be real number, not " ++ type
  | .tooLarge => "int too large to convert to float"
  | .notFinite true => "cannot convert float NaN to integer"
  | .notFinite false => "cannot convert float infinity to integer"
  | .notACharacter => "%c requires int or char"
  | .noSuchCharacter => "%c arg not in range(0x110000)"
  | .boundNotInteger => "* wants int"
  | .boundTooLarge isWidth => if isWidth then "width out of range" else "precision out of range"
  | .widthTooBig => "width too big"
  | .precisionTooBig => "precision too big"
  | .precisionTooLarge => "precision too large"
  | .noRoom => []
  | .unknownLetter letter position =>
    let shown : CodePoint :=
      if 31 ≤ letter.val ∧ letter.val ≤ 126 then letter else CodePoint.ofChar '?'
    "unsupported format character '" ++ [shown] ++ "' (0x" ++ hex letter.val ++ ") at index " ++
      Text.ofNat position
  | .incomplete => "incomplete format"
  | .incompleteKey => "incomplete format key"
  | .notAMapping => "format requires a mapping"
  | .missingKey key => Text.shown key
  | .value fault => fault.message
where
  hex (n : Nat) : Text := (Nat.toDigits 16 n).map CodePoint.ofChar

end Log
end GameArchive
