import GameArchive.Script.Grammar.Character
import GameArchive.Script.Grammar.Fault

/-!
# Names and literals

Each reader looks at the start of a text and says how many characters belong to the name or literal,
and what else must be known of it; none means that the literal is faulty. A string, a template or a
regular expression says what is wrong with it.
-/

namespace GameArchive
namespace Script
namespace Grammar

/-! ## Escapes -/

/-- The code point that `width` hexadecimal digits write. -/
def hexEscape? (width : Nat) (t : Text) : Option CodePoint :=
  let digits := t.take width
  if digits.length = width ∧ digits.all (·.isHexDigit) then
    some (CodePoint.ofNat (Text.hexNumber digits))
  else none

/-- The code point between braces, and the length of the escape; the text starts behind the
brace. -/
def bracedEscape? (t : Text) : Option (CodePoint × Nat) :=
  let digits := t.takeWhile (·.isHexDigit)
  let n := Text.hexNumber digits
  if digits.isEmpty ∨ (t.drop digits.length).head? ≠ some (CodePoint.ofChar '\x7d') ∨
      0x10ffff < n then
    none
  else some (CodePoint.ofNat n, digits.length + 1)

def opensBrace (t : Text) : Bool := t.head? = some (CodePoint.ofChar '\x7b')

/-- The code point of a Unicode escape, and how many characters follow its letter. -/
def unicodeEscape? (t : Text) : Option (CodePoint × Nat) :=
  if opensBrace t then (bracedEscape? t.tail).map fun (c, n) => (c, n + 1)
  else (hexEscape? 4 t).map (·, 4)

/-- The characters that a letter after a backslash stands for. -/
def controlEscape? (c : CodePoint) : Option CodePoint :=
  if c = 'n' then some '\n'
  else if c = 'r' then some '\r'
  else if c = 't' then some '\t'
  else if c = 'b' then some (CodePoint.ofNat 0x08)
  else if c = 'f' then some (CodePoint.ofNat 0x0c)
  else if c = 'v' then some (CodePoint.ofNat 0x0b)
  else none

/-! ## Names -/

/-- An escape in a name, whose four digits must give a character that is allowed there. -/
def nameEscape? (allowed : CodePoint → Bool) (t : Text) : Option (CodePoint × Nat) :=
  match unicodeEscape? t with
  | some (c, n) => if opensBrace t ∨ (c ≠ '\\' ∧ allowed c) then some (c, n) else none
  | none => none

/-- A name and its length; a first character is read under `allowed`, further ones as name parts. -/
def nameFrom? (allowed : CodePoint → Bool) : (fuel : Nat) → Text → Option (Text × Nat)
  | 0, _ => some ([], 0)
  | _, [] => some ([], 0)
  | fuel + 1, c :: rest =>
    if c = '\\' then
      match rest with
      | u :: after =>
        if u = 'u' then
          match nameEscape? allowed after with
          | some (d, n) =>
            (nameFrom? isNamePart fuel (after.drop n)).map fun (name, count) =>
              (d :: name, count + n + 2)
          | none => none
        else none
      | [] => none
    else if allowed c then
      (nameFrom? isNamePart fuel rest).map fun (name, count) => (c :: name, count + 1)
    else some ([], 0)

def name? (t : Text) : Option (Text × Nat) := nameFrom? isNameStart t.length t

/-! ## Numbers -/

def startsName (t : Text) : Bool := t.head?.any isNameStart

def startsDigit (t : Text) : Bool := t.head?.any (·.isDigit)

/-- The length of a number in another base: at least one digit, and no name or digit after them. -/
def basedNumber? (isDigit : CodePoint → Bool) (t : Text) : Option Nat :=
  let count := (t.takeWhile isDigit).length
  let rest := t.drop count
  if count = 0 ∨ startsName rest ∨ startsDigit rest then none else some (count + 2)

def digitCount (t : Text) : Nat := (t.takeWhile (·.isDigit)).length

/-- The length of the part of a number after a point. -/
def fractionLength (t : Text) : Nat :=
  if t.head? = some (CodePoint.ofChar '.') then 1 + digitCount t.tail else 0

/-- The length of an exponent, which needs digits. -/
def exponentLength? : Text → Option Nat
  | [] => some 0
  | e :: rest =>
    if e = 'e' ∨ e = 'E' then
      let sign :=
        if rest.head? = some (CodePoint.ofChar '+') ∨ rest.head? = some (CodePoint.ofChar '-') then
          1
        else 0
      let count := digitCount (rest.drop sign)
      if count = 0 then none else some (1 + sign + count)
    else some 0

def decimalNumber? (t : Text) : Option Nat :=
  let whole := digitCount t
  let count := whole + fractionLength (t.drop whole)
  match exponentLength? (t.drop count) with
  | none => none
  | some exponent =>
    if startsName (t.drop (count + exponent)) then none else some (count + exponent)

/-- A zero and octal digits, the digits being followed by no other digit. -/
def isOldOctal (t : Text) : Bool :=
  let rest := t.tail
  rest.head?.any (·.isOctalDigit) && !startsDigit (rest.dropWhile (·.isOctalDigit))

/-- The length of a number, and whether it is octal without saying so. -/
def number? (t : Text) : Option (Nat × Bool) :=
  if t.head? = some (CodePoint.ofChar '0') then
    match t.tail with
    | [] => some (1, false)
    | base :: digits =>
      if base = 'x' ∨ base = 'X' then (basedNumber? (·.isHexDigit) digits).map (·, false)
      else if base = 'b' ∨ base = 'B' then
        (basedNumber? (fun c => c = '0' || c = '1') digits).map (·, false)
      else if base = 'o' ∨ base = 'O' then (basedNumber? (·.isOctalDigit) digits).map (·, false)
      else if isOldOctal t then
        let count := (t.takeWhile (·.isOctalDigit)).length
        if startsName (t.drop count) then none else some (count, true)
      else (decimalNumber? t).map (·, false)
  else (decimalNumber? t).map (·, false)

/-- The value of a number in another base than ten; `octal` holds if it does not say its base. -/
def basedValue? (raw : Text) (octal : Bool) : Option Nat :=
  if octal then some (Text.octalNumber raw)
  else
    match raw with
    | _ :: base :: digits =>
      if base = 'x' ∨ base = 'X' then some (Text.hexNumber digits)
      else if base = 'o' ∨ base = 'O' then some (Text.octalNumber digits)
      else if base = 'b' ∨ base = 'B' then some (Text.valueInBase 2 digits)
      else none
    | _ => none

/-- What is wrong with a literal that reaches over lines, and the line ends before that place. -/
structure Flaw where
  lineEnds : Nat
  cause : Cause

/-- The flaw as it is seen from the line before. -/
def Flaw.pushLineEnd (flaw : Flaw) : Flaw := { flaw with lineEnds := flaw.lineEnds + 1 }

/-! ## Strings -/

/-- A quoted part: what it means, its length with the closing quote, whether an octal escape is in
it, and how many line ends are. -/
structure Quoted where
  value : Text
  length : Nat
  octal : Bool
  lineEnds : Nat

namespace Quoted

def close (length : Nat) : Quoted := ⟨[], length, false, 0⟩

/-- Characters with a meaning before a quoted part. -/
def push (value : Text) (length : Nat) (q : Quoted) : Quoted :=
  { q with value := value ++ q.value, length := length + q.length }

def pushLineEnd (value : Text) (length : Nat) (q : Quoted) : Quoted :=
  { q.push value length with lineEnds := q.lineEnds + 1 }

end Quoted

/-- The length of an octal escape: up to three digits, the value below 256. -/
def octalLength (t : Text) : Nat :=
  match t with
  | a :: b :: c :: _ =>
    if !b.isOctalDigit then 1
    else if a.between '0' '3' ∧ c.isOctalDigit then 3 else 2
  | [_, b] => if b.isOctalDigit then 2 else 1
  | _ => 1

/-- The rest of a string after its opening quote. -/
def stringFrom (quote : CodePoint) : (fuel : Nat) → Text → Except Flaw Quoted
  | 0, _ => .error ⟨0, .illegal⟩
  | _, [] => .error ⟨0, .illegal⟩
  | fuel + 1, c :: rest =>
    if c = quote then .ok (.close 1)
    else if c = '\\' then
      match rest with
      | [] => .error ⟨0, .illegal⟩
      | d :: after =>
        if isLineTerminator d then
          let n := lineEndLength rest
          match stringFrom quote fuel (rest.drop n) with
          | .ok q => .ok (q.pushLineEnd [] (n + 1))
          | .error flaw => .error flaw.pushLineEnd
        else if d = 'u' then
          match unicodeEscape? after with
          | some (e, n) => (stringFrom quote fuel (after.drop n)).map (Quoted.push [e] (n + 2))
          | none => .error ⟨0, .illegal⟩
        else if d = 'x' then
          match hexEscape? 2 after with
          | some e => (stringFrom quote fuel (after.drop 2)).map (Quoted.push [e] 4)
          | none => .error ⟨0, .hexEscape⟩
        else if d.isOctalDigit then
          let n := octalLength rest
          let e := CodePoint.ofNat (Text.octalNumber (rest.take n))
          (stringFrom quote fuel (rest.drop n)).map fun q =>
            { q.push [e] (n + 1) with octal := q.octal || d ≠ '0' || n ≠ 1 }
        else if d = '8' ∨ d = '9' then .error ⟨0, .illegal⟩
        else (stringFrom quote fuel after).map (Quoted.push [(controlEscape? d).getD d] 2)
    else if isLineTerminator c then .error ⟨0, .illegal⟩
    else (stringFrom quote fuel rest).map (Quoted.push [c] 1)

/-- A string with both quotes. -/
def string (t : Text) : Except Flaw Quoted :=
  match t with
  | [] => .error ⟨0, .illegal⟩
  | quote :: rest => (stringFrom quote t.length rest).map (Quoted.push [] 1)

/-! ## Templates -/

/-- A part of a template: its length with both delimiters, whether the closing quote ends it, and
how many line ends are in it. -/
structure TemplatePart where
  length : Nat
  tail : Bool
  lineEnds : Nat

namespace TemplatePart

def push (length : Nat) (part : TemplatePart) : TemplatePart :=
  { part with length := length + part.length }

def pushLineEnd (length : Nat) (part : TemplatePart) : TemplatePart :=
  { part with length := length + part.length, lineEnds := part.lineEnds + 1 }

end TemplatePart

/-- The quote of templates. -/
def grave : CodePoint := CodePoint.ofNat 0x60

/-- The rest of a part after its opening delimiter. -/
def templateFrom : (fuel : Nat) → Text → Except Flaw TemplatePart
  | 0, _ => .error ⟨0, .illegal⟩
  | _, [] => .error ⟨0, .illegal⟩
  | fuel + 1, c :: rest =>
    if c = grave then .ok ⟨1, true, 0⟩
    else if c = '$' ∧ opensBrace rest then .ok ⟨2, false, 0⟩
    else if c = '\\' then
      match rest with
      | [] => .error ⟨0, .illegal⟩
      | d :: after =>
        if isLineTerminator d then
          let n := lineEndLength rest
          match templateFrom fuel (rest.drop n) with
          | .ok part => .ok (part.pushLineEnd (n + 1))
          | .error flaw => .error flaw.pushLineEnd
        else if d = 'u' then
          if opensBrace after then
            match bracedEscape? after.tail with
            | some (_, n) =>
              (templateFrom fuel (after.drop (n + 1))).map (TemplatePart.push (n + 3))
            | none => .error ⟨0, .illegal⟩
          else (templateFrom fuel after).map (TemplatePart.push 2)
        else if d = 'x' then
          match hexEscape? 2 after with
          | some _ => (templateFrom fuel (after.drop 2)).map (TemplatePart.push 4)
          | none => .error ⟨0, .hexEscape⟩
        else if d = '0' then
          if startsDigit after then .error ⟨0, .templateOctal⟩
          else (templateFrom fuel after).map (TemplatePart.push 2)
        else if d.isOctalDigit then .error ⟨0, .templateOctal⟩
        else (templateFrom fuel after).map (TemplatePart.push 2)
    else if isLineTerminator c then
      let n := lineEndLength (c :: rest)
      match templateFrom fuel ((c :: rest).drop n) with
      | .ok part => .ok (part.pushLineEnd n)
      | .error flaw => .error flaw.pushLineEnd
    else (templateFrom fuel rest).map (TemplatePart.push 1)

def template (t : Text) : Except Flaw TemplatePart :=
  (templateFrom t.length t.tail).map (TemplatePart.push 1)

/-! ## Regular expressions -/

/-- The length of the body of a regular expression after its opening slash. In brackets a slash does
not close it. -/
def bodyLength? (bracketed : Bool) : Text → Option Nat
  | [] => none
  | [c] => if c = '/' ∧ !bracketed then some 0 else none
  | c :: d :: rest =>
    if c = '\\' then
      if isLineTerminator d then none else (bodyLength? bracketed rest).map (· + 2)
    else if isLineTerminator c then none
    else if c = '/' ∧ !bracketed then some 0
    else (bodyLength? (if c = '[' then true else if c = ']' then false else bracketed)
      (d :: rest)).map (· + 1)

/-- The length of the flags. An escape in them is a fault, a backslash that ends the text is not. -/
def flagsLength? (t : Text) : Option Nat :=
  let flags := t.takeWhile isNamePart
  match t.drop (flags.takeWhile fun c : CodePoint => c ≠ '\\').length with
  | [_] => some flags.length
  | _ => if flags.contains (CodePoint.ofChar '\\') then none else some flags.length

/-- The lengths of the body and the flags of a regular expression. -/
def regularExpression (t : Text) : Except Cause (Nat × Nat) :=
  match bodyLength? false t.tail with
  | none => .error .unterminatedRegularExpression
  | some n =>
    match flagsLength? (t.drop (n + 2)) with
    | none => .error .illegal
    | some m => .ok (n, m)

end Grammar
end Script
end GameArchive
