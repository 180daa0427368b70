import GameArchive.Json.Reader
import GameArchive.Text.Category

/-!
# Relaxed JSON

The notation of settings files: JSON with comments, single quotes, bare names, commas at the end of
lists, hexadecimal integers, signs and points without digits beside them, and further blanks. A text
either has a value or not; where it fails does not matter.
-/

namespace GameArchive
namespace Json
namespace Relaxed

open Category

def isLineEnd (c : CodePoint) : Bool :=
  c.val = 0x0a || c.val = 0x0d || c.val = 0x2028 || c.val = 0x2029

/-- Line ends, tabs, form feeds, every kind of space, and the byte order mark. -/
def isBlank (c : CodePoint) : Bool :=
  isLineEnd c || c.val = 0x20 || c.val = 0x09 || c.val = 0x0b || c.val = 0x0c || c.val = 0xa0 ||
    c.val = 0x1680 || (0x2000 ≤ c.val && c.val ≤ 0x200a) || c.val = 0x202f || c.val = 0x205f ||
    c.val = 0x3000 || c.val = 0xfeff

/-- What follows the end of a comment that may span lines. -/
def afterComment? : Text → Option Text
  | c :: d :: rest => if c = '*' ∧ d = '/' then some rest else afterComment? (d :: rest)
  | _ => none

/-- The text without the blanks and comments that it starts with. The first argument bounds the
number of characters. -/
def skipFrom : (fuel : Nat) → Text → Text
  | 0, t => t
  | _, [] => []
  | fuel + 1, c :: rest =>
    if isBlank c then skipFrom fuel rest
    else if c = '/' then
      match rest with
      | [] => [c]
      | d :: more =>
        if d = '/' then skipFrom fuel (more.dropWhile (!isLineEnd ·))
        else if d = '*' then
          match afterComment? more with
          | some after => skipFrom fuel after
          | none => c :: rest
        else c :: rest
    else c :: rest

def skip (t : Text) : Text := skipFrom t.length t

/-! ## Strings and names -/

/-- The code point of hexadecimal digits, of which there are `count`, and the text behind them. -/
def hexDigits? : (count : Nat) → (value : Nat) → Text → Option (CodePoint × Text)
  | 0, value, t => some (CodePoint.ofNat value, t)
  | _ + 1, _, [] => none
  | count + 1, value, c :: rest => c.hexValue?.bind fun d => hexDigits? count (16 * value + d) rest

/-- The characters that letters stand for after a backslash. -/
def letterEscape? (c : CodePoint) : Option CodePoint :=
  match c.char? with
  | some 'b' => some (CodePoint.ofNat 0x08)
  | some 'f' => some (CodePoint.ofNat 0x0c)
  | some 'n' => some '\n'
  | some 'r' => some '\r'
  | some 't' => some '\t'
  | some 'v' => some (CodePoint.ofNat 0x0b)
  | _ => none

/-- What the text behind a backslash stands for, and what follows it. A line end stands for nothing,
and a character without a meaning of its own for itself. -/
def escape? : Text → Option (Text × Text)
  | [] => none
  | c :: rest =>
    if isLineEnd c then
      match rest with
      | d :: more => if c = '\r' ∧ d = '\n' then some ([], more) else some ([], rest)
      | [] => some ([], [])
    else if c = 'x' then (hexDigits? 2 0 rest).map fun (d, rest) => ([d], rest)
    else if c = 'u' then (hexDigits? 4 0 rest).map fun (d, rest) => ([d], rest)
    else if c = '0' then
      if rest.head?.any (·.isDigit) then none else some ([CodePoint.ofNat 0], rest)
    else if c.isDigit then none
    else some ([(letterEscape? c).getD c], rest)

/-- The rest of a string behind its opening quote. Line feeds and carriage returns must be
escaped. -/
def stringBody? (quote : CodePoint) : (fuel : Nat) → Text → Option (Text × Text)
  | 0, _ => none
  | _, [] => none
  | fuel + 1, c :: rest =>
    if c = quote then some ([], rest)
    else if c = '\\' then do
      let (meant, rest) ← escape? rest
      let (body, rest) ← stringBody? quote fuel rest
      return (meant ++ body, rest)
    else if c = '\n' ∨ c = '\r' then none
    else (stringBody? quote fuel rest).map fun (body, rest) => (c :: body, rest)

/-- A string in quotes of either kind. -/
def string? : Text → Option (Text × Text)
  | [] => none
  | c :: rest => if c = '"' ∨ c = '\'' then stringBody? c rest.length rest else none

def isNameStart (c : CodePoint) : Bool :=
  c.isLetter || c = '$' || c = '_' ||
    (0x80 ≤ c.val && (within letters c.val || within letterNumbers c.val))

def isNamePart (c : CodePoint) : Bool :=
  isNameStart c || c.isDigit || c.val = 0x200c || c.val = 0x200d ||
    (0x80 ≤ c.val && (within marks c.val || within decimalDigits c.val || within connectors c.val))

/-- One character of a name, as it is or as an escape. -/
def nameChar? (isPart : CodePoint → Bool) : Text → Option (CodePoint × Text)
  | [] => none
  | c :: rest =>
    if isPart c then some (c, rest)
    else if c = '\\' then
      match rest with
      | u :: rest => if u = 'u' then hexDigits? 4 0 rest else none
      | [] => none
    else none

/-- The longest run of characters of a name. -/
def nameRest : (fuel : Nat) → Text → Text × Text
  | 0, t => ([], t)
  | fuel + 1, t =>
    match nameChar? isNamePart t with
    | none => ([], t)
    | some (c, rest) =>
      let (name, rest) := nameRest fuel rest
      (c :: name, rest)

/-- A name without quotes. -/
def name? (t : Text) : Option (Text × Text) :=
  (nameChar? isNameStart t).map fun (c, rest) =>
    let (name, rest) := nameRest rest.length rest
    (c :: name, rest)

/-! ## Numbers -/

/-- The sign before a number: whether it is a minus, and the text behind it. -/
def sign : Text → Bool × Text
  | [] => (false, [])
  | c :: rest =>
    if c = '-' then (true, rest) else if c = '+' then (false, rest) else (false, c :: rest)

/-- A run of digits and what follows it. -/
def digits (t : Text) : Text × Text := (t.takeWhile (·.isDigit), t.dropWhile (·.isDigit))

/-- The digits behind a point, if there is a point. -/
def fraction : Text → Option Text × Text
  | [] => (none, [])
  | c :: rest =>
    if c = '.' then
      let (d, rest) := digits rest
      (some d, rest)
    else (none, c :: rest)

/-- A power of ten; one without digits is no power. -/
def exponent? : Text → Option (Option Int × Text)
  | [] => some (none, [])
  | c :: rest =>
    if c = 'e' ∨ c = 'E' then
      let (negative, rest) := sign rest
      let (d, rest) := digits rest
      if d.isEmpty then none
      else
        let n : Int := Text.digitsValue d
        some (some (if negative then -n else n), rest)
    else some (none, c :: rest)

/-- A decimal number. One with a point or a power is a floating-point number. An integer has no
digit behind a leading zero. -/
def decimal? (negative : Bool) (t : Text) : Option (Json × Text) := do
  let (whole, rest) := digits t
  let (fraction, rest) := fraction rest
  let (power, rest) ← exponent? rest
  if rest.head?.any fun c => isNameStart c || c = '\\' then none
  else if whole.head? = some (CodePoint.ofChar '0') ∧ 1 < whole.length then none
  else if (whole ++ fraction.getD []).isEmpty then none
  else if fraction.isNone ∧ power.isNone then
    if Reader.digitLimit < whole.length then none
    else
      let n : Int := Text.digitsValue whole
      some (.int (if negative then -n else n), rest)
  else
    some (.float (Binary64.ofDecimal negative (Text.digitsValue (whole ++ fraction.getD []))
      (power.getD 0 - (fraction.getD []).length)), rest)

/-- A hexadecimal integer. -/
def hexadecimal? (negative : Bool) : Text → Option (Json × Text)
  | zero :: x :: rest =>
    let body := rest.takeWhile (·.isHexDigit)
    if zero = '0' ∧ (x = 'x' ∨ x = 'X') ∧ body ≠ [] then
      let n : Nat := body.foldl (fun n c => 16 * n + c.hexValue?.getD 0) 0
      some (.int (if negative then -n else n), rest.drop body.length)
    else none
  | _ => none

/-- A number with at most one sign right before it. -/
def number? (t : Text) : Option (Json × Text) :=
  let (negative, t) := sign t
  match Text.afterPrefix? "Infinity" t with
  | some rest => some (.float (.infinite negative), rest)
  | none =>
    match Text.afterPrefix? "NaN" t with
    | some rest => some (.float .nan, rest)
    | none => (hexadecimal? negative t).orElse fun _ => decimal? negative t

/-! ## Values -/

/-- Items behind an opening bracket. -/
def items? (value : Text → Option (Json × Text)) : (fuel : Nat) → Text → Option (List Json × Text)
  | 0, _ => none
  | fuel + 1, t => do
    let (item, rest) ← value t
    match skip rest with
    | [] => none
    | c :: rest =>
      if c = ']' then some ([item], rest)
      else if c = ',' then
        match skip rest with
        | [] => none
        | d :: rest =>
          if d = ']' then some ([item], rest)
          else (items? value fuel (d :: rest)).map fun (more, rest) => (item :: more, rest)
      else none

/-- Members behind an opening brace. -/
def members? (value : Text → Option (Json × Text)) :
    (fuel : Nat) → Text → Option (List (Text × Json) × Text)
  | 0, _ => none
  | fuel + 1, t => do
    let (name, rest) ← (string? t).orElse fun _ => name? t
    match skip rest with
    | [] => none
    | colon :: rest =>
      if colon ≠ ':' then none
      else
        let (v, rest) ← value (skip rest)
        match skip rest with
        | [] => none
        | c :: rest =>
          if c = '}' then some ([(name, v)], rest)
          else if c = ',' then
            match skip rest with
            | [] => none
            | d :: rest =>
              if d = '}' then some ([(name, v)], rest)
              else
                (members? value fuel (d :: rest)).map fun (more, rest) => ((name, v) :: more, rest)
          else none

/-- The words that are values. -/
def words : List (Text × Json) := [("null", .null), ("true", .bool true), ("false", .bool false)]

def word? (t : Text) : Option (Json × Text) :=
  words.findSome? fun (word, value) => (Text.afterPrefix? word t).map (value, ·)

/-- A value at the start of a text; the first argument bounds how deep values nest. -/
def value? : (fuel : Nat) → Text → Option (Json × Text)
  | 0, _ => none
  | _, [] => none
  | fuel + 1, c :: rest =>
    if c = '[' then
      match skip rest with
      | [] => none
      | d :: rest =>
        if d = ']' then some (.array [], rest)
        else
          (items? (value? fuel) rest.length.succ (d :: rest)).map fun (xs, rest) =>
            (.array xs, rest)
    else if c = '{' then
      match skip rest with
      | [] => none
      | d :: rest =>
        if d = '}' then some (.object [], rest)
        else (members? (value? fuel) rest.length.succ (d :: rest)).map fun (ms, rest) =>
          (.object (Members.ofList ms), rest)
    else if c = '"' ∨ c = '\'' then (string? (c :: rest)).map fun (s, rest) => (.string s, rest)
    else (word? (c :: rest)).orElse fun _ => number? (c :: rest)

end Relaxed

/-- The value that a whole text writes in relaxed notation. -/
def relaxed? (t : Text) : Option Json :=
  let start := Relaxed.skip t
  match Relaxed.value? start.length.succ start with
  | some (v, rest) => if (Relaxed.skip rest).isEmpty then some v else none
  | none => none

end Json
end GameArchive
