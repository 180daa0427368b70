import GameArchive.Json.Basic

/-!
# Reading JSON

A reader works on the rest of a text and answers a value with what follows it. Where it fails it
answers the fault with the rest that starts there, so that the place is known without counting.
Numbers that are not finite may be written by name, a name that comes again keeps its first place
and takes the last value, and an integer may have at most 4300 digits.
-/

namespace GameArchive
namespace Json

inductive Fault where
  | value
  | name
  | colon
  | comma
  | extra
  | unterminated
  | control
  | escape
  | unicodeEscape
  | byteOrderMark
  | tooManyDigits (count : Nat)
deriving DecidableEq

/-- A fault and the rest of the text from the place of it on. -/
structure Stop where
  fault : Fault
  rest : Text

/-- What was read, and the rest of the text. -/
abbrev Reading (α : Type) := Except Stop (α × Text)

namespace Reader

def isSpace (c : CodePoint) : Bool := c = ' ' || c = '\t' || c = '\n' || c = '\r'

def skipSpace (t : Text) : Text := t.dropWhile isSpace

/-- The character that a short escape stands for. -/
def shortEscape? (c : CodePoint) : Option CodePoint :=
  match c.char? with
  | some '"' => some '"'
  | some '\\' => some '\\'
  | some '/' => some '/'
  | some 'b' => some (CodePoint.ofNat 0x08)
  | some 'f' => some (CodePoint.ofNat 0x0c)
  | some 'n' => some '\n'
  | some 'r' => some '\r'
  | some 't' => some '\t'
  | _ => none

def hex4? (a b c d : CodePoint) : Option Nat := do
  let a ← a.hexValue?
  let b ← b.hexValue?
  let c ← c.hexValue?
  let d ← d.hexValue?
  return ((a * 16 + b) * 16 + c) * 16 + d

/-- The code point of four hexadecimal digits that further text follows. -/
def unicodeEscape? : Text → Option (CodePoint × Text)
  | a :: b :: c :: d :: next :: rest =>
    (hex4? a b c d).map fun n => (CodePoint.ofNat n, next :: rest)
  | _ => none

/-- The low surrogate that an escape directly after a high one writes. -/
def lowEscape? : Text → Option (CodePoint × Text)
  | s :: u :: rest =>
    if s = '\\' ∧ u = 'u' then
      match unicodeEscape? rest with
      | some (low, rest) => if low.isLowSurrogate then some (low, rest) else none
      | none => none
    else none
  | _ => none

/-- The code point above `0xffff` that two surrogates write. -/
def joinSurrogates (high low : CodePoint) : CodePoint :=
  CodePoint.ofNat (0x10000 + (high.val - 0xd800) * 0x400 + (low.val - 0xdc00))

/-- The rest of a string after its opening quote; `opening` starts at that quote. The first argument
bounds the number of characters. -/
def stringBody (opening : Text) : Nat → Text → Reading Text
  | 0, _ => .error ⟨.unterminated, opening⟩
  | _, [] => .error ⟨.unterminated, opening⟩
  | fuel + 1, c :: rest =>
    if c = '"' then .ok ([], rest)
    else if c.val < 0x20 then .error ⟨.control, c :: rest⟩
    else if c = '\\' then
      match rest with
      | [] => .error ⟨.unterminated, opening⟩
      | e :: rest' =>
        if e = 'u' then
          match unicodeEscape? rest' with
          | none => .error ⟨.unicodeEscape, e :: rest'⟩
          | some (high, after) =>
            match (if high.isHighSurrogate then lowEscape? after else none) with
            | some (low, after) =>
              (stringBody opening fuel after).map fun (t, r) => (joinSurrogates high low :: t, r)
            | none => (stringBody opening fuel after).map fun (t, r) => (high :: t, r)
        else match shortEscape? e with
          | some d => (stringBody opening fuel rest').map fun (t, r) => (d :: t, r)
          | none => .error ⟨.escape, c :: rest⟩
    else (stringBody opening fuel rest).map fun (t, r) => (c :: t, r)

/-- A string, its opening quote included. -/
def string (t : Text) : Reading Text := stringBody t t.length t.tail

/-- The part of a number after the point, if a digit follows the point. -/
def fractionPart (t : Text) : Text × Text :=
  match t with
  | p :: d :: rest =>
    if p = '.' ∧ d.isDigit then
      ((d :: rest).takeWhile (·.isDigit), (d :: rest).dropWhile (·.isDigit))
    else ([], t)
  | _ => ([], t)

/-- The exponent of a number, if there are digits in it. -/
def exponentPart (t : Text) : Option Int × Text :=
  match t with
  | e :: rest =>
    if e = 'e' ∨ e = 'E' then
      let (negative, digits) := match rest with
        | s :: more =>
          if s = '-' then (true, more) else if s = '+' then (false, more) else (false, rest)
        | [] => (false, rest)
      let power := digits.takeWhile (·.isDigit)
      if power.isEmpty then (none, t)
      else
        let n : Int := Text.digitsValue power
        (some (if negative then -n else n), digits.dropWhile (·.isDigit))
    else (none, t)
  | [] => (none, t)

/-- The greatest number of digits of an integer. -/
def digitLimit : Nat := 4300

/-- A number that starts with `whole`, its digits before the point. -/
def numberFrom (start : Text) (negative : Bool) (whole rest : Text) : Reading Json :=
  let (fraction, rest') := fractionPart rest
  let (power, rest'') := exponentPart rest'
  if fraction.isEmpty ∧ power.isNone then
    if digitLimit < whole.length then .error ⟨.tooManyDigits whole.length, start⟩
    else
      let n : Int := Text.digitsValue whole
      .ok (.int (if negative then -n else n), rest)
  else
    .ok (.float (Binary64.ofDecimal negative (Text.digitsValue (whole ++ fraction))
      (power.getD 0 - fraction.length)), rest'')

/-- The digits of a number and what goes on from there; the whole number starts at `start`. -/
def unsigned (start : Text) (negative : Bool) : Text → Reading Json
  | d :: rest =>
    if d = '0' then numberFrom start negative [d] rest
    else if d.isDigit then
      numberFrom start negative ((d :: rest).takeWhile (·.isDigit))
        ((d :: rest).dropWhile (·.isDigit))
    else .error ⟨.value, start⟩
  | [] => .error ⟨.value, start⟩

def number : Text → Reading Json
  | c :: rest =>
    if c = '-' then unsigned (c :: rest) true rest else unsigned (c :: rest) false (c :: rest)
  | [] => .error ⟨.value, []⟩

/-- The values that are written by name. -/
def named : List (Text × Json) :=
  [("null", .null), ("true", .bool true), ("false", .bool false), ("NaN", .float .nan),
    ("Infinity", .float (.infinite false)), ("-Infinity", .float (.infinite true))]

def named? (t : Text) : Option (Json × Text) :=
  named.findSome? fun (name, value) => (Text.afterPrefix? name t).map (value, ·)

/-- Items after an opening bracket and blanks. -/
def items (value : Text → Reading Json) : (fuel : Nat) → Text → Reading (List Json)
  | 0, t => .error ⟨.value, t⟩
  | fuel + 1, t =>
    match value t with
    | .error stop => .error stop
    | .ok (item, rest) =>
      match skipSpace rest with
      | c :: rest =>
        if c = ']' then .ok ([item], rest)
        else if c = ',' then
          (items value fuel (skipSpace rest)).map fun (more, rest) => (item :: more, rest)
        else .error ⟨.comma, c :: rest⟩
      | [] => .error ⟨.comma, []⟩

/-- Members after an opening brace and blanks. -/
def members (value : Text → Reading Json) : (fuel : Nat) → Text → Reading (List (Text × Json))
  | 0, t => .error ⟨.name, t⟩
  | fuel + 1, t =>
    if t.head? ≠ some (CodePoint.ofChar '"') then .error ⟨.name, t⟩
    else
      match string t with
      | .error stop => .error stop
      | .ok (name, rest) =>
        match skipSpace rest with
        | [] => .error ⟨.colon, []⟩
        | c :: rest =>
          if c ≠ ':' then .error ⟨.colon, c :: rest⟩
          else
            match value (skipSpace rest) with
            | .error stop => .error stop
            | .ok (v, rest) =>
              match skipSpace rest with
              | c :: rest =>
                if c = '}' then .ok ([(name, v)], rest)
                else if c = ',' then
                  (members value fuel (skipSpace rest)).map fun (more, rest) =>
                    ((name, v) :: more, rest)
                else .error ⟨.comma, c :: rest⟩
              | [] => .error ⟨.comma, []⟩

/-- A value at the start of the text; the first argument bounds how deep values nest. -/
def value : Nat → Text → Reading Json
  | 0, t => .error ⟨.value, t⟩
  | fuel + 1, t =>
    match t with
    | [] => .error ⟨.value, []⟩
    | c :: rest =>
      if c = '"' then (string t).map fun (s, r) => (.string s, r)
      else if c = '[' then
        let rest := skipSpace rest
        if rest.head? = some (CodePoint.ofChar ']') then .ok (.array [], rest.tail)
        else (items (value fuel) rest.length.succ rest).map fun (xs, r) => (.array xs, r)
      else if c = '{' then
        let rest := skipSpace rest
        if rest.head? = some (CodePoint.ofChar '}') then .ok (.object [], rest.tail)
        else (members (value fuel) rest.length.succ rest).map fun (ms, r) =>
          (.object (Members.ofList ms), r)
      else match named? t with
        | some found => .ok found
        | none => number t

end Reader

open Reader in
/-- The value that a whole text writes. -/
def read (t : Text) : Except Stop Json :=
  if t.head?.any (·.val = 0xfeff) then .error ⟨.byteOrderMark, t⟩
  else
    let start := skipSpace t
    match value start.length.succ start with
    | .error stop => .error stop
    | .ok (v, rest) =>
      match skipSpace rest with
      | [] => .ok v
      | extra => .error ⟨.extra, extra⟩

/-- Where and why a text is no JSON. -/
structure ReadError where
  fault : Fault
  position : Nat
  line : Nat
  column : Nat
deriving DecidableEq

/-- The place of a stop in the whole text: lines end at line feeds, both counts start at one. -/
def Stop.locate (stop : Stop) (whole : Text) : ReadError :=
  let position := whole.length - stop.rest.length
  let before := whole.take position
  { fault := stop.fault
    position := position
    line := before.count (CodePoint.ofChar '\n') + 1
    column := (before.reverse.takeWhile fun c : CodePoint => c ≠ '\n').length + 1 }

/-- The value that a text writes, or the place and cause of its first fault. -/
def parse (t : Text) : Except ReadError Json := (read t).mapError (·.locate t)

def Fault.message : Fault → Text
  | .value => "Expecting value"
  | .name => "Expecting property name enclosed in double quotes"
  | .colon => "Expecting ':' delimiter"
  | .comma => "Expecting ',' delimiter"
  | .extra => "Extra data"
  | .unterminated => "Unterminated string starting at"
  | .control => "Invalid control character at"
  | .escape => "Invalid \\escape"
  | .unicodeEscape => "Invalid \\uXXXX escape"
  | .byteOrderMark => "Unexpected UTF-8 BOM (decode using utf-8-sig)"
  | .tooManyDigits count =>
    Text.ofString "Exceeds the limit (4300 digits) for integer string conversion: value has " ++
      Text.ofNat count ++
      Text.ofString " digits; use sys.set_int_max_str_digits() to increase the limit"

def ReadError.message (e : ReadError) : Text :=
  match e.fault with
  | .tooManyDigits _ => e.fault.message
  | fault =>
    fault.message ++ Text.ofString ": line " ++ Text.ofNat e.line ++ Text.ofString " column " ++
      Text.ofNat e.column ++ Text.ofString " (char " ++ Text.ofNat e.position ++ Text.ofString ")"

end Json
end GameArchive
