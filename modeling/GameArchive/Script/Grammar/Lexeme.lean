import GameArchive.Script.Grammar.Cursor
import GameArchive.Script.Grammar.Literal
import GameArchive.Script.Grammar.RegularExpression.Check
import GameArchive.Script.Grammar.Token

/-!
# Reading a token

The token at a cursor, and the cursor behind it. A slash is read as a sign; whoever expects an
operand there reads the regular expression instead.
-/

namespace GameArchive
namespace Script
namespace Grammar
namespace Cursor

/-- A token of the given length at the cursor. -/
def token (c : Cursor) (kind : TokenKind) (value : Text) (length lineEnds : Nat) : Token :=
  { kind := kind
    value := value
    raw := c.rest.take length
    start := c.index
    stop := c.index + length
    line := c.line + lineEnds
    octal := false
    head := false
    tail := false }

/-- The cursor behind a token. -/
def after (c : Cursor) (t : Token) : Cursor :=
  { c.advance (t.stop - t.start) with line := t.line }

def readName (c : Cursor) : Except Fault (Token × Cursor) :=
  match name? c.rest with
  | none => c.refuse .illegal
  | some (name, length) =>
    let kind := wordKind name
    if kind ≠ .identifier ∧ name.length ≠ length then c.refuse .escapedKeyword
    else
      let t := c.token kind name length 0
      .ok (t, c.after t)

def readNumber (c : Cursor) : Except Fault (Token × Cursor) :=
  match number? c.rest with
  | none => c.refuse .illegal
  | some (length, octal) =>
    let t := { c.token .numeric (c.rest.take length) length 0 with octal := octal }
    .ok (t, c.after t)

/-- Refuses the script at the line where a literal at the cursor has its fault. -/
def refuseLiteral {α : Type} (c : Cursor) (flaw : Flaw) : Except Fault α :=
  .error (.refused ⟨c.line + flaw.lineEnds, flaw.cause⟩)

def readString (c : Cursor) : Except Fault (Token × Cursor) :=
  match string c.rest with
  | .error flaw => c.refuseLiteral flaw
  | .ok q =>
    let t := { c.token .string q.value q.length q.lineEnds with octal := q.octal }
    .ok (t, c.after t)

/-- A part of a template. Its value is what stands between its delimiters. -/
def readTemplate (c : Cursor) : Except Fault (Token × Cursor) :=
  match template c.rest with
  | .error flaw => c.refuseLiteral flaw
  | .ok part =>
    let head := c.rest.head? = some grave
    let value := (c.rest.take (part.length - if part.tail then 1 else 2)).drop 1
    let t := { c.token .template value part.length part.lineEnds with
      head := head, tail := part.tail }
    let outer := if head then c.braces else c.braces.tail
    .ok (t, { c.after t with braces := if part.tail then outer else true :: outer })

def readPunctuator (c : Cursor) : Except Fault (Token × Cursor) :=
  match punctuator? c.rest with
  | none => c.refuse .illegal
  | some sign =>
    let t := c.token .punctuator sign sign.length 0
    let braces := if sign = Text.ofString "\x7b" then false :: c.braces
      else if sign = Text.ofString "\x7d" then c.braces.tail
      else c.braces
    .ok (t, { c.after t with braces := braces })

/-- The token at the cursor, which stands at its first character. -/
def readToken (c : Cursor) : Except Fault (Token × Cursor) :=
  match c.rest with
  | [] => .ok (c.token .endOfText [] 0 0, c)
  | d :: rest =>
    if isNameStart d then c.readName
    else if d = '"' ∨ d = '\'' then c.readString
    else if d.isDigit ∨ (d = '.' ∧ startsDigit rest) then c.readNumber
    else if d = grave ∨ (d = '\x7d' ∧ c.braces.head? = some true) then c.readTemplate
    else c.readPunctuator

/-- A regular expression with the cursor at its first slash. What stands between the slashes must
have a meaning; the flags may be any name. -/
def readRegularExpression (c : Cursor) : Except Fault (Token × Cursor) :=
  match regularExpression c.rest with
  | .error cause => c.refuse cause
  | .ok (body, flags) =>
    if RegularExpression.isValid ((c.rest.drop 1).take body) then
      let t := c.token .regularExpression [] (body + flags + 2) 0
      .ok (t, c.after t)
    else c.refuse .invalidRegularExpression

/-- The next token behind blanks and comments. -/
def next (c : Cursor) : Except Fault (Token × Cursor) :=
  match c.toToken with
  | .ok c => c.readToken
  | .error fault => .error fault

end Cursor
end Grammar
end Script
end GameArchive
