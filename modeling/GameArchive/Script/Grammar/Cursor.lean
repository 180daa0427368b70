import GameArchive.Script.Grammar.Character
import GameArchive.Script.Grammar.Fault

/-!
# Cursors and blanks

A cursor is a place in a script: the rest of the text with the number of the place and of the line,
and the braces that are open there. It knows the length of the whole text. Between two tokens it
moves over blanks and comments.
-/

namespace GameArchive
namespace Script
namespace Grammar

structure Cursor where
  rest : Text
  index : Nat
  total : Nat
  line : Nat
  /-- Open braces, the innermost first; whether each was opened inside a template. -/
  braces : List Bool

namespace Cursor

/-- The start of a text. -/
def atStart (t : Text) : Cursor := ⟨t, 0, t.length, if t.isEmpty then 0 else 1, []⟩

def advance (c : Cursor) (count : Nat) : Cursor :=
  { c with rest := c.rest.drop count, index := c.index + count }

/-- How many characters are left. -/
def remaining (c : Cursor) : Nat := c.total - c.index

def startsWith (c : Cursor) (beginning : String) : Bool :=
  (Text.ofString beginning).isPrefixOf c.rest

/-- Moves over the end of a line, if there is one. -/
def skipLineEnd (c : Cursor) : Cursor :=
  match lineEndLength c.rest with
  | 0 => c
  | count => { c.advance count with line := c.line + 1 }

/-- Moves behind the end of the current line. -/
def skipLine (c : Cursor) : Cursor :=
  (c.advance (c.rest.takeWhile (!isLineTerminator ·)).length).skipLineEnd

/-- Refuses the script at the line of the cursor. -/
def refuse {α : Type} (c : Cursor) (cause : Cause) : Except Fault α :=
  .error (.refused ⟨c.line, cause⟩)

/-- Moves behind the end of a comment whose opening has been read. -/
def skipBlock : (fuel : Nat) → Cursor → Except Fault Cursor
  | 0, c => c.refuse .illegal
  | fuel + 1, c =>
    match c.rest with
    | [] => c.refuse .illegal
    | d :: _ =>
      if c.startsWith "*/" then .ok (c.advance 2)
      else if isLineTerminator d then skipBlock fuel c.skipLineEnd
      else skipBlock fuel (c.advance 1)

/-- Moves over blanks and comments. `fresh` holds where nothing but blanks and comments stands
before on the line, so that an arrow may start a comment. -/
def skipBlanks : (fuel : Nat) → (fresh : Bool) → Cursor → Except Fault Cursor
  | 0, _, c => .ok c
  | fuel + 1, fresh, c =>
    match c.rest with
    | [] => .ok c
    | d :: _ =>
      if isSpace d then skipBlanks fuel fresh (c.advance 1)
      else if isLineTerminator d then skipBlanks fuel true c.skipLineEnd
      else if c.startsWith "//" then skipBlanks fuel true c.skipLine
      else if c.startsWith "/*" then
        match skipBlock c.remaining (c.advance 2) with
        | .ok c => skipBlanks fuel fresh c
        | .error fault => .error fault
      else if fresh && c.startsWith "-->" then skipBlanks fuel fresh c.skipLine
      else if c.startsWith "<!--" then skipBlanks fuel fresh c.skipLine
      else .ok c

/-- The start of the next token. -/
def toToken (c : Cursor) : Except Fault Cursor := skipBlanks (c.remaining + 1) (c.index = 0) c

end Cursor

end Grammar
end Script
end GameArchive
