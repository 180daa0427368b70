import GameArchive.Script.Grammar.Literal
import GameArchive.Text.Class

/-!
# Regular expressions: pieces, widths and groups

What stands between the slashes is read piece by piece: a character, or a backslash with the
character behind it. A regular expression is only checked, so of what has been read nothing is kept
but how many characters it can match, which a look-behind must know, and the groups that can be
referred to.
-/

namespace GameArchive
namespace Script
namespace Grammar
namespace RegularExpression

/-! ## Unicode escapes -/

/-- The number that a Unicode escape writes behind its letter, and the length of that. -/
def escapedNumber? (t : Text) : Option (Nat × Nat) :=
  if opensBrace t then
    let digits := t.tail.takeWhile (·.isHexDigit)
    if digits.isEmpty ∨ (t.drop (digits.length + 1)).head? ≠ some (CodePoint.ofChar '\x7d') then
      none
    else some (Text.hexNumber digits, digits.length + 2)
  else
    let digits := t.take 4
    if digits.length = 4 ∧ digits.all (·.isHexDigit) then some (Text.hexNumber digits, 4) else none

/-- Stands for any character outside the basic plane. -/
def supplementary : CodePoint := ⟨0xffff, by decide⟩

/-- The text with characters in place of Unicode escapes, whatever stands before them. None if a
number is too large for a character. -/
def decodeEscapes? : (fuel : Nat) → Text → Option Text
  | 0, t => some t
  | _, [] => some []
  | fuel + 1, c :: rest =>
    let escape :=
      if c = '\\' ∧ rest.head? = some (CodePoint.ofChar 'u') then escapedNumber? rest.tail
      else none
    match escape with
    | none => (decodeEscapes? fuel rest).map (c :: ·)
    | some (n, length) =>
      if 0x10ffff < n then none
      else
        let d := if n ≤ 0xffff then CodePoint.ofNat n else supplementary
        (decodeEscapes? fuel (rest.drop (length + 1))).map (d :: ·)

/-- The text with one character in place of each pair of surrogates. -/
def joinSurrogates : Text → Text
  | high :: low :: rest =>
    if high.isHighSurrogate ∧ low.isLowSurrogate then supplementary :: joinSurrogates rest
    else high :: joinSurrogates (low :: rest)
  | t => t

/-! ## Pieces -/

inductive Piece where
  | plain (c : CodePoint)
  | escaped (c : CodePoint)
deriving DecidableEq

namespace Piece

def is (p : Piece) (c : Char) : Bool := p = .plain c

/-- A character by itself that satisfies the test. -/
def satisfies (test : CodePoint → Bool) : Piece → Bool
  | plain c => test c
  | escaped _ => false

def char : Piece → CodePoint
  | plain c => c
  | escaped c => c

end Piece

/-- The pieces of a text; a backslash at its end escapes nothing. -/
def pieces? : Text → Option (List Piece)
  | [] => some []
  | [c] => if c = '\\' then none else some [.plain c]
  | c :: d :: rest =>
    if c = '\\' then (pieces? rest).map (.escaped d :: ·)
    else (pieces? (d :: rest)).map (.plain c :: ·)

/-! ## Widths -/

/-- How many characters a part can match: at least, and at most unless there is no bound. -/
structure Width where
  least : Nat
  most : Option Nat
deriving DecidableEq

namespace Width

def zero : Width := ⟨0, some 0⟩

def one : Width := ⟨1, some 1⟩

/-- One part after another. -/
def add (v w : Width) : Width :=
  ⟨v.least + w.least, v.most.bind fun m => w.most.map (m + ·)⟩

/-- One part or another. -/
def either (v w : Width) : Width :=
  ⟨min v.least w.least, v.most.bind fun m => w.most.map (max m)⟩

/-- A part several times. -/
def times (least : Nat) (most : Option Nat) (w : Width) : Width :=
  ⟨least * w.least,
    match most, w.most with
    | some 0, _ => some 0
    | _, some 0 => some 0
    | some n, some m => some (n * m)
    | _, _ => none⟩

/-- All matches have one length, which is below the largest that can be stepped back. -/
def isFixed (w : Width) : Bool := w.most = some w.least && w.least < Nat.pow 2 31

end Width

/-! ## Reading pieces -/

structure Progress where
  rest : List Piece
  /-- The width of each group from the first one on, once it is closed. -/
  groups : List (Option Width)
  names : List (Text × Nat)
  /-- In a look-behind, how many groups were opened before it. -/
  before : Option Nat
  /-- The numbers of groups that conditions ask for. -/
  asked : List Nat
  /-- Flags that hold for the whole. -/
  flags : Text
  /-- Something is repeated. -/
  repeats : Bool

def Progress.start (rest : List Piece) : Progress := ⟨rest, [], [], none, [], [], false⟩

/-- Reads pieces. What is no regular expression gives no result. -/
abbrev Reader := StateT Progress Option

def require (condition : Bool) : Reader Unit := if condition then pure () else failure

/-- The piece ahead, if there is one. -/
def ahead? : Reader (Option Piece) := return (← get).rest.head?

/-- Takes the piece ahead. -/
def take? : Reader (Option Piece) := do
  let p ← ahead?
  modify fun s => { s with rest := s.rest.tail }
  return p

def take : Reader Piece := do
  match ← take? with
  | some p => return p
  | none => failure

/-- Takes a character if it is ahead, and says whether it was. -/
def skip (c : Char) : Reader Bool := do
  match ← ahead? with
  | some p =>
    if p.is c then
      let _ ← take
      return true
    else return false
  | none => return false

def expect (c : Char) : Reader Unit := do require (← skip c)

/-- Takes characters that satisfy the test, no more than `limit`. -/
def takeWhile (limit : Nat) (test : CodePoint → Bool) : Reader Text := do
  let run := ((← get).rest.take limit).takeWhile (Piece.satisfies test)
  modify fun s => { s with rest := s.rest.drop run.length }
  return run.map Piece.char

def piecesLeft : Reader Nat := return (← get).rest.length

/-- The characters before a closing one, which is taken too; there must be some. -/
def takeUntil (close : Char) : Reader Text := do
  let name ← takeWhile (← piecesLeft) (fun c => c ≠ CodePoint.ofChar close)
  expect close
  require !name.isEmpty
  return name

/-! ## Groups -/

/-- Opens a group, with a name or without one, and gives its number. A name is given once. -/
def openGroup (name : Option Text) : Reader Nat := do
  let s ← get
  let number := s.groups.length + 1
  require !(name.any fun name => s.names.any (·.1 = name))
  set { s with
    groups := s.groups ++ [none]
    names := name.toList.map (·, number) ++ s.names }
  return number

def closeGroup (number : Nat) (w : Width) : Reader Unit :=
  modify fun s => { s with groups := s.groups.set (number - 1) (some w) }

/-- The width of a group that has been closed. -/
def closedGroup (number : Nat) : Reader Width := do
  require (0 < number)
  match ((← get).groups[number - 1]?).join with
  | some w => return w
  | none => failure

/-- In a look-behind only groups that were closed before it can be asked for. -/
def requireKnown (number : Nat) : Reader Unit := do
  match (← get).before with
  | none => pure ()
  | some count =>
    let _ ← closedGroup number
    require (number ≤ count)

/-- The number of the group with a name. -/
def groupNamed (name : Text) : Reader Nat := do
  match (← get).names.lookup name with
  | some number => return number
  | none => failure

end RegularExpression
end Grammar
end Script
end GameArchive
