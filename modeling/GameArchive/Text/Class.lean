import GameArchive.Text.Basic
import GameArchive.Text.Category

/-!
# Classes of characters

Blank characters, line ends, word characters, printable characters and the characters of
identifiers. The tests decide ASCII without a table where they are asked often.
-/

namespace GameArchive
namespace CodePoint

open Category

/-- Letters, numbers of every kind and the underscore; marks are not word characters. -/
def isWord (c : CodePoint) : Bool :=
  if c.val < 0x80 then c.isDigit || c.isLetter || c = '_'
  else within letters c.val || within decimalDigits c.val || within otherNumbers c.val ||
    within letterNumbers c.val

/-- Characters that start an identifier though they are no letters. -/
def otherIdentifierStarts : List Nat := [0x5f, 0x1885, 0x1886, 0x2118, 0x212e]

/-- Characters that continue an identifier though they are no letters, digits or marks. -/
def otherIdentifierParts : List (Nat × Nat) :=
  [(0xb7, 0xb7), (0x387, 0x387), (0x1369, 0x1371), (0x19da, 0x19da)]

/-- Letters that compatibility decomposition turns into something that no identifier holds. -/
def unstableLetters : List (Nat × Nat) := [
  (0x37a, 0x37a), (0x2e2f, 0x2e2f), (0xfc5e, 0xfc63), (0xfdfa, 0xfdfb), (0xfe70, 0xfe70),
  (0xfe72, 0xfe72), (0xfe74, 0xfe74), (0xfe76, 0xfe76), (0xfe78, 0xfe78), (0xfe7a, 0xfe7a),
  (0xfe7c, 0xfe7c), (0xfe7e, 0xfe7e)]

/-- Letters that may continue an identifier but not start one. -/
def continuingLetters : List (Nat × Nat) := [(0xe33, 0xe33), (0xeb3, 0xeb3), (0xff9e, 0xff9f)]

/-- A letter or underscore with which an identifier may go on. -/
def isIdentifierLetter (c : CodePoint) : Bool :=
  (within letters c.val || within letterNumbers c.val || otherIdentifierStarts.contains c.val) &&
    !within unstableLetters c.val

def isIdentifierStart (c : CodePoint) : Bool :=
  c.isIdentifierLetter && !within continuingLetters c.val

def isIdentifierPart (c : CodePoint) : Bool :=
  c.isIdentifierLetter || within marks c.val || within decimalDigits c.val ||
    within connectors c.val || within otherIdentifierParts c.val

/-- The value of a decimal digit of any script. -/
def decimalValue? (c : CodePoint) : Option Nat :=
  (decimalDigits.find? fun run => run.1 ≤ c.val && c.val ≤ run.2).map fun run =>
    (c.val - run.1) % 10

/-- Blank characters: white space of Unicode and the four information separators. -/
def isBlank (c : CodePoint) : Bool :=
  (0x09 ≤ c.val && c.val ≤ 0x0d) || (0x1c ≤ c.val && c.val ≤ 0x20) || c.val = 0x85 ||
    c.val = 0xa0 || c.val = 0x1680 || (0x2000 ≤ c.val && c.val ≤ 0x200a) || c.val = 0x2028 ||
    c.val = 0x2029 || c.val = 0x202f || c.val = 0x205f || c.val = 0x3000

/-- Characters that end a line of a text, each by itself; a carriage return and the line feed after
it end one line together. -/
def isLineEnd (c : CodePoint) : Bool :=
  (0x0a ≤ c.val && c.val ≤ 0x0d) || (0x1c ≤ c.val && c.val ≤ 0x1e) || c.val = 0x85 ||
    c.val = 0x2028 || c.val = 0x2029

/-- Characters that a quoted text shows as they are. -/
def isPrintable (c : CodePoint) : Bool :=
  if c.val < 0x7f then 0x20 ≤ c.val else !within unprintable c.val

theorem isBlank_of_isLineEnd {c : CodePoint} (h : c.isLineEnd = true) : c.isBlank = true := by
  simp only [isLineEnd, isBlank, Bool.or_eq_true, Bool.and_eq_true, decide_eq_true_eq] at *
  omega

end CodePoint

/-- A name as Unicode defines identifiers, underscores included. -/
def Text.isIdentifier : Text → Bool
  | [] => false
  | c :: rest => c.isIdentifierStart && rest.all CodePoint.isIdentifierPart

end GameArchive
