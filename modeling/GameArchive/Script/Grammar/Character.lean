import GameArchive.Text.Category
import GameArchive.Text.Basic

/-!
# Characters of a script

Blanks, line terminators and the characters of names. These classes belong to the script language
and differ from the classes of plain texts.
-/

namespace GameArchive
namespace Script
namespace Grammar

open Category

def isLineTerminator (c : CodePoint) : Bool :=
  c.val = 0x0a || c.val = 0x0d || c.val = 0x2028 || c.val = 0x2029

/-- Blanks that end no line. -/
def isSpace (c : CodePoint) : Bool :=
  c.val = 0x20 || c.val = 0x09 || c.val = 0x0b || c.val = 0x0c || c.val = 0xa0 || c.val = 0x1680 ||
    c.val = 0x180e || (0x2000 ≤ c.val && c.val ≤ 0x200a) || c.val = 0x202f || c.val = 0x205f ||
    c.val = 0x3000 || c.val = 0xfeff

/-- Characters that start a name though they are no letters. -/
def otherStarts : List Nat := [0x1885, 0x1886, 0x2118, 0x212e, 0x309b, 0x309c]

/-- Characters that continue a name though they are no letters, digits or marks. -/
def otherParts : List Nat :=
  [0xb7, 0x387, 0x1369, 0x136a, 0x136b, 0x136c, 0x136d, 0x136e, 0x136f, 0x1370, 0x1371, 0x19da,
    0x200c, 0x200d]

/-- A letter, a dollar sign, an underscore, or the backslash of an escape. -/
def isNameStart (c : CodePoint) : Bool :=
  if c.val < 0x80 then c.isLetter || c = '$' || c = '_' || c = '\\'
  else within letters c.val || within letterNumbers c.val || otherStarts.contains c.val

def isNamePart (c : CodePoint) : Bool :=
  if c.val < 0x80 then isNameStart c || c.isDigit
  else isNameStart c || within marks c.val || within decimalDigits c.val ||
    within connectors c.val || otherParts.contains c.val

/-- The number of characters that end a line here: two for a carriage return before a line feed. -/
def lineEndLength : Text → Nat
  | [] => 0
  | c :: rest =>
    if isLineTerminator c then
      if c = '\r' ∧ rest.head? = some (CodePoint.ofChar '\n') then 2 else 1
    else 0

end Grammar
end Script
end GameArchive
