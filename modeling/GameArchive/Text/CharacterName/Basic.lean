import GameArchive.Text.Basic

/-!
# Names of characters: rows

A table of names is a text with a row in each line. A row gives the number of the first character in
hexadecimal, what its names begin with, and the end of each name after a comma; the characters
follow each other. A row without a comma names one character. So the row `0041 LETTER ,A,B` gives
the names `LETTER A` and `LETTER B` to the characters `U+0041` and `U+0042`.
-/

namespace GameArchive
namespace CharacterName

/-- Names that begin alike, of characters that follow each other. -/
structure Row where
  first : Nat
  start : Text
  ends : List Text

namespace Row

/-- The row that a line writes. -/
def ofLine (line : Text) : Row :=
  let fields := Text.split (CodePoint.ofChar ',') line
  let head := fields.headD []
  let digits := head.takeWhile (·.isHexDigit)
  ⟨Text.hexNumber digits, head.drop (digits.length + 1),
    if fields.tail.isEmpty then [[]] else fields.tail⟩

/-- The character that a row gives a name to. -/
def number? (row : Row) (name : Text) : Option Nat := do
  let rest ← Text.afterPrefix? row.start name
  let place ← row.ends.idxOf? rest
  return row.first + place

end Row

/-- The character that the first row of a table with such a name gives it to. -/
def find? (table : String) (name : Text) : Option Nat :=
  (table.splitOn "\n").findSome? fun line => (Row.ofLine (Text.ofString line)).number? name

end CharacterName
end GameArchive
