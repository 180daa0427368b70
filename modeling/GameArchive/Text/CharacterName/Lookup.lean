import GameArchive.Text.CharacterName.Scripts
import GameArchive.Text.CharacterName.Symbols
import GameArchive.Text.CharacterName.Syllabaries
import GameArchive.Text.CharacterName.AncientScripts
import GameArchive.Text.CharacterName.Pictures
import GameArchive.Text.CharacterName.Aliases
import GameArchive.Text.CharacterName.Basic
import GameArchive.Text.Category

/-!
# Names of characters: lookup

The character that a name of Unicode 14 stands for. Most names are found in tables and may be
written in small letters. The names of ideographs and of Korean syllables follow a rule, and those
of unified ideographs and syllables are written in capitals only.
-/

namespace GameArchive
namespace CharacterName

/-! ## Ideographs -/

/-- Names that end in the number of the character, with the runs of characters that have them. -/
def numbered : List (String × List (Nat × Nat)) := [
  ("CJK COMPATIBILITY IDEOGRAPH-", [(0xf900, 0xfa6d), (0xfa70, 0xfad9), (0x2f800, 0x2fa1d)]),
  ("KHITAN SMALL SCRIPT CHARACTER-", [(0x18b00, 0x18cd5)]),
  ("NUSHU CHARACTER-", [(0x1b170, 0x1b2fb)])]

def unifiedIdeographs : List (Nat × Nat) := [
  (0x3400, 0x4dbf), (0x4e00, 0x9fff), (0x20000, 0x2a6df), (0x2a700, 0x2b738), (0x2b740, 0x2b81d),
  (0x2b820, 0x2cea1), (0x2ceb0, 0x2ebe0), (0x30000, 0x3134a)]

/-- The number that hexadecimal digits write, if it lies in one of the runs. -/
def numberIn? (runs : List (Nat × Nat)) (digits : Text) : Option Nat :=
  let n := Text.hexNumber digits
  if digits.all (·.isHexDigit) ∧ Category.within runs n then some n else none

/-- The number at the end of a name, which is written without further zeros. -/
def ofNumbered? (name : Text) : Option Nat :=
  numbered.findSome? fun (start, runs) => do
    let digits ← Text.afterPrefix? start name
    let n ← numberIn? runs digits
    if digits.length = (if n < 0x10000 then 4 else 5) then some n else none

/-- The number at the end of the name of a unified ideograph, in four or five digits. -/
def ofIdeograph? (name : Text) : Option Nat := do
  let digits ← Text.afterPrefix? "CJK UNIFIED IDEOGRAPH-" name
  if (digits.length = 4 ∨ digits.length = 5) ∧ digits.all (fun c => c.capital = c) then
    numberIn? unifiedIdeographs digits
  else none

/-! ## Korean syllables -/

/-- The consonants that a syllable may begin with. -/
def initials : List Text :=
  ["G", "GG", "N", "D", "DD", "R", "M", "B", "BB", "S", "SS", "", "J", "JJ", "C", "K", "T", "P",
    "H"]

def vowels : List Text :=
  ["A", "AE", "YA", "YAE", "EO", "E", "YEO", "YE", "O", "WA", "WAE", "OE", "YO", "U", "WEO", "WE",
    "WI", "YU", "EU", "YI", "I"]

/-- The consonants that a syllable may end in. -/
def finals : List Text :=
  ["", "G", "GG", "GS", "N", "NJ", "NH", "D", "L", "LG", "LM", "LB", "LS", "LT", "LP", "LH", "M",
    "B", "BS", "S", "SS", "NG", "J", "C", "K", "T", "P", "H"]

def isVowelLetter (c : CodePoint) : Bool := (Text.ofString "AEIOUWY").contains c

/-- The syllable whose parts are written behind the name of the script. -/
def ofSyllable? (name : Text) : Option Nat := do
  let parts ← Text.afterPrefix? "HANGUL SYLLABLE " name
  let rest := parts.dropWhile (!isVowelLetter ·)
  let initial ← initials.idxOf? (parts.takeWhile (!isVowelLetter ·))
  let vowel ← vowels.idxOf? (rest.takeWhile isVowelLetter)
  let final ← finals.idxOf? (rest.dropWhile isVowelLetter)
  return 0xac00 + (initial * vowels.length + vowel) * finals.length + final

/-! ## All names -/

def tables : List String := [scripts, symbols, syllabaries, ancientScripts, pictures, aliases]

end CharacterName

/-- The character with a name. -/
def CodePoint.named? (name : Text) : Option CodePoint :=
  let capitals := name.map capital
  let number := CharacterName.ofIdeograph? name <|> CharacterName.ofSyllable? name <|>
    CharacterName.ofNumbered? capitals <|>
    CharacterName.tables.findSome? (CharacterName.find? · capitals)
  number.map ofNat

end GameArchive
