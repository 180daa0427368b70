/-!
# Texts

A text is a list of code points. Surrogates are code points like any other: a text read from a JSON
escape may hold one, and only writing it as UTF-8 is impossible. Positions and lengths count code
points.
-/

namespace GameArchive

/-- A number below `0x110000`, surrogates included. -/
structure CodePoint where
  val : Nat
  val_lt : val < 0x110000
deriving DecidableEq

namespace CodePoint

/-- The code point of a character. -/
def ofChar (c : Char) : CodePoint where
  val := c.val.toNat
  val_lt := by
    rcases c.valid with h | h
    · have : c.val.toNat < 0xd800 := h
      omega
    · exact h.2

instance : Coe Char CodePoint := ⟨ofChar⟩

instance : Inhabited CodePoint := ⟨⟨0, by decide⟩⟩

/-- The code point with this number; a number that has none gives the replacement character. -/
def ofNat (n : Nat) : CodePoint :=
  if h : n < 0x110000 then ⟨n, h⟩ else ⟨0xfffd, by decide⟩

theorem ofNat_val (c : CodePoint) : ofNat c.val = c := by
  simp [ofNat, c.val_lt]

def isHighSurrogate (c : CodePoint) : Bool := 0xd800 ≤ c.val && c.val < 0xdc00

def isLowSurrogate (c : CodePoint) : Bool := 0xdc00 ≤ c.val && c.val < 0xe000

def isSurrogate (c : CodePoint) : Bool := 0xd800 ≤ c.val && c.val < 0xe000

/-- The character of a code point that is not a surrogate. -/
def char? (c : CodePoint) : Option Char :=
  if h : c.val.isValidChar then some (Char.ofNatAux c.val h) else none

/-- Lies between two characters, both included. -/
def between (c : CodePoint) (first last : Char) : Bool :=
  first.val.toNat ≤ c.val && c.val ≤ last.val.toNat

def isDigit (c : CodePoint) : Bool := c.between '0' '9'

def isOctalDigit (c : CodePoint) : Bool := c.between '0' '7'

/-- An ASCII letter. -/
def isLetter (c : CodePoint) : Bool := c.between 'a' 'z' || c.between 'A' 'Z'

/-- The value of a hexadecimal digit. -/
def hexValue? (c : CodePoint) : Option Nat :=
  if c.between '0' '9' then some (c.val - 0x30)
  else if c.between 'a' 'f' then some (c.val - 0x57)
  else if c.between 'A' 'F' then some (c.val - 0x37)
  else none

def isHexDigit (c : CodePoint) : Bool := c.hexValue?.isSome

/-- The lower-case hexadecimal digit of a number below sixteen. -/
def ofHexValue (n : Nat) : CodePoint := ofNat (if n < 10 then 0x30 + n else 0x57 + n)

/-- An ASCII letter as a capital; any other character as it is. -/
def capital (c : CodePoint) : CodePoint := if c.between 'a' 'z' then ofNat (c.val - 0x20) else c

end CodePoint

abbrev Text := List CodePoint

namespace Text

/-- The code points of a string. -/
def ofString (s : String) : Text := s.toList.map CodePoint.ofChar

instance : Coe String Text := ⟨ofString⟩

/-- A natural number in decimal. -/
def ofNat (n : Nat) : Text := (Nat.toDigits 10 n).map CodePoint.ofChar

/-- An integer in decimal, a minus sign before a negative one. -/
def ofInt : Int → Text
  | .ofNat n => ofNat n
  | .negSucc n => CodePoint.ofChar '-' :: ofNat (n + 1)

/-- The last `width` hexadecimal digits of a number. -/
def ofHex : Nat → Nat → Text
  | 0, _ => []
  | width + 1, n => ofHex width (n / 16) ++ [CodePoint.ofHexValue (n % 16)]

/-- The number that a list of decimal digits writes. -/
def digitsValue (digits : Text) : Nat := digits.foldl (fun n c => 10 * n + (c.val - 0x30)) 0

/-- The number that digits write in a base; a character that is no digit counts as zero. -/
def valueInBase (base : Nat) (digits : Text) : Nat :=
  digits.foldl (fun n c => base * n + (c.hexValue?.getD 0)) 0

def hexNumber (digits : Text) : Nat := valueInBase 16 digits

def octalNumber (digits : Text) : Nat := valueInBase 8 digits

/-- The rest of the text after a beginning. -/
def afterPrefix? (start t : Text) : Option Text := start.isPrefixOf? t

/-- The text without the longest ending whose characters satisfy the test. -/
def trimEnd (p : CodePoint → Bool) (t : Text) : Text := (t.reverse.dropWhile p).reverse

/-- The text without such characters at either end. -/
def trim (p : CodePoint → Bool) (t : Text) : Text := trimEnd p (t.dropWhile p)

/-- The pieces between the separators: one more than there are separators. -/
def split (separator : CodePoint) : Text → List Text
  | [] => [[]]
  | c :: rest =>
    if c = separator then [] :: split separator rest
    else match split separator rest with
      | [] => [[c]]
      | piece :: pieces => (c :: piece) :: pieces

/-- The pieces with a separator between each two. -/
def join (separator : Text) : List Text → Text
  | [] => []
  | [piece] => piece
  | piece :: pieces => piece ++ separator ++ join separator pieces

/-- The characters that satisfy the test, cut into words. -/
def wordsAux (blank : CodePoint → Bool) : Text → Text → List Text
  | word, [] => if word.isEmpty then [] else [word.reverse]
  | word, c :: rest =>
    if blank c then
      if word.isEmpty then wordsAux blank [] rest else word.reverse :: wordsAux blank [] rest
    else wordsAux blank (c :: word) rest

/-- The longest pieces that hold no blank character. -/
def words (blank : CodePoint → Bool) (t : Text) : List Text := wordsAux blank [] t

/-- Order by the first code point that differs; a beginning comes before the whole. -/
def lt : Text → Text → Bool
  | _, [] => false
  | [], _ :: _ => true
  | a :: s, b :: t => a.val < b.val || (a = b && lt s t)

/-- The texts in increasing order; equal ones keep their order. -/
def sort (texts : List Text) : List Text := texts.mergeSort fun s t => !lt t s

@[simp] theorem ofString_empty : ofString "" = [] := rfl

@[simp] theorem split_nil (separator : CodePoint) : split separator [] = [[]] := rfl

theorem split_ne_nil (separator : CodePoint) (t : Text) : split separator t ≠ [] := by
  cases t with
  | nil => simp [split]
  | cons c rest =>
    simp only [split]
    split
    · simp
    · split <;> simp

end Text

end GameArchive
