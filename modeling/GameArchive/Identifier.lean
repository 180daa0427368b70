import GameArchive.Text.Basic

/-!
# Identifiers

New archives are identified by numbers of 128 bits in the usual layout: five groups of hexadecimal
digits. The third group starts with the version and the fourth with the variant. The identifiers of
one session are counted, so none comes twice and later ones are greater.
-/

namespace GameArchive
namespace Identifier

/-- Five groups of digits with hyphens between them. -/
def layOut (a b c d e : Nat) : Text :=
  Text.join "-" [Text.ofHex 8 a, Text.ofHex 4 b, Text.ofHex 4 c, Text.ofHex 4 d, Text.ofHex 12 e]

/-- The identifier with a number: version seven, variant two, and the number in the last group. -/
def ofNumber (n : Nat) : Text := layOut 0 0 0x7000 0x8000 n

/-- The digit that tells the version. -/
def version? (id : Text) : Option Nat := (id[14]?).bind CodePoint.hexValue?

/-- The digit that tells the variant has its first bit set and its second one not. -/
def hasStandardVariant (id : Text) : Bool :=
  ((id[19]?).bind CodePoint.hexValue?).any fun d => 8 ≤ d && d < 12

/-- The same text in lower case of ASCII. -/
def isLower (id : Text) : Bool := id.all fun c => !c.between 'A' 'Z'

end Identifier
end GameArchive
