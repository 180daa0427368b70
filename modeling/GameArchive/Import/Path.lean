import GameArchive.Text.Class

/-!
# Import paths

A path is a list of names between dots, with any number of dots before it. Each leading dot leaves
one segment of the base that the path is resolved against.
-/

namespace GameArchive
namespace Import

def isDot (c : CodePoint) : Bool := c = '.'

/-- The leading dots of a path. -/
def leadingDots (path : Text) : Text := path.takeWhile isDot

/-- The path after its leading dots. -/
def afterDots (path : Text) : Text := path.dropWhile isDot

/-- The names of a base; the empty base has none. -/
def segments (base : Text) : List Text := if base.isEmpty then [] else base.split '.'

/-- The path seen from the base: without a leading dot it is absolute; otherwise each leading dot
drops one segment of the base, and the rest of the path follows. -/
def resolve (path base : Text) : Text :=
  let dots := (leadingDots path).length
  if dots = 0 then path
  else
    let names := segments base
    let rest := afterDots path
    Text.join "." (names.take (names.length - dots) ++ if rest.isEmpty then [] else [rest])

/-- What stands before and after the last dot. -/
def splitLast (t : Text) : Option Text × Text :=
  let last := (t.reverse.takeWhile (!isDot ·)).reverse
  if last.length = t.length then (none, t)
  else (some (t.take (t.length - last.length - 1)), last)

/-- A path cut before its last name: `..a.b.C` into `..a.b` and `C`. A single name is its own
package, and dots stay on the package side. -/
def splitName (path : Text) : Text × Text :=
  let dots := leadingDots path
  match splitLast (afterDots path) with
  | (some head, last) => (dots ++ head, last)
  | (none, last) => if dots.isEmpty then (path, last) else (dots, last)

/-- The non-empty parts with dots between them. -/
def joinParts (parts : List Text) : Text := Text.join "." (parts.filter (!·.isEmpty))

/-- The first character of a name is an ASCII letter, an underscore or a dollar sign. -/
def isNameStart (c : CodePoint) : Bool := c.isLetter || c = '_' || c = '$'

def isNamePart (c : CodePoint) : Bool := c.isWord || c = '$'

def isName : Text → Bool
  | [] => false
  | c :: rest => isNameStart c && rest.all isNamePart

/-- One or more dots. -/
def isDots (t : Text) : Bool := !t.isEmpty && t.all isDot

/-- Any number of dots, then names with single dots between them. -/
def isPath (t : Text) : Bool := ((afterDots t).split '.').all isName

end Import
end GameArchive
