import GameArchive.Text.Basic

/-!
# Paths

A path is an anchor and names. Empty names and single dots vanish when a text is read as a path, two
dots stay. The ending of a last name starts at its last dot, which must be neither its first nor its
last character.
-/

namespace GameArchive

/-- Where a path starts: at the working directory, or at the root, which may be written with two
slashes. -/
inductive Anchor where
  | relative
  | root
  | doubleRoot
deriving DecidableEq

structure Path where
  anchor : Anchor
  names : List Text
deriving DecidableEq

namespace Path

/-- The names between slashes, without empty ones and single dots. -/
def namesOf (t : Text) : List Text :=
  (t.split '/').filter fun name => !name.isEmpty && name ≠ Text.ofString "."

/-- Two leading slashes are an anchor of their own, three or more are one slash. -/
def anchorOf (t : Text) : Anchor :=
  match (t.takeWhile fun c : CodePoint => c = '/').length with
  | 0 => .relative
  | 2 => .doubleRoot
  | _ => .root

def ofText (t : Text) : Path := ⟨anchorOf t, namesOf t⟩

instance : Coe Text Path := ⟨ofText⟩

def Anchor.text : Anchor → Text
  | .relative => []
  | .root => "/"
  | .doubleRoot => "//"

/-- The path as a text; the empty relative path is a dot. -/
def text (p : Path) : Text :=
  if p.anchor = .relative ∧ p.names = [] then "." else Anchor.text p.anchor ++ Text.join "/" p.names

/-- The path from here on; an anchored one starts anew. -/
def join (p q : Path) : Path :=
  match q.anchor with
  | .relative => ⟨p.anchor, p.names ++ q.names⟩
  | _ => q

/-- The path with one more name. -/
def child (p : Path) (name : Text) : Path := ⟨p.anchor, p.names ++ [name]⟩

def parent (p : Path) : Path := ⟨p.anchor, p.names.dropLast⟩

/-- The last name, empty if there is none. -/
def name (p : Path) : Text := p.names.getLast?.getD []

/-- A name cut before the ending, which starts with a dot or is empty. -/
def cutName (name : Text) : Text × Text :=
  let last := (name.reverse.takeWhile fun c : CodePoint => c ≠ '.').length
  if last = 0 ∨ name.length ≤ last + 1 then (name, [])
  else (name.take (name.length - last - 1), name.drop (name.length - last - 1))

/-- The last name without its ending. -/
def stem (p : Path) : Text := (cutName p.name).1

/-- The ending of the last name, with its dot. -/
def suffix (p : Path) : Text := (cutName p.name).2

/-- The path with another ending, if it has a last name. -/
def withSuffix? (p : Path) (suffix : Text) : Option Path :=
  if p.name = [] then none else some ⟨p.anchor, p.names.dropLast ++ [p.stem ++ suffix]⟩

/-- The names that lead from a base to the path, if the path lies below it. -/
def below? (p base : Path) : Option (List Text) :=
  if p.anchor = base.anchor then base.names.isPrefixOf? p.names else none

end Path
end GameArchive
