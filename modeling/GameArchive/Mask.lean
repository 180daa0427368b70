import GameArchive.Text.Lines

/-!
# Masked lines

A script may hold directives (`#ifdef`) and import statements that are no part of its language. Such
lines are masked by a leading `//` before the script is parsed, and unmasked afterwards. A line that
carries a mask has the same form as the line below it, so masks stack, and taking off one mask
undoes putting one on.
-/

namespace GameArchive
namespace Mask

def slashes : Text := "//"

/-- What follows any number of double slashes, if it starts with a number sign. -/
def isDirective : Text → Bool
  | c :: d :: rest =>
    if c = '/' ∧ d = '/' then isDirective rest else c = '#'
  | [c] => c = '#'
  | [] => false

/-- A letter of a keyword in any case; dotted capital and dotless small `i` count as `i`. -/
def matchesLetter (letter : Char) (c : CodePoint) : Bool :=
  c = letter || c = letter.toUpper || (letter = 'i' && (c.val = 0x130 || c.val = 0x131))

/-- The text starts with the keyword and no word character follows it. -/
def startsWithWord : List Char → Text → Bool
  | [], [] => true
  | [], c :: _ => !c.isWord
  | letter :: letters, c :: rest => matchesLetter letter c && startsWithWord letters rest
  | _ :: _, [] => false

/-- `import` or `from` as a whole word. -/
def startsWithKeyword (t : Text) : Bool :=
  startsWithWord ['i', 'm', 'p', 'o', 'r', 't'] t || startsWithWord ['f', 'r', 'o', 'm'] t

/-- What follows any number of blanks and double slashes, if it starts with a keyword. -/
def isImport : Text → Bool
  | [] => false
  | c :: rest =>
    if c = ' ' ∨ c = '\t' then isImport rest
    else match rest with
      | d :: rest' => if c = '/' ∧ d = '/' then isImport rest' else startsWithKeyword (c :: rest)
      | [] => startsWithKeyword [c]

/-- A line with a mask before it, if it is of the kind to be masked. -/
def maskLine (marked : Text → Bool) (line : Text) : Text :=
  if marked line then slashes ++ line else line

/-- Takes off one mask, if a line of the kind to be masked lies under it. -/
def unmaskLine (marked : Text → Bool) (line : Text) : Text :=
  match Text.afterPrefix? slashes line with
  | some inner => if marked inner then inner else line
  | none => line

def maskLines (marked : Text → Bool) (code : Text) : Text :=
  Text.join "\n" ((Text.breaks code).map (maskLine marked))

def unmaskLines (marked : Text → Bool) (code : Text) : Text :=
  Text.join "\n" ((Text.breaks code).map (unmaskLine marked))

/-- The code with every directive line masked, and then every import line. -/
def sanitize (code : Text) : Text := maskLines isImport (maskLines isDirective code)

/-- The code with one mask taken off every masked line, directives first. -/
def unsanitize (code : Text) : Text := unmaskLines isImport (unmaskLines isDirective code)

end Mask
end GameArchive
