import GameArchive.Json.Reader
import GameArchive.Number.Shortest

/-!
# Writing JSON

One printer with two layouts. The compact layout has no blanks; the indented one, in which files are
stored, puts every item on a line of its own after one tab for each level. Characters stay as they
are, but for quotes, backslashes and controls.
-/

namespace GameArchive
namespace Json

/-- The letter of a control character that has a short escape. -/
def shortEscape? (c : CodePoint) : Option Char :=
  if c = '"' then some '"'
  else if c = '\\' then some '\\'
  else if c = '\n' then some 'n'
  else if c = '\r' then some 'r'
  else if c = '\t' then some 't'
  else if c.val = 0x0c then some 'f'
  else if c.val = 0x08 then some 'b'
  else none

/-- One character inside quotes. -/
def escapeChar (c : CodePoint) : Text :=
  match shortEscape? c with
  | some letter => ['\\', letter]
  | none => if c.val < 0x20 then "\\u" ++ Text.ofHex 4 c.val else [c]

/-- A text in quotes. -/
def quote (t : Text) : Text := "\"" ++ t.flatMap escapeChar ++ "\""

/-- Where lines break, and what stands after a name. -/
structure Layout where
  lineBreak : Nat → Text
  colon : Text

def compactLayout : Layout := ⟨fun _ => [], ":"⟩

def indentedLayout : Layout :=
  ⟨fun depth => "\n" ++ List.replicate depth (CodePoint.ofChar '\t'), ": "⟩

mutual

/-- The text of a value that stands at this depth. -/
def write (layout : Layout) (depth : Nat) : Json → Text
  | null => "null"
  | bool b => if b then "true" else "false"
  | int n => Text.ofInt n
  | float x => Binary64.write Binary64.json x
  | string t => quote t
  | array [] => "[]"
  | array (item :: items) =>
    "[" ++ layout.lineBreak (depth + 1) ++ write layout (depth + 1) item ++
      writeItems layout (depth + 1) items ++ layout.lineBreak depth ++ "]"
  | object [] => "\x7b\x7d"
  | object ((name, value) :: members) =>
    "\x7b" ++ layout.lineBreak (depth + 1) ++ quote name ++ layout.colon ++
      write layout (depth + 1) value ++ writeMembers layout (depth + 1) members ++
      layout.lineBreak depth ++ "\x7d"

/-- Further items, each after a comma. -/
def writeItems (layout : Layout) (depth : Nat) : List Json → Text
  | [] => []
  | item :: items =>
    "," ++ layout.lineBreak depth ++ write layout depth item ++ writeItems layout depth items

/-- Further members, each after a comma. -/
def writeMembers (layout : Layout) (depth : Nat) : List (Text × Json) → Text
  | [] => []
  | (name, value) :: members =>
    "," ++ layout.lineBreak depth ++ quote name ++ layout.colon ++ write layout depth value ++
      writeMembers layout depth members

end

/-- The value on one line without blanks. -/
def compact (value : Json) : Text := write compactLayout 0 value

/-- The value as files hold it: one item a line, tabs for depth, no newline at the end. -/
def indented (value : Json) : Text := write indentedLayout 0 value

mutual

/-- All numbers in it are finite. -/
def allFinite : Json → Bool
  | float x => x.isFinite
  | array items => allFiniteItems items
  | object members => allFiniteMembers members
  | _ => true

def allFiniteItems : List Json → Bool
  | [] => true
  | item :: items => allFinite item && allFiniteItems items

def allFiniteMembers : List (Text × Json) → Bool
  | [] => true
  | (_, value) :: members => allFinite value && allFiniteMembers members

end

/-- An integer has more digits than an integer may have. -/
def isLongInteger (n : Int) : Bool := Reader.digitLimit < (Text.ofNat n.natAbs).length

mutual

/-- Some integer in it has more digits than an integer may have. -/
def hasLongInteger : Json → Bool
  | int n => isLongInteger n
  | array items => hasLongIntegerItems items
  | object members => hasLongIntegerMembers members
  | _ => false

def hasLongIntegerItems : List Json → Bool
  | [] => false
  | item :: items => hasLongInteger item || hasLongIntegerItems items

def hasLongIntegerMembers : List (Text × Json) → Bool
  | [] => false
  | (_, value) :: members => hasLongInteger value || hasLongIntegerMembers members

end

end Json
end GameArchive
