import GameArchive.Json.Printer
import GameArchive.Text.Class
import GameArchive.Value.Basic

/-!
# Writing values

The text of a value as messages show it. Inside a container strings are quoted, and an object that
contains itself is cut off by three dots. A value has no text if an integer in it has too many
digits, or if an exception in it has no message where one is asked for.
-/

namespace GameArchive

namespace Text

/-- The quote for a text: double ones only if that saves escaping single ones. -/
def quoteFor (t : Text) : CodePoint :=
  if t.contains (CodePoint.ofChar '\'') ∧ !t.contains (CodePoint.ofChar '"') then '"' else '\''

/-- The escape of a character by its number. -/
def numberEscape (c : CodePoint) : Text :=
  if c.val < 0x100 then "\\x" ++ Text.ofHex 2 c.val
  else if c.val < 0x10000 then "\\u" ++ Text.ofHex 4 c.val
  else "\\U" ++ Text.ofHex 8 c.val

/-- A character in a text between the given quotes. -/
def showChar (quote c : CodePoint) : Text :=
  if c = quote ∨ c = '\\' then ['\\', c]
  else if c = '\n' then "\\n"
  else if c = '\r' then "\\r"
  else if c = '\t' then "\\t"
  else if c.isPrintable then [c]
  else numberEscape c

/-- The text with escapes in place of all that is not ASCII. -/
def ascii (t : Text) : Text := t.flatMap fun c => if c.val < 0x80 then [c] else numberEscape c

/-- A text in quotes. -/
def shown (t : Text) : Text :=
  let quote := quoteFor t
  quote :: t.flatMap (showChar quote) ++ [quote]

end Text

namespace Bytes

/-- Bytes in quotes, each as the character with its number; only those of ASCII are shown. -/
def shown (bytes : Bytes) : Text :=
  let t := bytes.map fun b => CodePoint.ofNat b.toNat
  let quote := Text.quoteFor t
  "b" ++ (quote :: t.flatMap (fun c =>
    if c.val < 0x7f then Text.showChar quote c else "\\x" ++ Text.ofHex 2 c.val) ++ [quote])

/-- Bytes as an object. -/
def shownAs (bytes : Bytes) (mutable : Bool) : Text :=
  if mutable then "bytearray(" ++ bytes.shown ++ ")" else bytes.shown

end Bytes

namespace Scalar

/-- The text of a scalar; a string stands for itself. An integer of too many digits has none. -/
def text : Scalar → Except Value.Fault Text
  | .null => .ok "None"
  | .bool b => .ok (if b then "True" else "False")
  | .int n => if Json.isLongInteger n then .error .longInteger else .ok (Text.ofInt n)
  | .float x => .ok (Binary64.write Binary64.plain x)
  | .string t => .ok t

/-- The text of a scalar in a container. -/
def shown : Scalar → Except Value.Fault Text
  | .string t => .ok (Text.shown t)
  | s => s.text

end Scalar

namespace Sequence

/-- What stands around items, and what stands for no items. -/
def brackets : Sequence → (Text × Text) × Text
  | .list => (("[", "]"), "[]")
  | .tuple => (("(", ")"), "()")
  | .set => (("\x7b", "\x7d"), "set()")
  | .frozenset => (("frozenset(\x7b", "\x7d)"), "frozenset()")
  | .generator => (("<generator ", ">"), "<generator>")

/-- What stands for a sequence inside itself. -/
def cut : Sequence → Text
  | .list => "[...]"
  | .tuple => "(...)"
  | .set => "set(...)"
  | .frozenset => "frozenset(...)"
  | .generator => "<generator>"

/-- Written items between brackets. A tuple of one item has a comma behind it. -/
def layOut (kind : Sequence) (items : List Text) : Text :=
  let ((opening, closing), empty) := kind.brackets
  match kind, items with
  | _, [] => empty
  | .tuple, [item] => opening ++ item ++ "," ++ closing
  | _, items => opening ++ Text.join ", " items ++ closing

end Sequence

namespace Value

/-- How deep objects are inside each other where a text is written. A container that is inside itself
is cut, and between two containers any other object is once, unless the text goes on for ever. -/
def shownBound (heap : Heap) : Nat := (heap.length + 1) * (heap.length + 2)

/-- The text of a value in a container. `active` are the objects around it, and the first argument
bounds how deep they nest. An exception of several arguments is a container of them; one of a single
argument is not cut. -/
def shownIn (heap : Heap) : (fuel : Nat) → (active : List Nat) → Value → Except Fault Text
  | _, _, .scalar s => s.shown
  | 0, _, .object _ => .error .endless
  | fuel + 1, active, .object number => do
    let inside := shownIn heap fuel (number :: active)
    match heap[number]? with
    | none => throw .noObject
    | some (.sequence kind items) =>
      if active.contains number then return kind.cut
      else return kind.layOut (← items.mapM inside)
    | some (.range bound) => return "range(0, " ++ (← Scalar.text (.int bound)) ++ ")"
    | some (.mapping entries) =>
      if active.contains number then return "\x7b...\x7d"
      else
        let members ← entries.mapM fun (key, value) => do
          return (← inside key) ++ ": " ++ (← inside value)
        return "\x7b" ++ Text.join ", " members ++ "\x7d"
    | some (.bytes content mutable) => return content.shownAs mutable
    | some (.path p) => return "PosixPath(" ++ Text.shown p.text ++ ")"
    | some (.exception type _ [arg]) => return type ++ "(" ++ (← inside arg) ++ ")"
    | some (.exception type _ args) =>
      if active.contains number then return type ++ "(...)"
      else return type ++ "(" ++ Text.join ", " (← args.mapM inside) ++ ")"
    | some (.member type name value) =>
      return "<" ++ type ++ "." ++ name ++ ": " ++ (← inside value) ++ ">"
    | some (.record type fields) =>
      if active.contains number then return "..."
      else
        let members ← fields.mapM fun (name, value) => do return name ++ "=" ++ (← inside value)
        return type ++ "(" ++ Text.join ", " members ++ ")"

/-- The text of a value in a container. -/
def shown (heap : Heap) (v : Value) : Except Fault Text := shownIn heap (shownBound heap) [] v

/-- The message of the exception with a number; `text` gives the text of an argument by itself.
Several arguments are inside the exception. -/
def message (heap : Heap) (number : Nat) (text : Value → Except Fault Text) :
    MessageStyle → List Value → Except Fault Text
  | .unprintable, _ => .error .noText
  | .system paths, number :: problem :: _ => do
    let start := "[Errno " ++ (← text number) ++ "] " ++ (← text problem)
    let shown ← paths.mapM (shown heap)
    return if paths.isEmpty then start else start ++ ": " ++ Text.join " -> " shown
  | _, [] => .ok []
  | .quoted, [arg] => shown heap arg
  | _, [arg] => text arg
  | _, args => do
    return Sequence.tuple.layOut (← args.mapM (shownIn heap (shownBound heap) [number]))

/-- The text of a value by itself. -/
def textIn (heap : Heap) : (fuel : Nat) → Value → Except Fault Text
  | _, .scalar s => s.text
  | 0, .object _ => .error .endless
  | fuel + 1, .object number =>
    match heap[number]? with
    | some (.path p) => .ok p.text
    | some (.exception _ style args) => message heap number (textIn heap fuel) style args
    | some (.member type name _) => .ok (type ++ "." ++ name)
    | _ => shown heap (.object number)

/-- The text of a value by itself: strings, paths, messages and names of members are not quoted. -/
def text (heap : Heap) (v : Value) : Except Fault Text := textIn heap heap.length.succ v

/-- Names one after another, each in quotes, with a word before the last one. -/
def nameList (names : List Text) : Text :=
  let quoted := names.map fun name : Text => "'" ++ name ++ "'"
  match quoted.reverse with
  | last :: middle :: rest =>
    let comma : Text := if rest.isEmpty then " and " else ", and "
    Text.join ", " (middle :: rest).reverse ++ comma ++ last
  | _ => Text.join ", " quoted

/-- What is said of an integer of too many digits. -/
def longIntegerMessage : Text :=
  Text.ofString "Exceeds the limit (4300 digits) for integer string conversion" ++
    Text.ofString "; use sys.set_int_max_str_digits() to increase the limit"

def Fault.message : Fault → Text
  | .noText => "no text"
  | .longInteger => longIntegerMessage
  | .endless => "maximum recursion depth exceeded"
  | .noObject => "no object"
  | .unhashable type => "unhashable type: '" ++ type ++ "'"
  | .generator => "cannot pickle 'generator' object"
  | .unknownName name => Text.shown name
  | .noMember type shown => shown ++ " is not a valid " ++ type
  | .missingArguments type names =>
    let plural : Text := if names.length = 1 then "" else "s"
    type ++ ".__init__() missing " ++ Text.ofNat names.length ++ " required positional argument" ++
      plural ++ ": " ++ nameList names
  | .extraArguments type least most given =>
    let range : Text := if least = most then Text.ofNat most
      else "from " ++ Text.ofNat least ++ " to " ++ Text.ofNat most
    type ++ ".__init__() takes " ++ range ++ " positional arguments but " ++ Text.ofNat given ++
      " were given"

end Value
end GameArchive
