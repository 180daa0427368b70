import GameArchive.FileSystem.Lookup
import GameArchive.Text.Lowercase
import GameArchive.Value.Build

/-!
# Entries and endings

A listing finds files by their endings, in any case and with or without a dot.
-/

namespace GameArchive
namespace Listing

/-- A file that a listing has found. -/
structure Entry where
  path : Path
  /-- The number of bytes. -/
  size : Nat
deriving DecidableEq

/-- The ending of a file in lower case, without its dot. -/
def extensionOf (p : Path) : Text := Text.toLower (p.suffix.drop 1)

/-- The name of the file without its ending. -/
def Entry.name (e : Entry) : Text := e.path.stem

def Entry.extension (e : Entry) : Text := extensionOf e.path

/-- An ending as it is compared: in lower case, without dots before it. -/
def normalizeExtension (t : Text) : Text := t.toLower.dropWhile fun c : CodePoint => c = '.'

/-- The first of equal texts in a sorted list. -/
def distinct : List Text → List Text
  | [] => []
  | [t] => [t]
  | t :: u :: rest => if t = u then distinct (u :: rest) else t :: distinct (u :: rest)

/-- The endings as they are compared, in increasing order, each once. -/
def normalizeExtensions (endings : List Text) : List Text :=
  distinct (Text.sort (endings.map normalizeExtension))

/-- Why a JSON value asks for no endings. -/
inductive EndingsFault where
  /-- A value of this type has no items. -/
  | notIterable (type : Text)
  /-- An item has no text. -/
  | item (fault : Value.Fault)

/-- The endings that a JSON value asks for: the texts of its items, its names, or its characters.
Null asks for all files. -/
def endings? : Json → Except EndingsFault (Option (List Text))
  | .null => .ok none
  | .array items =>
    match items.mapM Builder.textOf with
    | .ok texts => .ok (some (normalizeExtensions texts))
    | .error fault => .error (.item fault)
  | .object members => .ok (some (normalizeExtensions (members.map (·.1))))
  | .string t => .ok (some (normalizeExtensions (t.map ([·]))))
  | other => .error (.notIterable other.typeName)

/-- What a listing looks for. -/
structure Options where
  /-- The endings of the files; none of them stands for all. -/
  extensions : Option (List Text)
  /-- Directories that are links are gone into. -/
  allowSymlinks : Bool

/-- The file has an ending that is looked for. -/
def Options.accepts (options : Options) (p : Path) : Bool :=
  options.extensions.all fun endings => endings.contains (extensionOf p)

end Listing
end GameArchive
