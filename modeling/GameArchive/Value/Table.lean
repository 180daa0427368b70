import GameArchive.Json.Printer
import GameArchive.Value.Basic

/-!
# Tables

A table has scalars for keys. An object makes a table of its members, and what lists pairs makes one
of the pairs: an array, or a text of no characters. Equal numbers are one key.
-/

namespace GameArchive

abbrev Table := List (Scalar × Json)

namespace Table

/-- Why a JSON value makes no table. -/
inductive Fault where
  /-- A value of this type has no items. -/
  | notIterable (type : Text)
  /-- The item at an index has no items itself. -/
  | notSequence (index : Nat)
  /-- The item at an index is no pair. -/
  | wrongLength (index length : Nat)
  /-- A value of this type is no key. -/
  | unhashable (type : Text)
deriving DecidableEq

def Fault.message : Fault → Text
  | .notIterable type => "'" ++ type ++ "' object is not iterable"
  | .notSequence index =>
    "cannot convert dictionary update sequence element #" ++ Text.ofNat index ++ " to a sequence"
  | .wrongLength index length =>
    "dictionary update sequence element #" ++ Text.ofNat index ++ " has length " ++
      Text.ofNat length ++
      "; 2 is required"
  | .unhashable type => "unhashable type: '" ++ type ++ "'"

/-- Sets a value: a known key keeps its place, a new one comes last. -/
def put (key : Scalar) (value : Json) : Table → Table
  | [] => [(key, value)]
  | (k, v) :: rest => if k.same key then (k, value) :: rest else (k, v) :: put key value rest

/-- The table with the members of an object set in it. -/
def putAll (t : Table) (members : Members) : Table :=
  members.foldl (fun all (name, value) => all.put (.string name) value) t

/-- What a JSON value consists of: items, characters or names. -/
def items? : Json → Option (List Json)
  | .array items => some items
  | .string t => some (t.map fun c => .string [c])
  | .object members => some (members.map fun (name, _) => .string name)
  | _ => none

def key : Json → Except Fault Scalar
  | .null => .ok .null
  | .bool b => .ok (.bool b)
  | .int n => .ok (.int n)
  | .float x => .ok (.float x)
  | .string t => .ok (.string t)
  | other => .error (.unhashable other.typeName)

/-- The pair that an item is. -/
def pair (index : Nat) (item : Json) : Except Fault (Scalar × Json) :=
  match items? item with
  | none => .error (.notSequence index)
  | some [k, v] => (key k).map (·, v)
  | some others => .error (.wrongLength index others.length)

/-- The pairs of items, of which the first one has the given index, set in a table. -/
def putPairs (t : Table) : (index : Nat) → List Json → Except Fault Table
  | _, [] => .ok t
  | index, item :: rest => do
    let (k, v) ← pair index item
    putPairs (t.put k v) (index + 1) rest

/-- The table that a JSON value makes. -/
def ofJson : Json → Except Fault Table
  | .object members => .ok (putAll [] members)
  | other =>
    match items? other with
    | some items => putPairs [] 0 items
    | none => .error (.notIterable other.typeName)

/-- The name that a key has as the name of a member. -/
def name : Scalar → Text
  | .null => "null"
  | .bool b => if b then "true" else "false"
  | .int n => Text.ofInt n
  | .float x => Binary64.write Binary64.json x
  | .string t => t

/-- The members that a table is written as. Names may come again. -/
def members (t : Table) : Members := t.map fun (k, v) => (name k, v)

/-- Some key is an integer of more digits than are written. -/
def hasLongKey (t : Table) : Bool :=
  t.any fun (k, _) => k.integer?.any Json.isLongInteger

end Table
end GameArchive
