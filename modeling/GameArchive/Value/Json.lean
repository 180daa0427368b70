import GameArchive.Json.Printer
import GameArchive.Value.Copy
import GameArchive.Value.Table

/-!
# Values as JSON

A value that is nothing but lists, tuples, named members and scalars has a direct JSON text. Any
other value is made into a JSON value first: each object is expanded where it is met first, and a
note of its type stands for it wherever it is met again, or where it lies too deep. A generator that
is expanded gives its items away.

Objects that are met are told apart by their places in memory. An item that nothing but a generator
has is gone once it is expanded, and a later one may come to lie in its place.
-/

namespace GameArchive

def Scalar.json : Scalar → Json
  | .null => .null
  | .bool b => .bool b
  | .int n => .int n
  | .float x => .float x
  | .string t => .string t

namespace Value

/-! ## Any value -/

/-- The walk over a value. It keeps the objects that have been met, and fails where an exception or
a key has no text. -/
abbrev Walk := ExceptT Fault (StateM (List Nat))

def circular (type : Text) : Json := .string ("<circular_ref " ++ type ++ ">")

def tooDeep (type : Text) : Json := .string ("<max_depth_exceeded " ++ type ++ ">")

/-- Depths that are allowed; none allows all. -/
def exceeds (limit : Option Int) (depth : Nat) : Bool := limit.any fun n => n < (depth : Int)

/-- A record in a record is no more than its members. -/
def asMembers : Object → Object
  | .record _ fields => .mapping (fields.map fun (name, v) => (.scalar (.string name), v))
  | other => other

/-- A value at a depth as a JSON value. An object counts as met if one in its place has been met. The
fields of a record are copied first; `copied` holds inside one, where nothing but what is never
copied can have been met before. `fuel` bounds how deep objects nest. -/
def jsonIn (place : Nat → Nat) (limit : Option Int) :
    (fuel : Nat) → Heap → (copied : Bool) → (depth : Nat) → Value → Walk Json
  | _, _, _, _, .scalar s => return s.json
  | 0, heap, _, _, v => return circular (v.typeName heap)
  | fuel + 1, heap, copied, depth, .object number => do
    let some found := heap[number]?.map (if copied then asMembers else id) | return .null
    let isNew := copied && !isShared found
    if !isNew && (← get).any fun met => place met = place number then
      return circular found.typeName
    if exceeds limit depth then return tooDeep found.typeName
    if !isNew then modify (number :: ·)
    let next := jsonIn place limit fuel heap copied
    match found with
    | .sequence _ items => return .array (← items.mapM (next (depth + 1)))
    | .range bound => return .array ((List.range bound.toNat).map fun (n : Nat) => .int n)
    | .mapping entries =>
      let members ← entries.mapM fun (key, value) => do
        return (← text heap key, ← next (depth + 1) value)
      return .object (Members.ofList members)
    | .bytes content mutable => return .string (content.shownAs mutable)
    | .path p => return .string p.text
    | .exception type _ _ =>
      return .object [("type", .string type), ("message", .string (← text heap (.object number)))]
    | .member _ _ value => jsonIn place limit fuel heap false (depth + 1) value
    | .record _ fields =>
      let copies ← copy heap (.object number)
      if exceeds limit (depth + 1) then return tooDeep "dict"
      else
        return .object (← fields.mapM fun (name, value) =>
          return (name, ← jsonIn place limit fuel copies true (depth + 2) value))

/-- A generator without its items; any other object as it is. -/
def exhausted : Object → Object
  | .sequence .generator _ => .sequence .generator []
  | other => other

/-- A value as a JSON value, objects below the limit of depth left out. The heap that comes with it
has generators without the items that they have given. -/
def json (place : Nat → Nat) (heap : Heap) (limit : Option Int) (v : Value) :
    Except Fault Json × Heap :=
  let (outcome, met) := (jsonIn place limit heap.length.succ heap false 0 v).run.run []
  (outcome, met.foldl (fun heap number => heap.modify number exhausted) heap)

/-- The depth down to which values are expanded where nothing else is said. -/
def defaultLimit : Int := 10

/-! ## Values that are JSON already -/

/-- The name that a scalar key stands for. -/
def keyName? : Value → Option Text
  | .scalar s =>
    if s.json.allFinite ∧ !s.json.hasLongInteger then some (Table.name s) else none
  | .object _ => none

/-- The JSON value that a value is, if all in it are lists, tuples, members with scalar names and
finite scalars, and nothing contains itself. Names may come again. -/
def plainIn? (heap : Heap) : (fuel : Nat) → (active : List Nat) → Value → Option Json
  | _, _, .scalar s => if s.json.allFinite then some s.json else none
  | 0, _, .object _ => none
  | fuel + 1, active, .object number =>
    if active.contains number then none
    else
      let inside := plainIn? heap fuel (number :: active)
      match heap[number]? with
      | some (.sequence .list items) => (items.mapM inside).map .array
      | some (.sequence .tuple items) => (items.mapM inside).map .array
      | some (.mapping entries) =>
        (entries.mapM fun (key, value) => do return (← keyName? key, ← inside value)).map .object
      | _ => none

def plain? (heap : Heap) (v : Value) : Option Json := plainIn? heap heap.length.succ [] v

/-- Why a value has no JSON text. -/
inductive DumpError where
  /-- A number in it is not finite. -/
  | notFinite
  /-- An integer in it has more digits than an integer may have. -/
  | longInteger
  | fault (f : Fault)
deriving DecidableEq

/-- The compact text of a JSON value, if all numbers in it have one. -/
def dumpJson (j : Json) : Except DumpError Text :=
  if j.hasLongInteger then .error .longInteger
  else if j.allFinite then .ok j.compact
  else .error .notFinite

/-- The compact JSON text of a value, with the heap that is left of it. -/
def dump (place : Nat → Nat) (heap : Heap) (v : Value) : Except DumpError Text × Heap :=
  match plain? heap v with
  | some j => (dumpJson j, heap)
  | none =>
    match json place heap none v with
    | (.error f, heap) => (.error (.fault f), heap)
    | (.ok j, heap) => (dumpJson j, heap)

end Value
end GameArchive
