import GameArchive.Value.Printer
import GameArchive.Value.Slots

/-!
# Building values

New objects go to the end of a heap. Some objects exist only once: the empty tuple, bytes of length
one or less, and whatever is built under a name that is known already. The keys of a mapping and the
items of a set are distinct, and nothing that can change is among them.
-/

namespace GameArchive
namespace Value

/-- Two keys that a mapping does not tell apart: equal numbers of any kind, and equal texts, bytes,
paths and tuples. The first argument bounds how deep tuples nest. -/
def sameKey (heap : Heap) : (fuel : Nat) → Value → Value → Bool
  | _, .scalar s, .scalar t => s.same t
  | 0, .object a, .object b => a = b
  | fuel + 1, .object a, .object b =>
    a = b || match heap[a]?, heap[b]? with
      | some (.sequence .tuple s), some (.sequence .tuple t) => sameItems (sameKey heap fuel) s t
      | some (.sequence .frozenset s), some (.sequence .frozenset t) =>
        s.all (fun x => t.any (sameKey heap fuel x)) && t.all fun x => s.any (sameKey heap fuel x)
      | some (.bytes s false), some (.bytes t false) => s = t
      | some (.path p), some (.path q) => p = q
      | some (.range m), some (.range n) => m.toNat = n.toNat
      | some (.record s fields), some (.record t others) =>
        s = t && sameItems (sameKey heap fuel) (fields.map (·.2)) (others.map (·.2))
      | _, _ => false
  | _, _, _ => false
where
  sameItems (same : Value → Value → Bool) : List Value → List Value → Bool
    | [], [] => true
    | x :: xs, y :: ys => same x y && sameItems same xs ys
    | _, _ => false

/-- Entries with one more: a known key stays and takes the new value. -/
def putEntry (heap : Heap) (key value : Value) : List (Value × Value) → List (Value × Value)
  | [] => [(key, value)]
  | (k, v) :: rest =>
    if sameKey heap heap.length.succ k key then (k, value) :: rest
    else (k, v) :: putEntry heap key value rest

/-- The entries of a mapping. -/
def distinctEntries (heap : Heap) (entries : List (Value × Value)) : List (Value × Value) :=
  entries.foldl (fun all (key, value) => putEntry heap key value all) []

/-- The items of a set. -/
def distinctItems (heap : Heap) (items : List Value) : List Value :=
  (items.foldl (fun all item => if all.any (sameKey heap heap.length.succ item) then all
    else item :: all) []).reverse

/-- The type of the first thing in a value that can change, where that keeps it from being a key.
The first argument bounds how deep tuples nest. -/
def changeable? (heap : Heap) : (fuel : Nat) → Value → Option Text
  | _, .scalar _ => none
  | 0, .object _ => none
  | fuel + 1, .object number =>
    match heap[number]? with
    | some (.sequence .list _) => some Sequence.list.typeName
    | some (.sequence .set _) => some Sequence.set.typeName
    | some (.sequence .tuple items) => items.findSome? (changeable? heap fuel)
    | some (.record _ fields) => (fields.map (·.2)).findSome? (changeable? heap fuel)
    | some (.mapping entries) => some (Object.mapping entries).typeName
    | some (.bytes content true) => some (Object.bytes content true).typeName
    | _ => none

end Value

/-- Objects under construction. `names` are objects that can be referred to, and `fault` is the
first thing that went wrong. -/
structure Builder where
  heap : Heap
  names : List (Text × Nat)
  fault : Option Value.Fault

namespace Builder

def empty : Builder := ⟨[], [], none⟩

/-- Goes on with the objects of a heap. -/
def ofHeap (heap : Heap) : Builder := ⟨heap, [], none⟩

/-- Something went wrong, unless something did before. -/
def fail (b : Builder) (fault : Value.Fault) : Builder :=
  { b with fault := b.fault.or (some fault) }

/-- A value becomes a key. -/
def useKey (b : Builder) (key : Value) : Builder :=
  match Value.changeable? b.heap b.heap.length.succ key with
  | some type => b.fail (.unhashable type)
  | none => b

/-- A new object. -/
def add (b : Builder) (object : Object) : Value × Builder :=
  (.object b.heap.length, { b with heap := b.heap ++ [object] })

/-- The object that is built under a name, which is new the first time. -/
def once (b : Builder) (name : Text) (object : Object) : Value × Builder :=
  match b.names.lookup name with
  | some number => (.object number, b)
  | none =>
    (.object b.heap.length,
      { b with heap := b.heap ++ [object], names := (name, b.heap.length) :: b.names })

/-- How an object is listed that has been given a name. -/
def givenName (name : Text) : Text := "&" ++ name

/-- A place for an object with a name, which may be part of its own content. -/
def reserve (b : Builder) (name : Text) : Nat × Builder :=
  (b.heap.length,
    { b with
      heap := b.heap ++ [.sequence .list []]
      names := (givenName name, b.heap.length) :: b.names })

/-- The object that has been given a name. -/
def known (b : Builder) (name : Text) : Value × Builder :=
  match b.names.lookup (givenName name) with
  | some number => (.object number, b)
  | none => (.scalar .null, b.fail (.unknownName name))

def replace (b : Builder) (number : Nat) (object : Object) : Builder :=
  { b with heap := b.heap.set number object }

/-- A list, tuple, set or generator of values. -/
def sequence (b : Builder) (kind : Sequence) (items : List Value) : Value × Builder :=
  match kind with
  | .tuple =>
    if items.isEmpty then b.once "()" (.sequence .tuple []) else b.add (.sequence kind items)
  | .set | .frozenset =>
    let distinct := Value.distinctItems b.heap items
    (items.foldl useKey b).add (.sequence kind (Value.setOrder b.heap distinct))
  | _ => b.add (.sequence kind items)

def mapping (b : Builder) (entries : List (Value × Value)) : Value × Builder :=
  ((entries.map (·.1)).foldl useKey b).add (.mapping (Value.distinctEntries b.heap entries))

def bytes (b : Builder) (content : Bytes) (mutable : Bool) : Value × Builder :=
  match mutable, content with
  | false, [] => b.once "b" (.bytes [] false)
  | false, [byte] => b.once ("b" ++ Text.ofNat byte.toNat) (.bytes [byte] false)
  | _, _ => b.add (.bytes content mutable)

mutual

/-- A JSON value as a value of its own. -/
def json (b : Builder) : Json → Value × Builder
  | .null => (.scalar .null, b)
  | .bool x => (.scalar (.bool x), b)
  | .int n => (.scalar (.int n), b)
  | .float x => (.scalar (.float x), b)
  | .string t => (.scalar (.string t), b)
  | .array items =>
    let (items, b) := jsonItems b items
    b.add (.sequence .list items)
  | .object members =>
    let (entries, b) := jsonMembers b members
    b.add (.mapping entries)

def jsonItems (b : Builder) : List Json → List Value × Builder
  | [] => ([], b)
  | item :: items =>
    let (v, b) := json b item
    let (vs, b) := jsonItems b items
    (v :: vs, b)

def jsonMembers (b : Builder) : List (Text × Json) → List (Value × Value) × Builder
  | [] => ([], b)
  | (name, item) :: members =>
    let (v, b) := json b item
    let (vs, b) := jsonMembers b members
    ((.scalar (.string name), v) :: vs, b)

end

/-- The member of an enumeration that has the given value; `names` are all values with the names of
their members. -/
def member (b : Builder) (type : Text) (names : List (Text × Text)) (value : Json) :
    Value × Builder :=
  let name? : Option (Text × Text) := match value with
    | .string t => (names.lookup t).map (t, ·)
    | _ => none
  match name? with
  | some (t, name) => b.once (type ++ " " ++ t) (.member type name (.scalar (.string t)))
  | none =>
    let (v, c) := empty.json value
    match v.shown c.heap with
    | .ok shown => (.scalar .null, b.fail (.noMember type shown))
    | .error fault => (.scalar .null, b.fail fault)

/-- A JSON value as it stands in a message. -/
def textOf (j : Json) : Except Value.Fault Text :=
  match j with
  | .string t => .ok t
  | j =>
    let (v, b) := empty.json j
    v.shown b.heap

end Builder
end GameArchive
