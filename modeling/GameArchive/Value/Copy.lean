import GameArchive.Value.Exception

/-!
# Copies

A copy of a value has copies of all objects in it, each object once. Objects that cannot change are
shared with it. An exception is made again from its arguments, so a type that makes its message
itself takes the old message for what it is given.
-/

namespace GameArchive
namespace Value

/-- What a copy of an object copies with it. Members of enumerations are never copied. -/
def copiedWith : Object → List Value
  | .sequence _ items => items
  | .mapping entries => entries.flatMap fun (key, value) => [key, value]
  | .exception _ (.system paths) args => args ++ paths
  | .exception _ _ args => args
  | .record _ fields => fields.map (·.2)
  | _ => []

/-- The objects that are copied with some values, in the order in which they are met. `seen` have
been met before, the latest first. The first argument bounds how many values are looked at. -/
def reached (heap : Heap) : (fuel : Nat) → (seen : List Nat) → List Value → List Nat
  | 0, seen, _ => seen
  | _, seen, [] => seen
  | fuel + 1, seen, .scalar _ :: rest => reached heap fuel seen rest
  | fuel + 1, seen, .object number :: rest =>
    if seen.contains number then reached heap fuel seen rest
    else
      match heap[number]? with
      | some found => reached heap fuel (number :: seen) (copiedWith found ++ rest)
      | none => reached heap fuel seen rest

/-- Every value in the heap is looked at once at most. -/
def copyBound (heap : Heap) : Nat :=
  heap.foldr (fun found bound => (copiedWith found).length + bound) 2

/-- Objects of which there are no copies. -/
def isShared : Object → Bool
  | .sequence .tuple [] | .range _ | .bytes _ false | .member .. => true
  | _ => false

/-- An exception made again from its arguments, or a set from its items; other objects stay what
they are. -/
def remake (b : Builder) : Object → Except Fault Object
  | .sequence .generator _ => .error .generator
  | .sequence .set items => .ok (.sequence .set (setOrder b.heap items))
  | .sequence .frozenset items => .ok (.sequence .frozenset (setOrder b.heap items))
  | .exception type .plain args =>
    (b.archiveMessage type args).map (.exception type .plain)
  | other => .ok other

/-- The heap after some of its objects have been made again. -/
def remakeAll (heap : Heap) : List Nat → Heap → Except Fault Heap
  | [], copies => .ok copies
  | number :: rest, copies =>
    match heap[number]? with
    | none => remakeAll heap rest copies
    | some found => do
      let made ← remake (.ofHeap heap) found
      remakeAll heap rest (copies.set number made)

/-- The heap in which a copy of a value lies in the place of the value. -/
def copy (heap : Heap) (v : Value) : Except Fault Heap :=
  remakeAll heap (reached heap (copyBound heap) [] [v]).reverse heap

end Value
end GameArchive
