import GameArchive.Value.Basic

/-!
# The order of a set

A set shows its items in the order of the slots in which they lie. Every number has a residue, which
equal numbers share, and what is made of numbers has one that is mixed of theirs. An item goes to
the slot that the low bits of its residue say. Where that is taken it goes to the first free one of
the slots that the other bits lead to. A table of which three fifths are taken gives way to one with
more than four slots for each item. Small natural numbers are so ordered by their size.
-/

namespace GameArchive

/-! ## Residues -/

namespace Scalar

/-- Residues are those of the division by this prime, of which a power of two shifts the bits. -/
def modulus : Nat := Nat.pow 2 61 - 1

/-- A residue with a sign, as a number of 64 bits. Minus one counts as minus two. -/
def signedResidue (negative : Bool) (n : Nat) : Nat :=
  let r := n % modulus
  if !negative || r = 0 then r else Nat.pow 2 64 - max 2 r

/-- The residue of a number. An empty text has one as well; nothing else has. -/
def residue? : Scalar → Option Nat
  | .float (.finite negative m e) =>
    some (signedResidue negative (m * Nat.pow 2 (Int.emod e 61).toNat))
  | .float (.infinite negative) => some (signedResidue negative 314159)
  | .string [] => some 0
  | s => s.integer?.map fun n => signedResidue (n < 0) n.natAbs

end Scalar

namespace Value

/-- A mixture of residues that depends on their order. -/
def mixedInOrder (residues : List Nat) : Nat :=
  let start : UInt64 := 2870177450012600261
  let mixed := residues.foldl (fun (sum : UInt64) r =>
    let sum := sum + UInt64.ofNat r * 14029467366897019727
    ((sum <<< 31) ||| (sum >>> 33)) * 11400714785074694791) start
  let mixed := (mixed + (UInt64.ofNat residues.length ^^^ start ^^^ (3527539 : UInt64))).toNat
  if mixed = Nat.pow 2 64 - 1 then 1546275796 else mixed

/-- A mixture of residues in any order. -/
def mixedTogether (residues : List Nat) : Nat :=
  let mixed := residues.foldl (fun (sum : UInt64) r =>
    let r := UInt64.ofNat r
    sum ^^^ ((r ^^^ (89869747 : UInt64) ^^^ (r <<< 16)) * 3644798167)) (0 : UInt64)
  let mixed := mixed ^^^ ((UInt64.ofNat residues.length + 1) * 1927868237)
  let mixed := mixed ^^^ (mixed >>> 11) ^^^ (mixed >>> 25)
  let mixed := (mixed * 69069 + 907133923).toNat
  if mixed = Nat.pow 2 64 - 1 then 590923713 else mixed

/-- The residue of a value; a range is mixed of its length, its start and its step. The first
argument bounds how deep tuples nest. -/
def residue? (heap : Heap) : (fuel : Nat) → Value → Option Nat
  | _, .scalar s => s.residue?
  | 0, .object _ => none
  | fuel + 1, .object number =>
    match heap[number]? with
    | some (.sequence .tuple items) => (items.mapM (residue? heap fuel)).map mixedInOrder
    | some (.sequence .frozenset items) => (items.mapM (residue? heap fuel)).map mixedTogether
    | some (.range bound) =>
      if 1 < bound then some (mixedInOrder [Scalar.signedResidue false bound.toNat, 0, 1]) else none
    | some (.bytes [] false) => some 0
    | _ => none

end Value

/-! ## Slots -/

/-- A table of slots, a power of two of them. A slot that is taken holds an item and its residue. -/
abbrev Slots := Array (Option (Nat × Value))

namespace Slots

def ofSize (size : Nat) : Slots := Array.replicate size none

def empty : Slots := ofSize 8

/-- The items in the order of their slots. -/
def entries (slots : Slots) : List (Nat × Value) := slots.toList.filterMap id

/-- The first free slot: at a place or, unless the table ends before that, up to nine behind it;
then at the places that follow from it and from the bits that are left of a residue. -/
def free? (slots : Slots) : (fuel : Nat) → (place bits : Nat) → Option Nat
  | 0, _, _ => none
  | fuel + 1, place, bits =>
    let near := List.range' place (if place + 9 < slots.size then 10 else 1)
    match near.find? fun i => slots[i]? = some none with
    | some i => some i
    | none => free? slots fuel ((5 * place + 1 + bits / 32) % slots.size) (bits / 32)

/-- Puts an item into a free slot. The bits of a residue are used up after thirteen places, and from
then on every slot is met. -/
def put (slots : Slots) (entry : Nat × Value) : Slots :=
  match free? slots (slots.size + 13) (entry.1 % slots.size) entry.1 with
  | some i => slots.setIfInBounds i (some entry)
  | none => slots

/-- How many slots a table is given for so many items: the least power of two that is more than four
for each, or more than two where there are very many. -/
def sizeFor (count : Nat) : Nat :=
  max 8 (Nat.pow 2 (Nat.log2 (if 50000 < count then 2 * count else 4 * count) + 1))

/-- A table with one item more. -/
def add (slots : Slots) (entry : Nat × Value) : Slots :=
  let slots := slots.put entry
  let count := slots.entries.length
  if 5 * count < 3 * (slots.size - 1) then slots
  else slots.entries.foldl put (ofSize (sizeFor count))

end Slots

/-- The items of a set in its own order. They stay as they came if one of them has no residue. -/
def Value.setOrder (heap : Heap) (items : List Value) : List Value :=
  match items.mapM (residue? heap heap.length.succ) with
  | some residues => ((residues.zip items).foldl Slots.add .empty).entries.map (·.2)
  | none => items

end GameArchive
