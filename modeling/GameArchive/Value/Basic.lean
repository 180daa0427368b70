import GameArchive.FileSystem.Path
import GameArchive.Json.Basic
import GameArchive.Text.Utf8

/-!
# Values

What a program may hand over to be logged: scalars, and objects that may be shared and may contain
themselves. Objects live in a heap and are known by their number in it, so two objects with the same
content stay apart.
-/

namespace GameArchive

inductive Scalar where
  | null
  | bool (b : Bool)
  | int (n : Int)
  | float (x : Binary64)
  | string (t : Text)
deriving DecidableEq

inductive Value where
  | scalar (s : Scalar)
  | object (number : Nat)
deriving DecidableEq

/-- What holds items in order. A generator gives its items once. -/
inductive Sequence where
  | list
  | tuple
  | set
  | frozenset
  | generator
deriving DecidableEq

/-- How the message of an exception is made of its arguments. -/
inductive MessageStyle where
  /-- One argument by itself, several as a tuple. -/
  | plain
  /-- The same, but one argument is quoted. -/
  | quoted
  /-- The first argument as an error number and the second as a text, with the paths of files. -/
  | system (paths : List Value)
  /-- There is no message to be had. -/
  | unprintable
deriving DecidableEq

inductive Object where
  | sequence (kind : Sequence) (items : List Value)
  /-- The natural numbers below a bound. -/
  | range (bound : Int)
  | mapping (entries : List (Value × Value))
  | bytes (content : Bytes) (mutable : Bool)
  | path (p : Path)
  | exception (type : Text) (style : MessageStyle) (args : List Value)
  /-- A member of an enumeration. -/
  | member (type name : Text) (value : Value)
  | record (type : Text) (fields : List (Text × Value))

/-- Objects by their numbers. -/
abbrev Heap := List Object

/-- Why a value is not to be had. -/
inductive Value.Fault where
  /-- An exception that has no message is asked for one. -/
  | noText
  /-- An integer has more digits than are written. -/
  | longInteger
  /-- A text goes on for ever, as that of an exception of itself. -/
  | endless
  /-- There is no object with the number that a value has. -/
  | noObject
  /-- What can change, or holds what can change, is no key and no item of a set. -/
  | unhashable (type : Text)
  /-- A generator gives its items only once, so it cannot be copied. -/
  | generator
  /-- Nothing is known by a name. -/
  | unknownName (name : Text)
  /-- No member of the enumeration has the value that is shown. -/
  | noMember (type shown : Text)
  /-- Arguments without which no exception of a type can be made. -/
  | missingArguments (type : Text) (names : List Text)
  /-- More arguments than the type takes, itself counted. -/
  | extraArguments (type : Text) (least most given : Nat)
deriving DecidableEq

def Sequence.typeName : Sequence → Text
  | .list => "list"
  | .tuple => "tuple"
  | .set => "set"
  | .frozenset => "frozenset"
  | .generator => "generator"

def Object.typeName : Object → Text
  | .sequence kind _ => kind.typeName
  | .range _ => "range"
  | .mapping _ => "dict"
  | .bytes _ mutable => if mutable then "bytearray" else "bytes"
  | .path _ => "PosixPath"
  | .exception type _ _ => type
  | .member type _ _ => type
  | .record type _ => type

def Scalar.typeName : Scalar → Text
  | .null => "NoneType"
  | .bool _ => "bool"
  | .int _ => "int"
  | .float _ => "float"
  | .string _ => "str"

namespace Scalar

/-- The integer that a scalar is, true being one and false zero. -/
def integer? : Scalar → Option Int
  | .int n => some n
  | .bool b => some (if b then 1 else 0)
  | _ => none

/-- Two scalars that no mapping tells apart: numbers are compared by value. -/
def same : Scalar → Scalar → Bool
  | .float x, .float y => x.same y
  | .float x, t => t.integer?.any x.equalsInt
  | s, .float y => s.integer?.any y.equalsInt
  | s, t =>
    match s.integer?, t.integer? with
    | some m, some n => m = n
    | none, none => s = t
    | _, _ => false

end Scalar

def Value.typeName (heap : Heap) : Value → Text
  | .scalar s => s.typeName
  | .object number => (heap[number]?.map Object.typeName).getD []

/-- Empty values, zeros, false and null do not hold. -/
def Value.holds (heap : Heap) : Value → Bool
  | .scalar .null => false
  | .scalar (.bool b) => b
  | .scalar (.int n) => n != 0
  | .scalar (.float x) => !x.isZero
  | .scalar (.string t) => !t.isEmpty
  | .object number =>
    match heap[number]? with
    | some (.sequence .generator _) => true
    | some (.sequence _ items) => !items.isEmpty
    | some (.range bound) => 0 < bound
    | some (.mapping entries) => !entries.isEmpty
    | some (.bytes content _) => !content.isEmpty
    | _ => true

end GameArchive
