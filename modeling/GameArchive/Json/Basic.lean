import GameArchive.Number.Binary64
import GameArchive.Text.Basic

/-!
# JSON values

Integers are unbounded and stay apart from floating-point numbers, so `1` and `1.0` differ. The
members of an object keep the order in which their names first came.
-/

namespace GameArchive

inductive Json where
  | null
  | bool (b : Bool)
  | int (n : Int)
  | float (x : Binary64)
  | string (t : Text)
  | array (items : List Json)
  | object (members : List (Text × Json))

/-- Named values in order. A name is there once if the list was built by `put`. -/
abbrev Members := List (Text × Json)

namespace Members

def get? : Members → Text → Option Json
  | [], _ => none
  | (k, v) :: rest, name => if k = name then some v else get? rest name

def contains (members : Members) (name : Text) : Bool := (members.get? name).isSome

def names (members : Members) : List Text := members.map (·.1)

/-- Sets a value: a known name keeps its place, a new one comes last. -/
def put : Members → Text → Json → Members
  | [], name, value => [(name, value)]
  | (k, v) :: rest, name, value =>
    if k = name then (k, value) :: rest else (k, v) :: put rest name value

/-- The members of `later`, put one after another. -/
def putAll (members later : Members) : Members :=
  later.foldl (fun all (name, value) => all.put name value) members

/-- The members of a list in which a name may come again: its last value at its first place. -/
def ofList (entries : List (Text × Json)) : Members := putAll [] entries

@[simp] theorem get?_nil (name : Text) : get? [] name = none := rfl

theorem get?_put (members : Members) (name other : Text) (value : Json) :
    (members.put name value).get? other =
      if name = other then some value else members.get? other := by
  induction members with
  | nil => simp [put, get?]
  | cons entry rest ih =>
    obtain ⟨k, v⟩ := entry
    simp only [put]
    by_cases h : k = name
    · subst h
      by_cases h' : k = other <;> simp [get?, h']
    · by_cases h' : k = other
      · subst h'
        simp [get?, h, Ne.symm h]
      · simp [get?, h, h', ih]

theorem names_put_of_contains {members : Members} {name : Text} (value : Json)
    (h : members.contains name = true) : (members.put name value).names = members.names := by
  induction members with
  | nil => simp [contains] at h
  | cons entry rest ih =>
    obtain ⟨k, v⟩ := entry
    by_cases hk : k = name
    · simp [put, names, hk]
    · have : contains rest name = true := by simpa [contains, get?, hk] using h
      simpa [put, names, hk] using ih this

theorem names_put_of_not_contains {members : Members} {name : Text} (value : Json)
    (h : members.contains name = false) :
    (members.put name value).names = members.names ++ [name] := by
  induction members with
  | nil => simp [put, names]
  | cons entry rest ih =>
    obtain ⟨k, v⟩ := entry
    by_cases hk : k = name
    · simp [contains, get?, hk] at h
    · have : contains rest name = false := by simpa [contains, get?, hk] using h
      simpa [put, names, hk] using ih this

end Members

namespace Json

/-- What kind of value it is, as error messages call it. -/
def typeName : Json → String
  | null => "NoneType"
  | bool _ => "bool"
  | int _ => "int"
  | float _ => "float"
  | string _ => "str"
  | array _ => "list"
  | object _ => "dict"

/-- Empty values, zeros, `false` and `null` do not hold. -/
def holds : Json → Bool
  | null => false
  | bool b => b
  | int n => n != 0
  | float x => !x.isZero
  | string t => !t.isEmpty
  | array items => !items.isEmpty
  | object members => !members.isEmpty

end Json

end GameArchive
