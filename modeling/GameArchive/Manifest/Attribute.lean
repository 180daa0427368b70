import GameArchive.Manifest.Basic
import GameArchive.Value.Printer

/-!
# Attributes

By its attributes a manifest is more than an object: besides its members it has operations,
constants and what is computed from it, each under a name. A value that is set under such a name, or
under a name that starts with a low line, is no member. It hides what the name stood for, and an
operation that is hidden cannot be used any more.
-/

namespace GameArchive

/-- Why an attribute cannot be read, set or used. -/
inductive AttributeFault where
  /-- What is computed cannot be set. -/
  | noSetter (name : Text)
  /-- A manifest has no such attribute. -/
  | unknown (name : Text)
  /-- A value of some other type has no such attribute. -/
  | absent (type name : Text)
  /-- The attribute is of a type that JSON does not have. -/
  | notJson (type : Text)
  /-- An operation is hidden by a value of this type. -/
  | notCallable (type : Text)
deriving DecidableEq

def AttributeFault.message : AttributeFault → Text
  | .noSetter name => "property '" ++ name ++ "' of 'Manifest' object has no setter"
  | .unknown name => "'Manifest' object has no attribute " ++ Text.shown name
  | .absent type name => "'" ++ type ++ "' object has no attribute '" ++ name ++ "'"
  | .notJson type => "Object of type " ++ type ++ " is not JSON serializable"
  | .notCallable type => "'" ++ type ++ "' object is not callable"

/-- What a name stands for that is not the name of a member. -/
inductive Attribute where
  /-- The members that are no fields. -/
  | extras
  /-- Computed from the manifest, and of a type that JSON does not have. -/
  | computed (type : Text)
  | operation
  | constant (value : Json)
  /-- A constant of a type that JSON does not have. -/
  | foreign (type : Text)
  /-- Nothing yet. -/
  | reserved

namespace Attribute

def operations : List Text := List.map Text.ofString
  ["get", "toData", "hasValidAppID", "fromData", "copy", "dict", "json", "parse_obj", "parse_raw",
    "parse_file", "from_orm", "construct", "schema", "schema_json", "validate",
    "update_forward_refs", "model_construct", "model_copy", "model_dump", "model_dump_json",
    "model_json_schema", "model_parametrized_name", "model_post_init", "model_rebuild",
    "model_validate", "model_validate_json", "model_validate_strings"]

def others : List (Text × Attribute) :=
  [("extras", extras), ("model_extra", extras), ("model_fields_set", computed "set"),
    ("model_config", constant (.object [("extra", .string "allow")])),
    ("model_fields", foreign "FieldInfo"), ("model_computed_fields", constant (.object [])),
    ("mro", reserved), ("register", reserved)]

/-- What a name stands for. -/
def ofName? (name : Text) : Option Attribute :=
  if operations.contains name then some operation else others.lookup name

/-- Nothing can be set in its place. -/
def isComputed : Attribute → Bool
  | extras | computed _ => true
  | _ => false

end Attribute

namespace Manifest

/-- A value under a name that stands for something else. -/
def hide (m : Manifest) (name : Text) (value : Json) : Manifest :=
  { m with hidden := m.hidden.put name value }

/-- A manifest in which an attribute has a value. -/
def set (m : Manifest) (name : Text) (value : Json) : Except AttributeFault Manifest :=
  match Attribute.ofName? name with
  | some found => if found.isComputed then .error (.noSetter name) else .ok (m.hide name value)
  | none =>
    if name.head? = some (CodePoint.ofChar '_') then .ok (m.hide name value)
    else
      match Field.ofName? name with
      | some field => .ok (m.setField field value)
      | none => .ok { m with extras := m.extras.put name value }

/-- The value of an attribute that is no member, unless a value hides it. -/
def special? (m : Manifest) (name : Text) : Option (Except AttributeFault Json) :=
  match m.hidden.get? name, Attribute.ofName? name with
  | some value, _ => some (.ok value)
  | none, some .extras => some (.ok (.object m.extras))
  | none, some (.computed type) => some (.error (.notJson type))
  | none, some .operation => some (.error (.notJson "method"))
  | none, some (.constant value) => some (.ok value)
  | none, some (.foreign type) => some (.error (.notJson type))
  | none, _ => none

/-- The value of an attribute; a field that was never given is null. -/
def valueOf (m : Manifest) (name : Text) : Except AttributeFault Json :=
  match m.special? name, Field.ofName? name with
  | some outcome, _ => outcome
  | none, some f => .ok (m.field f)
  | none, none =>
    match m.extras.get? name with
    | some value => .ok value
    | none => .error (.unknown name)

/-- Operations with these names can be used. -/
def offers (m : Manifest) (names : List Text) : Except AttributeFault Unit :=
  match names.findSome? m.hidden.get? with
  | some value => .error (.notCallable value.typeName)
  | none => .ok ()

/-- The JSON object that writes a manifest, by the operations for that. -/
def data (m : Manifest) : Except AttributeFault Members := do
  m.offers ["toData", "model_dump"]
  return m.members

/-- The value of a name, or another one where the manifest has none, by the operations for that. -/
def look (m : Manifest) (name : Text) (default : Json) : Except AttributeFault Json := do
  m.offers ["get", "toData", "model_dump"]
  return m.get name default

/-- Whether the identifier is valid, by the operation for that. -/
def validity (m : Manifest) : Except AttributeFault Bool := do
  m.offers ["hasValidAppID"]
  return m.hasValidId

end Manifest
end GameArchive
