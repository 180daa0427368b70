import GameArchive.Json.Basic

/-!
# Manifests

The manifest of a game archive is any JSON object. The conventional names are fields, whatever their
values, and all other members are kept beside them. A field that was never given stays out of the
object that a manifest is written as, which has the fields first, in their own order.
-/

namespace GameArchive

/-- The conventional names. -/
inductive Field where
  | appId
  | shortName
  | title
  | studio
  | supportedOrientations
  | defaultLang
  | addons
deriving DecidableEq

namespace Field

def all : List Field :=
  [appId, shortName, title, studio, supportedOrientations, defaultLang, addons]

def name : Field → Text
  | appId => "appID"
  | shortName => "shortName"
  | title => "title"
  | studio => "studio"
  | supportedOrientations => "supportedOrientations"
  | defaultLang => "defaultLang"
  | addons => "addons"

/-- The field of a name. -/
def ofName? (name : Text) : Option Field := all.find? fun field => field.name = name

end Field

/-- Fields that have a value, and the members that are no fields. -/
structure Manifest where
  value : Field → Option Json
  extras : Members
  /-- Values that have been set under names which no member can be set under. -/
  hidden : Members

namespace Manifest

/-- The manifest that a JSON object writes. -/
def ofMembers (members : Members) : Manifest where
  value field := members.get? field.name
  extras := members.filter fun (name, _) => (Field.ofName? name).isNone
  hidden := []

/-- The fields that have a value, in their own order. -/
def fieldMembers (m : Manifest) : Members :=
  Field.all.filterMap fun field => (m.value field).map fun value => (field.name, value)

/-- The JSON object that writes a manifest. -/
def members (m : Manifest) : Members := m.fieldMembers ++ m.extras

/-- A manifest in which a field has a value. -/
def setField (m : Manifest) (field : Field) (value : Json) : Manifest :=
  { m with value := fun other => if other = field then some value else m.value other }

/-- The value of a name, or another one where the manifest has none. -/
def get (m : Manifest) (name : Text) (default : Json) : Json :=
  (Members.get? m.members name).getD default

/-- The value of a field, null where it has none. -/
def field (m : Manifest) (f : Field) : Json := (m.value f).getD .null

/-- A text that is not empty can identify an archive. -/
def isValidId : Json → Bool
  | .string t => !t.isEmpty
  | _ => false

def hasValidId (m : Manifest) : Bool := isValidId (m.field .appId)

end Manifest
end GameArchive
