import GameArchive.Json.Basic

/-!
# Settings

What a user may set, in four sections. A section or a setting that is left out has its default.
-/

namespace GameArchive

structure Settings where
  /-- The ending of script files. -/
  scriptExtension : Text
  /-- Listings go into directories that are links. -/
  allowSymlinks : Bool
  imageExtensions : List Text
  soundExtensions : List Text
  configExtensions : List Text
  /-- Unmatched import statements are reported. -/
  strictImports : Bool
  /-- Debug records are logged. -/
  devMode : Bool
  /-- The file of the log. -/
  logFile : Option Text
deriving DecidableEq

namespace Settings

def default : Settings where
  scriptExtension := "js"
  allowSymlinks := false
  imageExtensions := ["png", "jpg", "jpeg", "bmp", "gif"].map Text.ofString
  soundExtensions := ["mp3", "ogg"].map Text.ofString
  configExtensions := ["json"].map Text.ofString
  strictImports := false
  devMode := true
  logFile := none

def texts (items : List Text) : Json := .array (items.map .string)

/-- An object with the given members. -/
def group (members : List (String × Json)) : Json :=
  .object (members.map fun (name, value) => (Text.ofString name, value))

/-- All settings by section and name. -/
def json (s : Settings) : Json :=
  group [
    ("scripts", group [("extension", .string s.scriptExtension)]),
    ("listing", group [
      ("allowSymlinks", .bool s.allowSymlinks),
      ("imageExtensions", texts s.imageExtensions),
      ("soundExtensions", texts s.soundExtensions),
      ("configExtensions", texts s.configExtensions)]),
    ("imports", group [("strict", .bool s.strictImports)]),
    ("logging", group [
      ("devMode", .bool s.devMode),
      ("file", match s.logFile with
        | some file => .string file
        | none => .null)])]

/-- What names lead to inside a value; an empty name leads nowhere. -/
def descend : Json → List Text → Option Json
  | value, [] => some value
  | .object members, name :: rest =>
    if name.isEmpty then none
    else match Members.get? members name with
      | some value => descend value rest
      | none => none
  | _, _ :: _ => none

/-- The setting under names with dots between them. -/
def lookup (s : Settings) (path : Text) : Option Json := descend s.json (path.split '.')

/-- The same, or another value where nothing is set. -/
def get (s : Settings) (path : Text) (default : Json) : Json :=
  match s.lookup path with
  | none => default
  | some .null => default
  | some value => value

/-- The truth of a setting, or another value where nothing is set. -/
def getBool (s : Settings) (path : Text) (default : Json) : Json :=
  match s.get path .null with
  | .null => default
  | value => .bool value.holds

end Settings
end GameArchive
