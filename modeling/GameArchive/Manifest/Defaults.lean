import GameArchive.Failure

/-!
# Defaults

A new archive starts with a manifest of defaults. Defaults never replace a member that is there.
-/

namespace GameArchive
namespace Manifest

/-- What is asked for a new manifest. -/
structure Options where
  shortName : Json
  title : Json

namespace Options

/-- Nothing is asked for: both names are empty. -/
def default : Options := ⟨.string [], .string []⟩

/-- The options among the members of an object. -/
def ofMembers (members : Members) : Options where
  shortName := (members.get? Field.shortName.name).getD (.string [])
  title := (members.get? Field.title.name).getD (.string [])

/-- The options that a JSON value gives, which are the default ones unless it is an object. -/
def ofJson : Json → Options
  | .object members => ofMembers members
  | _ => default

end Options

def string (s : String) : Json := .string (Text.ofString s)

def defaultStudio : Json :=
  .object [("name", string "Your Studio Name"), ("domain", string "studio.example.com"),
    ("stagingDomain", string "staging.example.com")]

def defaultOrientations : Json := .array [string "portrait", string "landscape"]

/-- The members of a new manifest. -/
def defaults (id : Text) (options : Options) : Members :=
  [(Field.appId.name, .string id),
    (Field.shortName.name, options.shortName),
    (Field.title.name, options.title),
    (Field.studio.name, defaultStudio),
    (Field.supportedOrientations.name, defaultOrientations)]

/-- The defaults, replaced by what is there already, and what else is there behind them. -/
def applyDefaults (existing defaults : Members) : Members := defaults.putAll existing

/-- The same for JSON values. The defaults can be any that make a table, and what is there already
must be an object. -/
def mergeDefaults (existing defaults : Json) : Except Failure Table := do
  let t ← (Table.ofJson defaults).mapError .table
  match existing with
  | .object members => return t.putAll members
  | other => throw (.access (.absent other.typeName "items"))

end Manifest
end GameArchive
