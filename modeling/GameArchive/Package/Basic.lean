import GameArchive.Manifest.Defaults
import GameArchive.Manifest.Store
import GameArchive.Value.Build

/-!
# Archives

An archive is a directory with a manifest. Loading one finds its paths and reads its manifest. The
manifest is kept in memory before it is written, so after a write that fails the two differ.
-/

namespace GameArchive
namespace Package

open Operation

/-- An archive is at a root if the root is a directory with a manifest file. -/
def isAt (fs : FileSystem) (root : Text) : Except FileSystem.Failure Bool :=
  if root.isEmpty then .ok false
  else do
    if ← fs.isDirectory (Path.ofText root) then
      fs.isFile ((Path.ofText root).child Paths.manifestName)
    else return false

/-- The paths of the archive at a root, if there is one. -/
def pathsAt (root : Option Text) : Operation Paths := do
  let place := root.getD []
  if ← ask fun fs => isAt fs place then
    return ⟨← ask (·.resolve (Path.ofText place))⟩
  else throw (.noArchive root)

/-- Sets the paths of the archive. -/
def initPaths (root : Option Text) : Operation Unit := do
  let paths ← pathsAt root
  setPackage { ← package with paths := some paths }

/-- What an archive is called: by its short name or else its identifier. -/
def idOf (m : Manifest) : Json :=
  if (m.field .shortName).holds then m.field .shortName else m.field .appId

def id (p : Package) : Json :=
  match p.manifest with
  | some m => idOf m
  | none => .null

/-- Sets an attribute of the manifest. -/
def setAttribute (name : Text) (value : Json) : Operation Unit := do
  match (← package).manifest with
  | some m => setManifest (← settle ((m.set name value).mapError .access))
  | none => throw (.access (.absent (Json.typeName .null) name))

/-- Reads the manifest of the archive. -/
def readManifest : Operation Manifest := do
  let m ← Manifest.read (← knownPaths).manifest
  setManifest m
  setContext "packageId" (idOf m)
  return m

/-- Loads the archive at a root in place of the archive at hand, whose paths are replaced even if
the manifest cannot be read. -/
def load (root : Option Text) : Operation Unit := do
  initPaths root
  discard readManifest

/-- Loads the archive at a root into a new archive, which takes the place of the one at hand unless
it cannot be loaded. -/
def loadNew (root : Option Text) : Operation Unit := do
  let before ← package
  setPackage .empty
  tryCatch (load root) fun failure => do
    setPackage before
    throw failure

/-- The same, but nothing is known of an archive that is made without a root. -/
def create (root : Option Text) : Operation Unit :=
  if (root.getD []).isEmpty then setPackage .empty else loadNew root

/-- Keeps a manifest, if there is one, and writes it. -/
def save (found : Except Failure Manifest) : Operation Manifest := do
  let paths ← knownPaths
  let m ← settle found
  setManifest m
  Manifest.write paths.manifest m
  return m

/-- Saves the manifest of a JSON object. -/
def saveManifest (members : Members) : Operation Manifest :=
  save (Manifest.ofTable? (Table.putAll [] members))

/-- Saves the manifest with all defaults that it lacks. -/
def populateManifest (options : Manifest.Options) : Operation Manifest := do
  let existing ← match (← package).manifest with
    | some m => settle (m.data.mapError .access)
    | none => pure []
  let id ← newIdentifier
  saveManifest (Manifest.applyDefaults existing (Manifest.defaults id options))

/-- The value of a name in the manifest, or another one where there is none. -/
def manifestKey (p : Package) (name : Text) (default : Json) : Except AttributeFault Json :=
  match p.manifest with
  | some m => m.look name default
  | none => .ok default

/-- The configuration of addons, the empty object where there is none. -/
def addons (p : Package) : Except AttributeFault Json := do
  let found ← p.manifestKey Field.addons.name .null
  return if found.holds then found else .object []

def defaultLanguage (p : Package) : Except AttributeFault Json :=
  p.manifestKey Field.defaultLang.name (Manifest.string "en")

/-- What is known of an archive. -/
def summary (p : Package) : Except Failure Json := do
  let data ← match p.manifest with
    | some m => (Json.object <$> m.data).mapError .access
    | none => pure .null
  let pathsJson := match p.paths with
    | some paths => .object (paths.named.map fun (name, path) =>
        (Text.ofString name, Json.string path.text))
    | none => .null
  let id ← (Builder.textOf p.id).mapError .value
  return .object [
    ("id", p.id),
    ("paths", pathsJson),
    ("manifest", data),
    ("title", match p.manifest with
      | some m => m.field .title
      | none => .null),
    ("url", .string ("/simulate/" ++ id ++ "/"))]

/-- The archive by its root. -/
def description (p : Package) : Text :=
  let root : Text := match p.paths with
    | some paths => Text.shown paths.root.text
    | none => "None"
  "GamePackage(" ++ root ++ ")"

end Package
end GameArchive
