import GameArchive.Package.Resources

/-!
# Translations

One file of JSON for each language, below the resources.
-/

namespace GameArchive
namespace Package

open Operation

def translationLogger : String := "gamepack.packs.package"

/-- The file of a language. -/
def translationFile (paths : Paths) (language : Text) : Path :=
  paths.lang.join (Path.ofText (language ++ ".json"))

/-- What a translation file gives. -/
inductive Translation where
  | table (value : Json)
  | missing
  /-- The file holds no JSON text. -/
  | broken (problem : Text)
  | failure (f : Failure)

/-- The translation in a file. -/
def translationIn (fs : FileSystem) (file : Path) : Translation :=
  match fs.read file with
  | .error (.file ⟨.noEntry, _, _⟩) => .missing
  | .error .embeddedNull => .broken Failure.embeddedNull.message
  | .error (.encode fault) => .broken fault.message
  | .error failure => .failure failure.cause
  | .ok bytes =>
    match Utf8.decode bytes with
    | .error fault => .broken fault.message
    | .ok text =>
      match Json.parse (Text.unifyNewlines text) with
      | .error e => .broken e.message
      | .ok value => .table value

/-- The translation for a language, null where there is none. -/
def translation (language : Text) : Operation Json := do
  let file := translationFile (← knownPaths) language
  match translationIn (← get).files file with
  | .table value => return value
  | .missing => return .null
  | .broken problem =>
    log .warning translationLogger
      ("Failed to read translation '" ++ file.text ++ "': " ++ problem)
    return .null
  | .failure failure => throw failure

/-- Writes the translation for a language. -/
def saveTranslation (language : Text) (value : Json) : Operation Unit := do
  let paths ← knownPaths
  ensureDirectory paths.lang
  writeJson (translationFile paths language) value

/-- Removes the translation for a language. -/
def removeTranslation (language : Text) : Operation Unit := do
  let file := translationFile (← knownPaths) language
  change (·.unlink file)

/-- All translation files. -/
def translations : Operation (List Listing.Entry) := do
  Listing.files (← knownPaths).lang (Settings.texts [Text.ofString "json"])

end Package
end GameArchive
