import GameArchive.Json.Relaxed
import GameArchive.Session.Basic

/-!
# Configuration

Settings come from a file that is named in a call or by the environment, or from the usual file in
the working directory; without a file all have their defaults. They are loaded when they are first
needed and kept then.
-/

namespace GameArchive
namespace Configuration

open Operation

def logger : String := "gamepack.config.settings"

/-- The settings file in the working directory. -/
def usualName : Text := "gamepack.json5"

/-- Names the settings file in the environment, or none. -/
def setEnvironment (name : Option Text) : Operation Unit := do
  match name.bind FileSystem.nameFailure? with
  | some failure => throw failure.cause
  | none => modify fun s => { s with environment := name }

/-- The file that settings are read from, if there is one. -/
def file? (path : Option Text) : Operation (Option Path) := do
  let s ← get
  match path, s.environment with
  | some path, _ => return some (Path.ofText path)
  | none, some (c :: name) => return some (Path.ofText (c :: name))
  | none, _ =>
    let usual := (FileSystem.pathOf s.files.current).child usualName
    if ← ask (·.isFile usual) then return some usual else return none

/-- The settings that a text in relaxed notation writes. Null stands for the empty object. -/
def ofText (text : Text) : Except SettingsFault Settings :=
  match Json.relaxed? text with
  | none => .error .unreadable
  | some .null => (Settings.ofMembers []).mapError .invalid
  | some (.object members) => (Settings.ofMembers members).mapError .invalid
  | some other => .error (.notObject other.typeName)

/-- Reads settings. -/
def load (path : Option Text) : Operation Settings := do
  match ← file? path with
  | none =>
    log .debug logger "No settings file found, using defaults"
    return Settings.default
  | some file =>
    match ofText (← readText file) with
    | .error fault => throw (.settings file fault)
    | .ok settings =>
      log .debug logger ("Loaded settings from '" ++ file.text ++ "'")
      return settings

def install (settings : Settings) : Operation Unit :=
  modify fun s => { s with settings := some settings }

/-- Reads settings and keeps them. -/
def loadAndInstall (path : Option Text) : Operation Settings := do
  let settings ← load path
  install settings
  return settings

/-- The settings in use. -/
def current : Operation Settings := do
  match (← get).settings with
  | some settings => return settings
  | none => loadAndInstall none

def reset : Operation Unit := modify fun s => { s with settings := none }

end Configuration
end GameArchive
