import GameArchive.FileSystem.Atomic
import GameArchive.Json.Reader
import GameArchive.Log.Message
import GameArchive.Manifest.Attribute
import GameArchive.Settings.Validation
import GameArchive.Value.Exception
import GameArchive.Value.Table

/-!
# Failures

Every cause for which an operation on an archive ends without an answer, and the one text of each.
-/

namespace GameArchive

/-- Why the content of a manifest file is no manifest. -/
inductive ManifestFault where
  | decode (fault : Utf8.DecodeFault)
  | read (e : Json.ReadError)
  | notObject (type : Text)
deriving DecidableEq

/-- Why a settings file cannot be used. -/
inductive SettingsFault where
  | unreadable
  | notObject (type : Text)
  | invalid (issues : List Validation.Issue)
deriving DecidableEq

inductive Failure where
  | file (fault : FileSystem.Fault)
  /-- A path with the character that has number zero. -/
  | embeddedNull
  | symlinkLoop (path : Path)
  | encode (fault : Utf8.EncodeFault)
  | decode (fault : Utf8.DecodeFault)
  /-- A path without a last name. -/
  | emptyName (path : Path)
  /-- A path that does not lie below another one. -/
  | outside (path base : Path)
  /-- No archive is at the root, or there is no root. -/
  | noArchive (root : Option Text)
  /-- An archive without paths is asked for something on disk. -/
  | noPaths
  | manifest (path : Path) (contents : Text) (fault : ManifestFault)
  /-- A value that does not fit a model. -/
  | validation (model : Text) (issues : List Validation.Issue)
  /-- A value that makes no table is used as one. -/
  | table (fault : Table.Fault)
  | access (fault : AttributeFault)
  /-- A value that has no text. -/
  | value (fault : Value.Fault)
  | settings (path : Path) (fault : SettingsFault)
  /-- A message that cannot be made of its values. -/
  | format (e : Log.FormatError)
  /-- A visitor of a script ends the walk. -/
  | visitor (message : Text)
  /-- A template in a script starts in its middle. -/
  | strayTemplate
  /-- A number has too many digits to be written, or to be named where it does not belong in a
  script. -/
  | longNumber
deriving DecidableEq

namespace FileSystem

/-- The error number, what it means, and the paths. -/
def Fault.message (fault : Fault) : Text :=
  "[Errno " ++ Text.ofNat fault.errno.number ++ "] " ++
    Text.ofString fault.errno.description ++ ": " ++
    Text.shown fault.path.text ++
    match fault.target with
    | some target => Text.ofString " -> " ++ Text.shown target.text
    | none => []

def Failure.cause : FileSystem.Failure → GameArchive.Failure
  | .file fault => .file fault
  | .embeddedNull => .embeddedNull
  | .encode fault => .encode fault
  | .symlinkLoop path => .symlinkLoop path

end FileSystem

def AtomicWrite.Failure.cause : AtomicWrite.Failure → GameArchive.Failure
  | .file failure => failure.cause
  | .encode fault => .encode fault
  | .emptyName path => .emptyName path

def ManifestFault.message : ManifestFault → Text
  | .decode fault => fault.message
  | .read e => e.message
  | .notObject type => "expected a JSON object, got '" ++ type ++ "'"

def SettingsFault.message (path : Path) : SettingsFault → Text
  | .unreadable => "Failed to parse settings file '" ++ path.text ++ "'"
  | .notObject type =>
    "Settings file '" ++ path.text ++ "' must contain an object, not '" ++ type ++ "'"
  | .invalid _ => "Invalid settings in '" ++ path.text ++ "'"

namespace Failure

def message : Failure → Text
  | file fault => fault.message
  | embeddedNull => "embedded null byte"
  | symlinkLoop path => "Symlink loop from " ++ Text.shown path.text
  | encode fault => fault.message
  | decode fault => fault.message
  | emptyName path => "PosixPath(" ++ Text.shown path.text ++ ") has an empty name"
  | outside path base =>
    Text.shown path.text ++ " is not in the subpath of " ++ Text.shown base.text ++
      " OR one path is relative and the other is absolute."
  | noArchive root => noArchiveMessage (root.getD ("None" : Text))
  | noPaths => "Package paths are not initialized; call initPaths() or load() first"
  | manifest path _ fault => manifestMessage path.text fault.message
  | validation model issues => Validation.report [] model issues
  | table fault => fault.message
  | access fault => fault.message
  | value fault => fault.message
  | settings path fault => fault.message path
  | format e => e.message
  | visitor message => message
  | strayTemplate => "Template literal must start with a template head"
  | longNumber => Value.longIntegerMessage

end Failure
end GameArchive
