import GameArchive.Failure
import GameArchive.Identifier
import GameArchive.Log.Journal
import GameArchive.Manifest.Basic
import GameArchive.Package.Paths
import GameArchive.Text.Lines

/-!
# Sessions

What the operations on an archive work on: the file system, the settings, the journal, the number of
identifiers that have been given out, and the archive itself. An operation that fails keeps what it
has changed before.
-/

namespace GameArchive

/-- An archive, as far as it has been loaded. -/
structure Package where
  paths : Option Paths
  manifest : Option Manifest

namespace Package

/-- An archive of which nothing is known. -/
def empty : Package := ⟨none, none⟩

end Package

structure Session where
  files : FileSystem
  /-- The settings file that the environment names. -/
  environment : Option Text
  /-- The settings, once they have been needed. -/
  settings : Option Settings
  journal : Log.Journal
  /-- How many identifiers have been given out. -/
  identifiers : Nat
  package : Package

/-- An operation on a session. -/
abbrev Operation := EStateM Failure Session

namespace Session

/-- A session with a file system, before anything has happened. -/
def start (files : FileSystem) : Session where
  files := files
  environment := none
  settings := none
  journal := .empty
  identifiers := 0
  package := .empty

end Session

namespace Operation

/-- What has an outcome already. -/
def settle {α : Type} : Except Failure α → Operation α
  | .ok answer => return answer
  | .error failure => throw failure

/-- Asks the file system. -/
def ask {α : Type} (question : FileSystem → Except FileSystem.Failure α) : Operation α := do
  settle ((question (← get).files).mapError FileSystem.Failure.cause)

/-- Changes the file system. -/
def change (how : FileSystem → Except FileSystem.Failure FileSystem) : Operation Unit := do
  match how (← get).files with
  | .ok files => modify fun s => { s with files := files }
  | .error failure => throw failure.cause

/-- The path leads to a directory, made where it was missing. -/
def ensureDirectory (p : Path) : Operation Unit := do
  let (files, outcome) := (← get).files.ensureDirectory p
  modify fun s => { s with files := files }
  match outcome with
  | .ok () => return ()
  | .error failure => throw failure.cause

/-- Writes a text in place of what a file holds. -/
def writeText (p : Path) (text : Text) : Operation Unit := do
  let (files, outcome) := AtomicWrite.writeText (← get).files p text
  modify fun s => { s with files := files }
  match outcome with
  | .ok () => return ()
  | .error failure => throw failure.cause

/-- Writes a JSON value. It has no text if an integer in it has too many digits. -/
def writeJson (p : Path) (value : Json) : Operation Unit :=
  if value.hasLongInteger then throw .longNumber else writeText p value.indented

/-- The text of a file, with line feeds for all line ends. -/
def readText (p : Path) : Operation Text := do
  match Utf8.decode (← ask (·.read p)) with
  | .ok text => return Text.unifyNewlines text
  | .error fault => throw (.decode fault)

/-- Logs a message that is made of a template and values. -/
def logValues (level : Log.Level) (logger template : Text) (args : List Value) :
    Operation Unit := do
  let s ← get
  let record : Log.Record :=
    { level := level
      logger := logger
      template := template
      args := args
      created := .whole 0
      trace := none
      stack := [] }
  match s.journal.add s.files record with
  | .ok (journal, files) => set { s with journal := journal, files := files }
  | .error e => throw (.format e)

/-- Logs a message. -/
def log (level : Log.Level) (logger : String) (message : Text) : Operation Unit :=
  logValues level (Text.ofString logger) message []

/-- Sets a value of the context of the log. -/
def setContext (name : String) (value : Json) : Operation Unit :=
  modify fun s => { s with journal := s.journal.set name value }

/-- A new identifier. -/
def newIdentifier : Operation Text := do
  modify fun s => { s with identifiers := s.identifiers + 1 }
  return Identifier.ofNumber (← get).identifiers

def package : Operation Package := return (← get).package

def setPackage (p : Package) : Operation Unit := modify fun s => { s with package := p }

def setManifest (m : Manifest) : Operation Unit :=
  modify fun s => { s with package := { s.package with manifest := some m } }

/-- The paths of the archive. -/
def knownPaths : Operation Paths := do
  match (← package).paths with
  | some paths => return paths
  | none => throw .noPaths

end Operation
end GameArchive
