import GameArchive.FileSystem.Change
import GameArchive.Log.Record

/-!
# Journals

A journal takes records. Until it is given outputs it keeps the messages of warnings and worse ones.
With outputs it writes every record that is grave enough to a console, and to a file if there is
one. Of other loggers only the messages of warnings and worse ones go to the console. A record that
cannot be written is left out.
-/

namespace GameArchive
namespace Log

/-- Where records go, and how grave they must be. -/
structure Outputs where
  level : Level
  /-- The number of a file that is open for appending. -/
  file : Option Nat

structure Journal where
  /-- The objects of the context and of the values that are logged. -/
  heap : Heap
  context : Option Context
  outputs : Option Outputs
  console : Text
  warnings : List Text

namespace Journal

def empty : Journal := ⟨[], none, none, [], []⟩

/-- The name above all loggers. -/
def rootName : Text := "gamepack"

/-- A logger that this journal hears: the one above all, or one below it. -/
def hears (logger : Text) : Bool :=
  logger = rootName || (Text.ofString "gamepack.").isPrefixOf logger

/-- A record of a warning, or of something worse. -/
def isGrave (r : Record) : Bool := Level.warning.number ≤ r.level.number

/-- Keeps the message of a warning. One that cannot be made is a fault of whoever logs it. -/
def keep (journal : Journal) (r : Record) : Except FormatError Journal :=
  if isGrave r then
    (r.message journal.heap).map fun message =>
      { journal with warnings := journal.warnings ++ [message] }
  else .ok journal

/-- Writes a line to the console, unless it could not be made. -/
def writeConsole (journal : Journal) (line : Except FormatError Text) : Journal :=
  match line with
  | .ok line => { journal with console := journal.console ++ line ++ Text.ofString "\n" }
  | .error _ => journal

def writeFile (journal : Journal) (fs : FileSystem) (file : Nat) (r : Record) : FileSystem :=
  match (r.json id journal.heap journal.context).1 with
  | .ok line =>
    match Utf8.encode (line ++ Text.ofString "\n") with
    | .ok bytes => fs.append file bytes
    | .error _ => fs
  | .error _ => fs

/-- Takes a record. -/
def add (journal : Journal) (fs : FileSystem) (r : Record) :
    Except FormatError (Journal × FileSystem) :=
  if !hears r.logger then
    .ok (if isGrave r then journal.writeConsole (r.message journal.heap) else journal, fs)
  else
    match journal.outputs with
    | none => (journal.keep r).map (·, fs)
    | some outputs =>
      if r.level.number < outputs.level.number then .ok (journal, fs)
      else
        .ok (journal.writeConsole (r.line journal.heap journal.context),
          match outputs.file with
          | some file => journal.writeFile fs file r
          | none => fs)

/-- Sets a value of the context. Null sets nothing. -/
def set (journal : Journal) (name : Text) (value : Json) : Journal :=
  let (v, b) := (Builder.ofHeap journal.heap).json value
  { journal with heap := b.heap, context := some (Context.set journal.context [(name, v)]) }

/-- The context as a JSON value, with the heap that is left of it; null if nothing has been set. -/
def contextJson (journal : Journal) : Except Value.Fault Json × Heap :=
  match journal.context with
  | none => (.ok .null, journal.heap)
  | some context =>
    let (v, b) := context.object journal.heap
    Value.json id b.heap (some Value.defaultLimit) v

end Journal
end Log
end GameArchive
