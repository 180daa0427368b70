import GameArchive.Import.Scan
import GameArchive.Package.Resources
import GameArchive.Script.Walk

/-!
# Scripts of an archive

Scripts are read, walked and written again, and their imports are seen from the module that their
place below the shared directory gives them.
-/

namespace GameArchive
namespace Package

open Operation

def scriptLogger : String := "gamepack.packs.scripts"

def importLogger : String := "gamepack.imports.parser"

/-- Why a walk has ended early, as a failure. -/
def haltCause : Script.Halt Text → Failure
  | .visitor message => .visitor message
  | .strayTemplate => .strayTemplate
  | .longNumber => .longNumber

/-- Walks a text. A text that cannot be parsed is noted. -/
def walkText {σ : Type} (visitor : Script.Visitor σ Text) (memory : σ) (code : Text) :
    Operation (Script.Walk σ) := do
  match Script.walk visitor memory code with
  | .error halt => throw (haltCause halt)
  | .ok w =>
    match w.refusal with
    | some refusal =>
      log .debug scriptLogger
        (Text.ofString "Passing script through unchanged: " ++ Script.parseFailure refusal)
    | none => pure ()
    return w

/-- Reads a script and walks it. -/
def walkScript {σ : Type} (visitor : Script.Visitor σ Text) (memory : σ) (file : Text) :
    Operation (Script.Walk σ) := do
  setContext "script" (.string file)
  walkText visitor memory (← readText (Path.ofText file))

/-- Walks a script and writes it as the visitor has left it. -/
def rewriteScript {σ : Type} (visitor : Script.Visitor σ Text) (memory : σ) (file : Text) :
    Operation (Script.Walk σ) := do
  let w ← walkScript visitor memory file
  writeText (Path.ofText file) w.code
  return w

/-- The module that a script is, seen from the shared directory: the names on the way to it with
dots between them, the last one without its ending. -/
def moduleName (fs : FileSystem) (shared script : Path) : Except Failure Text := do
  let place ← (fs.resolve script).mapError FileSystem.Failure.cause
  let base ← (fs.resolve shared).mapError FileSystem.Failure.cause
  match place.below? base with
  | none => .error (.outside place base)
  | some names =>
    match Path.withSuffix? ⟨.relative, names⟩ [] with
    | none => .error (.emptyName ⟨.relative, names⟩)
    | some p => return Text.join "." p.names

/-- The module that a script is. -/
def moduleNameFor (script : Path) : Operation Text := do
  let shared := (← knownPaths).shared
  match moduleName (← get).files shared script with
  | .ok name => return name
  | .error failure => throw failure

/-- The imports of a text. Lines that look like imports and are none are noted if that is asked for,
by the call or else by the settings. -/
def parseImports (base : Text) (strict : Option Bool) (masked : Bool) (code : Text) :
    Operation (List Import.Record) := do
  let scan := if masked then Import.scanMasked base code else Import.scan base code
  let isStrict ← match strict with
    | some strict => pure strict
    | none => pure (← Configuration.current).strictImports
  if isStrict then scan.unmatched.forM fun u => log .warning importLogger u.warning
  return scan.records

/-- The imports of a script. -/
def scriptImports (script : Path) : Operation (List Import.Record) := do
  let code ← readText script
  parseImports (← moduleNameFor script) none false code

/-- Imports by modules. A module that comes again keeps its place. -/
abbrev ImportTable := List (Text × List Import.Record)

def ImportTable.put : ImportTable → Text → List Import.Record → ImportTable
  | [], name, records => [(name, records)]
  | (k, v) :: rest, name, records =>
    if k = name then (k, records) :: rest else (k, v) :: put rest name records

/-- The imports of all scripts. -/
def allImports : Operation ImportTable := do
  let iterator ← openScripts
  let files := (← get).files
  Listing.overEntries (fun e table => do
    let name ← moduleNameFor e.path
    return ImportTable.put table name (← scriptImports e.path)) (iterator files) []

end Package
end GameArchive
