import GameArchive.Session.Configuration

/-!
# Logging

Logging is configured by the settings: what is logged, and the file of the log if there is one.
-/

namespace GameArchive
namespace Logging

open Operation

/-- Opens a file for appending, and answers its number. -/
def openLog (file : Text) : Operation Nat := do
  let p := (← get).files.absolute (Path.ofText file)
  let (files, number) ← ask (·.openFile true p)
  modify fun s => { s with files := files }
  return number

def setOutputs (outputs : Log.Outputs) : Operation Unit :=
  modify fun s => { s with journal := { s.journal with outputs := some outputs } }

/-- Gives the journal its outputs. The console is there even if the file cannot be opened. -/
def configure : Operation Log.Outputs := do
  let settings ← Configuration.current
  let level : Log.Level := if settings.devMode then .debug else .info
  setOutputs ⟨level, none⟩
  match settings.logFile with
  | some (c :: name) =>
    let number ← openLog (c :: name)
    setOutputs ⟨level, some number⟩
    return ⟨level, some number⟩
  | _ => return ⟨level, none⟩

def clearContext : Operation Unit :=
  modify fun s => { s with journal := { s.journal with context := none } }

end Logging
end GameArchive
