import GameArchive.Listing.Traversal
import GameArchive.Session.Configuration

/-!
# Listing files

The listings of a session. A directory that does not exist is listed as if it were empty. Whether
links are followed is a setting, which is looked up when a listing is opened.
-/

namespace GameArchive
namespace Listing

open Operation

def logger : String := "gamepack.packs.listing"

/-- A listing that waits for its next step. -/
abbrev Iterator := FileSystem → Traversal

def logRemark : Remark → Operation Unit
  | .skipped p => log .debug logger ("Skipping symlinked directory '" ++ p.text ++ "'")
  | .loop p => log .warning logger ("Detected symlink loop while listing files: '" ++ p.text ++ "'")

def EndingsFault.cause : EndingsFault → Failure
  | .notIterable type => .table (.notIterable type)
  | .item fault => .value fault

/-- Opens a listing of the files below a directory that have the endings which are asked for. -/
def openAt (base : Path) (wanted : Json) : Operation Iterator := do
  if ← ask (·.isDirectory base) then
    match endings? wanted with
    | .error fault => throw fault.cause
    | .ok endings =>
      let settings ← Configuration.current
      return start ⟨endings, settings.allowSymlinks⟩ base
  else return fun _ => .done

/-- The next entry of a listing, none at its end, or why there is none; and the listing after it. -/
def next (iterator : Iterator) : Operation (Except Failure (Option Entry) × Iterator) := do
  let step := (iterator (← get).files).advance
  step.remarks.forM logRemark
  return (step.entry.mapError FileSystem.Failure.cause, step.rest)

/-- All entries of a listing. -/
def rest (iterator : Iterator) : Operation (List Entry) := do
  let files := (← get).files
  let outcome := (iterator files).finish files
  outcome.remarks.forM logRemark
  match outcome.failure with
  | some failure => throw failure.cause
  | none => return outcome.entries

/-- All files below a directory. -/
def files (base : Path) (wanted : Json) : Operation (List Entry) := do
  rest (← openAt base wanted)

/-- Goes through the entries of a listing that is under way, with a memory. -/
def overEntries {α : Type} (visit : Entry → α → Operation α) : Traversal → α → Operation α
  | .done, memory => return memory
  | .fail failure, _ => throw failure.cause
  | .remark r rest, memory => do
    logRemark r
    overEntries visit rest memory
  | .entry e rest, memory => do
    let memory ← visit e memory
    let s ← get
    overEntries visit (rest s.files) memory

end Listing
end GameArchive
