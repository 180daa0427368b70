import GameArchive.Manifest.Basic
import GameArchive.Session.Basic

/-!
# Manifest files

Reading a manifest file answers a manifest with a valid identifier: where there is none, a new one
is put in and the file is written again. Writing replaces the file as a whole.
-/

namespace GameArchive
namespace Manifest

open Operation

def logger : String := "gamepack.packs.manifest"

/-- How a manifest is called as a whole. -/
def model : Text := "Manifest"

/-- The place that a key stands for. An integer of 64 bits is an index. -/
def keyStep (key : Scalar) : Validation.Step :=
  let named : Validation.Step := match key.text with
    | .ok t => .name t
    | .error _ => .name (Validation.unprintable key.typeName)
  match key.integer? with
  | some n => if -(Int.pow 2 63) ≤ n ∧ n < Int.pow 2 63 then .index n else named
  | none => named

/-- The key of an entry is no text. -/
def keyIssue? (entry : Scalar × Json) : Option Validation.Issue :=
  match entry.1 with
  | .string _ => none
  | key => some (.about [keyStep key] .invalidKey key.json)

/-- The first key that no text in a file can hold, since there is a surrogate in it. -/
def unwritableKey? (t : Table) : Option Text :=
  t.findSome? fun (key, _) =>
    match key with
    | .string name => if name.any (·.isSurrogate) then some name else none
    | _ => none

/-- The manifest of a table that has texts for keys, none of which holds a surrogate. -/
def ofTable? (t : Table) : Except Failure Manifest :=
  match unwritableKey? t with
  | some name => .error (.validation model [.about [] .stringUnicode (.string name)])
  | none =>
    match t.filterMap keyIssue? with
    | [] => .ok (ofMembers t.members)
    | issues => .error (.validation model issues)

/-- The manifest that a JSON value makes. -/
def ofJson? (j : Json) : Except Failure Manifest := do
  ofTable? (← (Table.ofJson j).mapError .table)

/-- The manifest that the bytes of a file hold. -/
def ofBytes (file : Path) (bytes : Bytes) : Except Failure Manifest :=
  match Utf8.decode bytes with
  | .error fault => .error (.manifest file (Utf8.decodeLossy bytes) (.decode fault))
  | .ok contents =>
    match Json.parse contents with
    | .error e => .error (.manifest file contents (.read e))
    | .ok (.object members) => ofTable? (Table.putAll [] members)
    | .ok other => .error (.manifest file contents (.notObject other.typeName))

/-- Writes the members of a manifest. -/
def writeMembers (file : Path) (members : Members) : Operation Unit := do
  writeJson file (.object members)
  log .debug logger
    ("Saved manifest '" ++ file.text ++ "' (" ++ Text.ofNat members.length ++ " keys)")

/-- Writes the table that a JSON value makes. -/
def writeTable (file : Path) (j : Json) : Operation Unit := do
  let table ← settle ((Table.ofJson j).mapError .table)
  if table.hasLongKey then throw .longNumber else writeMembers file table.members

/-- Writes a manifest. -/
def write (file : Path) (m : Manifest) : Operation Unit := writeMembers file m.members

/-- A manifest with a valid identifier, which is written if it had to be put in. -/
def heal (file : Path) (m : Manifest) : Operation Manifest := do
  if m.hasValidId then return m
  else
    let id ← newIdentifier
    let healed := m.setField .appId (.string id)
    log .warning logger
      ("Manifest '" ++ file.text ++ "' had no valid appID, assigned '" ++ id ++ "'")
    write file healed
    return healed

/-- Reads a manifest. -/
def read (file : Path) : Operation Manifest := do
  heal file (← settle (ofBytes file (← ask (·.read file))))

end Manifest
end GameArchive
