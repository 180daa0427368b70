import GameArchive.FileSystem.Lookup

/-!
# Changing a file system

Each change answers the new file system or the failure, and a change that fails leaves everything as
it was; only the directories above a new one are made one by one.
-/

namespace GameArchive
namespace FileSystem

/-- Opens a file for writing: it is there afterwards, and empty unless it is to keep what it holds.
The number of the file is answered too. -/
def openFile (fs : FileSystem) (keep : Bool) (p : Path) : Except Failure (FileSystem × Nat) :=
  taking p <|
    match fs.lookup true p with
    | .ok (.found _ (.file number _)) =>
      .ok (if keep then fs else fs.edit number fun _ => [], number)
    | .ok (.found _ _) => .error (.file ⟨.isDirectory, p, none⟩)
    | .ok (.free location) => .ok (fs.putFile location)
    | .error e => .error (.file ⟨e, p, none⟩)

/-- Opens a file for writing: it is there and empty afterwards. -/
def create (fs : FileSystem) (p : Path) : Except Failure (FileSystem × Nat) := fs.openFile false p

/-- Writes behind what an open file holds. Where it has been removed, nothing happens. -/
def append (fs : FileSystem) (number : Nat) (bytes : Bytes) : FileSystem :=
  fs.edit number (· ++ bytes)

/-- Writes over what an open file holds, from its start on. -/
def overwrite (fs : FileSystem) (number : Nat) (bytes : Bytes) : FileSystem :=
  fs.edit number fun content => bytes ++ content.drop bytes.length

/-- The file holds exactly these bytes. -/
def write (fs : FileSystem) (p : Path) (bytes : Bytes) : Except Failure FileSystem :=
  (fs.create p).map fun (fs, number) => fs.overwrite number bytes

/-- Removes a file or link. -/
def unlink (fs : FileSystem) (p : Path) : Except Failure FileSystem :=
  taking p <|
    match fs.lookup false p with
    | .ok (.found _ .directory) => .error (.file ⟨.isDirectory, p, none⟩)
    | .ok (.found location _) => .ok (fs.erase location)
    | .ok (.free _) => .error (.file ⟨.noEntry, p, none⟩)
    | .error e => .error (.file ⟨e, p, none⟩)

/-- Removes a file or link if it is there. -/
def discard (fs : FileSystem) (p : Path) : Except Failure FileSystem :=
  match fs.unlink p with
  | .error (.file ⟨.noEntry, _, _⟩) => .ok fs
  | other => other

/-- Where a file or link that is moved goes. Two dots are no name that can be given. -/
def replaceable (fs : FileSystem) (p : Path) : Except Errno Location :=
  match fs.lookup false p with
  | .ok (.found _ .directory) => .error (if isUp p.name then .busy else .isDirectory)
  | .ok (.found location _) => .ok location
  | .ok (.free location) => .ok location
  | .error e => .error e

/-- The node is a file, and the one at the location. -/
def isFileAt (fs : FileSystem) (location : Location) (node : Node) : Bool :=
  node matches .file .. && fs.get? location = some node

/-- Moves a file or link to another path, in place of the file or link there. A file that has this
path as a name already is left with all its names. -/
def replace (fs : FileSystem) (p target : Path) : Except Failure FileSystem :=
  taking p <| taking target <|
    match fs.lookup false p with
    | .ok (.found location node) =>
      match fs.replaceable target with
      | .ok goal =>
        .ok (if location = goal ∨ fs.isFileAt goal node then fs
          else (fs.erase location).put goal node)
      | .error e => .error (.file ⟨e, p, some target⟩)
    | .ok (.free _) => .error (.file ⟨.noEntry, p, some target⟩)
    | .error e => .error (.file ⟨e, p, some target⟩)

def makeDirectory (fs : FileSystem) (p : Path) : Except Failure FileSystem :=
  taking p <|
    match fs.lookup false p with
    | .ok (.found _ _) => .error (.file ⟨.fileExists, p, none⟩)
    | .ok (.free location) => .ok (fs.put location .directory)
    | .error e => .error (.file ⟨e, p, none⟩)

/-- That a directory cannot be made is no failure if it is there already. -/
def unlessDirectory (fs : FileSystem) (p : Path) (failure : Failure) : Except Failure Unit := do
  if ← fs.isDirectory p then .ok () else .error failure

/-- Makes a directory and those above it where they are missing; the first argument is the number of
names of the path. Directories that were made before a failure stay. -/
def makeDirectories : (names : Nat) → FileSystem → Path → FileSystem × Except Failure Unit
  | names, fs, p =>
    match fs.makeDirectory p with
    | .ok fs => (fs, .ok ())
    | .error (.file ⟨.noEntry, path, target⟩) =>
      match names with
      | 0 => (fs, .error (.file ⟨.noEntry, path, target⟩))
      | names + 1 =>
        match makeDirectories names fs p.parent with
        | (fs, .error failure) => (fs, .error failure)
        | (fs, .ok ()) =>
          match fs.makeDirectory p with
          | .ok fs => (fs, .ok ())
          | .error (.file ⟨.noEntry, path, target⟩) => (fs, .error (.file ⟨.noEntry, path, target⟩))
          | .error failure => (fs, fs.unlessDirectory p failure)
    | .error (.file fault) => (fs, fs.unlessDirectory p (.file fault))
    | .error failure => (fs, .error failure)

/-- The path leads to a directory, made where it was missing. -/
def ensureDirectory (fs : FileSystem) (p : Path) : FileSystem × Except Failure Unit :=
  makeDirectories p.names.length fs p

/-- Makes a link. -/
def link (fs : FileSystem) (p : Path) (target : Text) : Except Failure FileSystem :=
  taking (Path.ofText target) <| taking p <|
  if isLongPath (Path.ofText target) then .error (.file ⟨.nameTooLong, Path.ofText target, some p⟩)
  else match fs.lookup false p with
  | .ok (.found _ _) => .error (.file ⟨.fileExists, Path.ofText target, some p⟩)
  | .ok (.free location) => .ok (fs.put location (.link (Utf8.entryName target)))
  | .error e => .error (.file ⟨e, Path.ofText target, some p⟩)

/-- Removes a file, a link, or a directory with all below it. -/
def remove (fs : FileSystem) (p : Path) : Except Failure FileSystem :=
  taking p <| match fs.lookup false p with
  | .ok (.found location .directory) => .ok (fs.eraseBelow location)
  | .ok (.found location _) => .ok (fs.erase location)
  | .ok (.free _) => .error (.file ⟨.noEntry, p, none⟩)
  | .error e => .error (.file ⟨e, p, none⟩)

/-- All nodes below a directory by their paths, in the order of these as texts. Links are not
followed. -/
def tree (fs : FileSystem) (p : Path) : Except Failure (List (Text × Node)) :=
  taking p <| match fs.lookup true p with
  | .ok (.found location .directory) =>
    let below := fs.entries.filterMap fun (place, node) =>
      match location.isPrefixOf? place with
      | some (name :: names) => some (Path.text ⟨p.anchor, p.names ++ name :: names⟩, node)
      | _ => none
    .ok (below.mergeSort fun a b => !Text.lt b.1 a.1)
  | .ok (.found _ _) => .error (.file ⟨.notDirectory, p, none⟩)
  | .ok (.free _) => .error (.file ⟨.noEntry, p, none⟩)
  | .error e => .error (.file ⟨e, p, none⟩)

end FileSystem
end GameArchive
