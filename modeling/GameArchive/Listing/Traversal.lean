import GameArchive.Listing.Basic

/-!
# Traversals

A listing goes through a directory and those below it, depth first, the names of each directory in
increasing order. It is lazy: it stops at every entry, and goes on in the file system as it is then.
The names of a directory are read when it is entered. A directory that is already being gone through
is not entered again, so links that lead back end nothing but their own way.
-/

namespace GameArchive
namespace Listing

/-- What a listing remarks on its way. -/
inductive Remark where
  /-- A directory that is a link is left out. -/
  | skipped (path : Path)
  /-- A directory is being gone through already. -/
  | loop (path : Path)
deriving DecidableEq

/-- A listing that is under way. -/
inductive Traversal where
  | done
  | fail (failure : FileSystem.Failure)
  | remark (r : Remark) (rest : Traversal)
  | entry (e : Entry) (rest : FileSystem → Traversal)

/-- What a name in a directory is to a listing. -/
inductive Found where
  | directory
  | skippedLink
  | file (size : Nat)
  | nothing
deriving DecidableEq

/-- Looks at a path. -/
def examine (options : Options) (fs : FileSystem) (p : Path) : Except FileSystem.Failure Found := do
  let isLink ← fs.isLink p
  if ← fs.isDirectory p then
    return if isLink && !options.allowSymlinks then .skippedLink else .directory
  else if ← fs.isFile p then
    if options.accepts p then return .file (← fs.read p).length else return .nothing
  else return .nothing

/-- Goes through names in a directory. `enter` goes through a directory, and then on. -/
def overNames (options : Options)
    (enter : Path → FileSystem → (FileSystem → Traversal) → Traversal) (directory : Path)
    (next : FileSystem → Traversal) : List Text → FileSystem → Traversal
  | [], fs => next fs
  | name :: names, fs =>
    let child := directory.child name
    match examine options fs child with
    | .error failure => .fail failure
    | .ok .directory => enter child fs (overNames options enter directory next names)
    | .ok .skippedLink => .remark (.skipped child) (overNames options enter directory next names fs)
    | .ok (.file size) => .entry ⟨child, size⟩ (overNames options enter directory next names)
    | .ok .nothing => overNames options enter directory next names fs

/-- Goes through a directory, and then on. `around` are the directories that are being gone through,
and the first argument bounds how many more there can be. -/
def overDirectory (options : Options) : (fuel : Nat) → (around : List Path) → Path → FileSystem →
    (FileSystem → Traversal) → Traversal
  | 0, _, _, fs, next => next fs
  | fuel + 1, around, directory, fs, next =>
    match fs.resolve directory with
    | .error failure => .fail failure
    | .ok resolved =>
      if around.contains resolved then .remark (.loop directory) (next fs)
      else
        match fs.list directory with
        | .error failure => .fail failure
        | .ok names =>
          overNames options (overDirectory options fuel (resolved :: around))
            directory next names fs

/-- How deep directories can be inside each other: the path of a deeper one would be too long. -/
def depthLimit : Nat := FileSystem.pathLimit + 2

/-- A listing of the files below a directory, before its first step. -/
def start (options : Options) (base : Path) (fs : FileSystem) : Traversal :=
  overDirectory options depthLimit [] base fs fun _ => .done

/-- What a whole listing finds in a file system that stays as it is: its remarks, its entries, and
why it ended early, if it did. -/
structure Outcome where
  remarks : List Remark
  entries : List Entry
  failure : Option FileSystem.Failure
deriving DecidableEq

namespace Traversal

/-- The rest of the listing. -/
def finish (fs : FileSystem) : Traversal → Outcome
  | .done => ⟨[], [], none⟩
  | .fail failure => ⟨[], [], some failure⟩
  | .remark r rest =>
    let outcome := finish fs rest
    { outcome with remarks := r :: outcome.remarks }
  | .entry e rest =>
    let outcome := finish fs (rest fs)
    { outcome with entries := e :: outcome.entries }

/-- What comes up to the next entry. -/
structure Advance where
  remarks : List Remark
  /-- The next entry, none at the end, or why there is none. -/
  entry : Except FileSystem.Failure (Option Entry)
  rest : FileSystem → Traversal

/-- Goes on to the next entry. A listing that has failed is at its end. -/
def advance : Traversal → Advance
  | .done => ⟨[], .ok none, fun _ => .done⟩
  | .fail failure => ⟨[], .error failure, fun _ => .done⟩
  | .remark r rest =>
    let next := advance rest
    { next with remarks := r :: next.remarks }
  | .entry e rest => ⟨[], .ok (some e), rest⟩

end Traversal
end Listing
end GameArchive
