import GameArchive.FileSystem.Basic

/-!
# Looking up paths

Following a path from directory to directory, through links. A lookup ends at a node, or at a free
place in a directory. Names are compared by their bytes: a path may spell a name in more ways than
one, and what is there is found by the spelling of the system.
-/

namespace GameArchive

/-- The names of the path as the system spells them. -/
def Path.entryNames (p : Path) : List Text := p.names.map Utf8.entryName

namespace FileSystem

/-- Where a lookup ends. -/
inductive Place where
  | found (location : Location) (node : Node)
  | free (location : Location)

/-- The greatest number of bytes of a name. -/
def nameLimit : Nat := 255

def isLongName (name : Text) : Bool := nameLimit < (Utf8.encodeName name).length

/-- The greatest number of bytes of a path. -/
def pathLimit : Nat := 4095

def isLongPath (p : Path) : Bool := pathLimit < (Utf8.encodeName p.text).length

def isUp (name : Text) : Bool := name = Text.ofString ".."

/-- The directory in which a path starts. -/
def startOf (fs : FileSystem) (p : Path) : Location :=
  if p.anchor = .relative then fs.current else []

/-- The name of a directory in itself. -/
def isHere (name : Text) : Bool := name = Text.ofString "."

/-- The names on the way that a link shows, as they are written. A target that ends in a slash or a
single dot leads to a directory, so its last name is that of the directory in itself. -/
def writtenNames (target : Text) : List Text :=
  let last := (target.split '/').getLast?.getD []
  (Path.ofText target).names ++ if last.isEmpty ∨ isHere last then [Text.ofString "."] else []

def targetNames (target : Text) : List Text := (writtenNames target).map Utf8.entryName

/-- Follows names from a directory on. `onLink` goes on where a link leads: from a directory, along
the names of its target and those behind it. The last name is followed too if it is a link, unless
`follow` is off. -/
def followFrom (fs : FileSystem) (follow : Bool)
    (onLink : Location → List Text → Except Errno Place) : Location → List Text → Except Errno Place
  | directory, [] => .ok (.found directory .directory)
  | directory, name :: rest =>
    if isUp name then followFrom fs follow onLink directory.dropLast rest
    else if isHere name then followFrom fs follow onLink directory rest
    else if isLongName name then .error .nameTooLong
    else
      let here := directory ++ [name]
      match fs.get? here with
      | none => if rest = [] then .ok (.free here) else .error .noEntry
      | some .directory => followFrom fs follow onLink here rest
      | some (.file number content) =>
        if rest = [] then .ok (.found here (.file number content)) else .error .notDirectory
      | some (.link target) =>
        if rest = [] ∧ !follow then .ok (.found here (.link target))
        else
          onLink (if Path.anchorOf target = .relative then directory else [])
            (targetNames target ++ rest)

/-- The same with at most the given number of links on the way. -/
def followLinks (fs : FileSystem) (follow : Bool) : (links : Nat) → Location → List Text →
    Except Errno Place
  | 0 => followFrom fs follow fun _ _ => .error .loop
  | links + 1 => followFrom fs follow (followLinks fs follow links)

/-- The greatest number of links on the way of one lookup. -/
def linkLimit : Nat := 40

/-- Where a path leads. -/
def lookup (fs : FileSystem) (follow : Bool) (p : Path) : Except Errno Place :=
  if isLongPath p then .error .nameTooLong
  else followLinks fs follow linkLimit (fs.startOf p) p.entryNames

/-- The node that a path leads to, through a last link if `follow` is on. -/
def node? (fs : FileSystem) (follow : Bool) (p : Path) : Except Errno Node :=
  match fs.lookup follow p with
  | .ok (.found _ node) => .ok node
  | .ok (.free _) => .error .noEntry
  | .error e => .error e

/-- Where something fails because of a path. -/
structure Fault where
  errno : Errno
  path : Path
  /-- Where a file was to be moved to. -/
  target : Option Path
deriving DecidableEq

/-- Why an operation on a path fails. -/
inductive Failure where
  | file (fault : Fault)
  /-- The path has the character with number zero in it, which no path can hold. -/
  | embeddedNull
  /-- The path is no name in bytes. -/
  | encode (fault : Utf8.EncodeFault)
  /-- Links that lead to each other, by the place of one of them. -/
  | symlinkLoop (path : Path)
deriving DecidableEq

/-- Why a text is none that a system takes as the name of something. -/
def nameFailure? (t : Text) : Option Failure :=
  match Utf8.nameFault? t with
  | some fault => some (.encode fault)
  | none => if t.any (·.val = 0) then some .embeddedNull else none

/-- Goes on with a path that a file system takes. -/
def taking {α : Type} (p : Path) (go : Except Failure α) : Except Failure α :=
  match nameFailure? p.text with
  | some failure => .error failure
  | none => go

/-- The kind of node that a question about a path is answered with: none where nothing is, or where
the way there is broken. -/
def kind? (fs : FileSystem) (follow : Bool) (p : Path) : Except Failure (Option Node) :=
  if (nameFailure? p.text).isSome then .ok none
  else
    match fs.node? follow p with
    | .ok node => .ok (some node)
    | .error .nameTooLong => .error (.file ⟨.nameTooLong, p, none⟩)
    | .error _ => .ok none

def isDirectory (fs : FileSystem) (p : Path) : Except Failure Bool :=
  (fs.kind? true p).map (· matches some .directory)

def isFile (fs : FileSystem) (p : Path) : Except Failure Bool :=
  (fs.kind? true p).map (· matches some (.file ..))

def isLink (fs : FileSystem) (p : Path) : Except Failure Bool :=
  (fs.kind? false p).map (· matches some (.link _))

/-- The bytes of a file. -/
def read (fs : FileSystem) (p : Path) : Except Failure Bytes :=
  taking p <|
    match fs.node? true p with
    | .ok (.file _ content) => .ok content
    | .ok _ => .error (.file ⟨.isDirectory, p, none⟩)
    | .error e => .error (.file ⟨e, p, none⟩)

/-- The names in a directory, in increasing order. -/
def list (fs : FileSystem) (p : Path) : Except Failure (List Text) :=
  taking p <|
    match fs.lookup true p with
    | .ok (.found location .directory) => .ok (fs.children location)
    | .ok (.found _ _) => .error (.file ⟨.notDirectory, p, none⟩)
    | .ok (.free _) => .error (.file ⟨.noEntry, p, none⟩)
    | .error e => .error (.file ⟨e, p, none⟩)

/-! ## Resolved paths -/

/-- Names without links, two dots taken back. -/
def plainFrom (before names : List Text) : List Text :=
  names.foldl (fun l name => if isUp name then l.dropLast else l ++ [name]) before

/-- The path of names from the root. -/
def pathOf (names : List Text) : Path := ⟨.root, names⟩

/-- A path without links from the root on, as it is spelled. -/
def absolute (fs : FileSystem) (p : Path) : Path := pathOf (plainFrom (fs.startOf p) p.names)

/-- Where a path without links leads. -/
def locationOf (fs : FileSystem) (p : Path) : Location := (fs.absolute p).entryNames

/-- A path without links, as far as it exists; `looped` holds if links lead to each other, and then
the path is resolved only up to one of them. `seen` are the links met so far, with where they lead
once that is known. A link is known by its path, so it may be met twice by different ones. -/
structure Resolved where
  path : Path
  looped : Bool
  seen : List (Path × Option Path)

/-- The directory above a path without links. A relative path that has no name to take back goes up
by two dots. -/
def above (p : Path) : Path :=
  if p.anchor = .relative ∧ (p.names = [] ∨ isUp p.name) then p.child (Text.ofString "..")
  else p.parent

/-- A path that is left as it is from some place on. What is behind two slashes starts anew. -/
def unresolved (p : Path) (rest : List Text) : Path := p.join (Path.ofText (Text.join "/" rest))

/-- Follows the pieces between the slashes of a path, from a resolved path on. `onLink` resolves the
target of a link. -/
def resolveFrom (fs : FileSystem)
    (onLink : Path → List Text → List (Path × Option Path) → Resolved) :
    Path → List Text → List (Path × Option Path) → Resolved
  | directory, [], seen => ⟨directory, false, seen⟩
  | directory, name :: rest, seen =>
    if isUp name then resolveFrom fs onLink (above directory) rest seen
    else if name.isEmpty ∨ isHere name then resolveFrom fs onLink directory rest seen
    else
      let here := directory.child name
      match fs.get? (fs.locationOf here) with
      | some (.link target) =>
        match seen.lookup here with
        | some (some known) => resolveFrom fs onLink known rest seen
        | some none => ⟨unresolved here rest, true, seen⟩
        | none =>
          let start := if Path.anchorOf target = .relative then directory else ⟨.root, []⟩
          let r := onLink start (target.split '/') ((here, none) :: seen)
          if r.looped then { r with path := unresolved r.path rest }
          else resolveFrom fs onLink r.path rest ((here, some r.path) :: r.seen)
      | _ => resolveFrom fs onLink here rest seen

/-- The same with at most the given number of links inside each other. -/
def resolveLinks (fs : FileSystem) : (depth : Nat) → Path → List Text →
    List (Path × Option Path) → Resolved
  | 0 => resolveFrom fs fun directory names seen => ⟨unresolved directory names, true, seen⟩
  | depth + 1 => resolveFrom fs (resolveLinks fs depth)

/-- A link may be met by a relative path and by one from the root, and behind each beginning of the
names that are given. -/
def linkBound (fs : FileSystem) (p : Path) : Nat := (p.names.length + 3) * fs.entries.length

/-- The path from which a path is resolved. -/
def resolveStart (p : Path) : Path := if p.anchor = .relative then ⟨.relative, []⟩ else ⟨.root, []⟩

/-- The path from the root without links and two dots, as far as it exists. Names are spelled as they
are given, and those of a target as they are written there. -/
def resolvePath (fs : FileSystem) (p : Path) : Path :=
  fs.absolute (resolveLinks fs (fs.linkBound p) (resolveStart p) p.names []).path

/-- The path from the root without links and two dots. -/
def resolve (fs : FileSystem) (p : Path) : Except Failure Path :=
  taking p <|
    let resolved := fs.resolvePath p
    match fs.lookup true resolved with
    | .error .loop => .error (.symlinkLoop resolved)
    | _ => .ok resolved

end FileSystem
end GameArchive
