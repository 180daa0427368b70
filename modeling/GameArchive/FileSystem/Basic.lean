import GameArchive.FileSystem.Path
import GameArchive.Text.Utf8

/-!
# File systems

Files, directories and links at locations. A location is the list of names from the root, each as
the system spells it; the root itself is a directory always. Each location is entered at most once. A
file has a number, by which whoever has opened it finds it after it has been moved.
-/

namespace GameArchive

abbrev Location := List Text

inductive Node where
  | directory
  | file (number : Nat) (content : Bytes)
  | link (target : Text)
deriving DecidableEq

structure FileSystem where
  entries : List (Location × Node)
  /-- Where relative paths start. -/
  current : Location
  /-- How many files have been made so far. -/
  made : Nat
  distinct : (entries.map (·.1)).Nodup

namespace FileSystem

/-- What is at a location. -/
def get? (fs : FileSystem) (location : Location) : Option Node :=
  if location = [] then some .directory else fs.entries.lookup location

/-- Nothing is at the location any more. -/
def erase (fs : FileSystem) (location : Location) : FileSystem where
  entries := fs.entries.filter fun entry => entry.1 ≠ location
  current := fs.current
  made := fs.made
  distinct := (List.filter_sublist.map _).nodup fs.distinct

/-- Nothing is at the location or below it any more. -/
def eraseBelow (fs : FileSystem) (location : Location) : FileSystem where
  entries := fs.entries.filter fun entry => !location.isPrefixOf entry.1
  current := fs.current
  made := fs.made
  distinct := (List.filter_sublist.map _).nodup fs.distinct

/-- The node is at the location, in place of what was there. -/
def put (fs : FileSystem) (location : Location) (node : Node) : FileSystem where
  entries := (location, node) :: (fs.erase location).entries
  current := fs.current
  made := fs.made
  distinct := by
    simp only [List.map_cons, List.nodup_cons]
    exact ⟨by simp [erase], (fs.erase location).distinct⟩

/-- A new file is at the location; its number is answered too. -/
def putFile (fs : FileSystem) (location : Location) : FileSystem × Nat :=
  ({ fs.put location (.file fs.made []) with made := fs.made + 1 }, fs.made)

/-- The content of the file with a number is changed, wherever the file is. -/
def edit (fs : FileSystem) (number : Nat) (change : Bytes → Bytes) : FileSystem where
  entries := fs.entries.map fun (location, node) =>
    (location, match node with
      | .file n content => .file n (if n = number then change content else content)
      | other => other)
  current := fs.current
  made := fs.made
  distinct := by simpa [List.map_map, Function.comp_def] using fs.distinct

/-- A file system that holds nothing but the directory at the given location and those above it. -/
def empty (current : Location) : FileSystem :=
  let above := (List.range current.length).map fun n => current.take (n + 1)
  above.foldl (fun fs location => fs.put location .directory)
    { entries := [], current := current, made := 0, distinct := by simp }

/-- The names in a directory, in increasing order. -/
def children (fs : FileSystem) (directory : Location) : List Text :=
  Text.sort (fs.entries.filterMap fun (location, _) =>
    if location.dropLast = directory then location.getLast? else none)

theorem lookup_filter_ne {entries : List (Location × Node)} {location other : Location}
    (h : other ≠ location) :
    (entries.filter fun entry => entry.1 ≠ location).lookup other = entries.lookup other := by
  induction entries with
  | nil => rfl
  | cons entry rest ih =>
    obtain ⟨l, node⟩ := entry
    by_cases hl : l = location
    · have hne : ¬ other = l := fun e => h (e.trans hl)
      simp only [List.filter_cons, hl, List.lookup_cons]
      simpa [beq_eq_false_iff_ne.mpr h] using ih
    · by_cases ho : other = l
      · simp [hl, ho]
      · simp only [List.filter_cons, List.lookup_cons, beq_eq_false_iff_ne.mpr ho]
        simpa [hl, List.lookup_cons, beq_eq_false_iff_ne.mpr ho] using ih

theorem get?_put_same (fs : FileSystem) {location : Location} (node : Node) (h : location ≠ []) :
    (fs.put location node).get? location = some node := by
  simp [get?, put, h]

theorem get?_put_other (fs : FileSystem) {location other : Location} (node : Node)
    (h : other ≠ location) : (fs.put location node).get? other = fs.get? other := by
  simp only [get?, put, erase, List.lookup_cons, beq_eq_false_iff_ne.mpr h]
  rw [lookup_filter_ne h]

theorem get?_erase_other (fs : FileSystem) {location other : Location} (h : other ≠ location) :
    (fs.erase location).get? other = fs.get? other := by
  simp only [get?, erase]
  rw [lookup_filter_ne h]

end FileSystem

/-- Why a file operation fails. -/
inductive Errno where
  | noEntry
  | busy
  | notDirectory
  | isDirectory
  | fileExists
  | nameTooLong
  | loop
deriving DecidableEq

namespace Errno

def number : Errno → Nat
  | .noEntry => 2
  | .busy => 16
  | .fileExists => 17
  | .notDirectory => 20
  | .isDirectory => 21
  | .nameTooLong => 36
  | .loop => 40

def description : Errno → String
  | .noEntry => "No such file or directory"
  | .busy => "Device or resource busy"
  | .fileExists => "File exists"
  | .notDirectory => "Not a directory"
  | .isDirectory => "Is a directory"
  | .nameTooLong => "File name too long"
  | .loop => "Too many levels of symbolic links"

end Errno

end GameArchive
