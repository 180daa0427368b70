import GameArchive.Proofs.FileSystem.Place

/-!
# What a change of files leaves alone

Where files come, go and change and nothing else does, a question about a path has the answer it had
before unless the path leads to one of these files: a lookup that ends elsewhere passes only
directories and links, and one that meets such a file on its way fails before and after.
-/

namespace GameArchive
namespace FileSystem

/-! ## Where lookups end -/

def Place.location : Place → Location
  | .found location _ => location
  | .free location => location

variable {fs after : FileSystem} {p : Path} {follow : Bool} {place : Location}

/-- The lookup of a path ends at a location, whether something is there or not. -/
def EndsAt (fs : FileSystem) (follow : Bool) (p : Path) (location : Location) : Prop :=
  ∃ place, fs.lookup follow p = .ok place ∧ place.location = location

/-- The way to something is broken: a name on it belongs to nothing, or to a file. -/
def Errno.IsBroken (e : Errno) : Prop := e = .noEntry ∨ e = .notDirectory

/-- Files are all that comes, goes and changes. -/
structure DiffersInFiles (fs after : FileSystem) : Prop where
  current : after.current = fs.current
  leaf : ∀ location, after.get? location ≠ fs.get? location →
    fs.IsLeaf location ∧ after.IsLeaf location

/-- Two lookups end alike, unless the first one ends at what has changed. -/
inductive Agrees (fs after : FileSystem) : Except Errno Place → Except Errno Place → Prop where
  | same (result : Except Errno Place) : Agrees fs after result result
  | changed {place : Place} {result : Except Errno Place} :
      after.get? place.location ≠ fs.get? place.location → Agrees fs after (.ok place) result
  | broken {e e' : Errno} : Errno.IsBroken e → Errno.IsBroken e' →
      Agrees fs after (.error e) (.error e')

/-- What a lookup finds that has come to nothing or to a file. -/
def stop (fs : FileSystem) (location : Location) (rest : List Text) : Except Errno Place :=
  match fs.get? location with
  | none => if rest = [] then .ok (.free location) else .error .noEntry
  | some node => if rest = [] then .ok (.found location node) else .error .notDirectory

theorem agrees_stop (hne : after.get? location ≠ fs.get? location) (rest : List Text) :
    Agrees fs after (fs.stop location rest) (after.stop location rest) := by
  unfold stop
  by_cases hrest : rest = []
  · simp only [if_pos hrest]
    split <;> exact .changed hne
  · simp only [if_neg hrest]
    split <;> split <;> exact .broken (by simp [Errno.IsBroken]) (by simp [Errno.IsBroken])

theorem followFrom_of_isLeaf {onLink : Location → List Text → Except Errno Place} {name : Text}
    {rest : List Text} (hup : ¬isUp name = true) (hhere : ¬isHere name = true)
    (hlong : ¬isLongName name = true) (hleaf : fs.IsLeaf (place ++ [name])) :
    followFrom fs follow onLink place (name :: rest) = fs.stop (place ++ [name]) rest := by
  simp only [followFrom, if_neg hup, if_neg hhere, if_neg hlong, stop]
  cases hget : fs.get? (place ++ [name]) with
  | none => rfl
  | some node =>
    obtain ⟨number, content, rfl⟩ := hleaf node hget
    rfl

namespace DiffersInFiles

theorem followFrom (h : fs.DiffersInFiles after)
    {onLink onLink' : Location → List Text → Except Errno Place}
    (honLink : ∀ directory names,
      Agrees fs after (onLink directory names) (onLink' directory names))
    (directory : Location) (names : List Text) :
    Agrees fs after (FileSystem.followFrom fs follow onLink directory names)
      (FileSystem.followFrom after follow onLink' directory names) := by
  induction names generalizing directory with
  | nil => exact .same _
  | cons name rest ih =>
    by_cases hup : isUp name = true
    · simp only [FileSystem.followFrom, if_pos hup]
      exact ih _
    by_cases hhere : isHere name = true
    · simp only [FileSystem.followFrom, if_neg hup, if_pos hhere]
      exact ih _
    by_cases hlong : isLongName name = true
    · simp only [FileSystem.followFrom, if_neg hup, if_neg hhere, if_pos hlong]
      exact .same _
    by_cases hget : after.get? (directory ++ [name]) = fs.get? (directory ++ [name])
    · simp only [FileSystem.followFrom, if_neg hup, if_neg hhere, if_neg hlong, hget]
      cases fs.get? (directory ++ [name]) with
      | none => exact .same _
      | some node =>
        cases node with
        | directory => exact ih _
        | file number content => exact .same _
        | link target =>
          dsimp only
          split
          · exact .same _
          · exact honLink _ _
    · obtain ⟨hleaf, hleaf'⟩ := h.leaf _ hget
      rw [followFrom_of_isLeaf hup hhere hlong hleaf, followFrom_of_isLeaf hup hhere hlong hleaf']
      exact agrees_stop hget rest

theorem followLinks (h : fs.DiffersInFiles after) (links : Nat) (directory : Location)
    (names : List Text) :
    Agrees fs after (FileSystem.followLinks fs follow links directory names)
      (FileSystem.followLinks after follow links directory names) := by
  induction links generalizing directory names with
  | zero => exact h.followFrom (fun _ _ => .same _) directory names
  | succ links ih => exact h.followFrom ih directory names

theorem lookup (h : fs.DiffersInFiles after) (follow : Bool) (p : Path) :
    Agrees fs after (fs.lookup follow p) (after.lookup follow p) := by
  unfold FileSystem.lookup
  split
  · exact .same _
  · rw [startOf, startOf, h.current]
    exact h.followLinks _ _ _

/-- What is at a path is the same as before, if its lookup ends at nothing that has changed. -/
theorem kind?_eq (h : fs.DiffersInFiles after)
    (hends : ∀ location, fs.EndsAt follow p location →
      after.get? location = fs.get? location) : after.kind? follow p = fs.kind? follow p := by
  have hagrees := h.lookup follow p
  rw [kind?, kind?, node?, node?]
  generalize hold : fs.lookup follow p = old, after.lookup follow p = new at hagrees
  cases hagrees with
  | same => rfl
  | changed hne => exact absurd (hends _ ⟨_, hold, rfl⟩) hne
  | broken hbroken hbroken' =>
    rcases hbroken with rfl | rfl <;> rcases hbroken' with rfl | rfl <;> rfl

end DiffersInFiles

theorem ChangedAt.differsInFiles {node : Option Node} (h : fs.ChangedAt after place node)
    (hleaf : fs.IsLeaf place) (hleaf' : after.IsLeaf place) : fs.DiffersInFiles after where
  current := h.current
  leaf location hne := by
    obtain rfl : location = place := by
      by_contra hother
      exact hne (h.elsewhere location hother)
    exact ⟨hleaf, hleaf'⟩

end FileSystem
end GameArchive
