import GameArchive.Proofs.FileSystem.Resolve
import GameArchive.Proofs.Text.Order
import Mathlib.Data.List.Nodup

/-!
# Questions about paths

What the questions about a path answer, by where the path leads. Writing into open files changes
only the contents of files, so all questions but those for contents have the same answers
afterwards.
-/

namespace GameArchive
namespace FileSystem

variable {fs after : FileSystem} {p : Path}

/-! ## Directories and files -/

theorem isDirectory_eq_ok_true : fs.isDirectory p = .ok true ↔
    nameFailure? p.text = none ∧ ∃ location, fs.lookup true p = .ok (.found location .directory) := by
  cases htakes : nameFailure? p.text with
  | some failure => simp [isDirectory, kind?, htakes, Except.map]
  | none =>
    rw [isDirectory, kind?, htakes, node?]
    cases fs.lookup true p with
    | error e => cases e <;> simp [Except.map]
    | ok place =>
      cases place with
      | free location => simp [Except.map]
      | found location node => cases node <;> simp [Except.map]

theorem isFile_eq_ok_true : fs.isFile p = .ok true ↔ ∃ content, fs.read p = .ok content := by
  cases htakes : nameFailure? p.text with
  | some failure => simp [isFile, kind?, read, taking, htakes, Except.map]
  | none =>
    rw [isFile, kind?, read, taking, htakes, node?]
    cases fs.lookup true p with
    | error e => cases e <;> simp [Except.map]
    | ok place =>
      cases place with
      | free location => simp [Except.map]
      | found location node => cases node <;> simp [Except.map]

/-- A lookup that fails without following a link at the end fails in the same way if it does follow
it, and if more names are behind. -/
theorem followLinks_append_error {links : Nat} {directory : Location} {names : List Text} {e : Errno}
    (h : followLinks fs false links directory names = .error e) (follow : Bool) (more : List Text) :
    followLinks fs follow links directory (names ++ more) = .error e := by
  -- Up to a link at the end both lookups go the same way, and there only the first one stops.
  induction links using Nat.strongRecOn generalizing directory names with
  | ind links ihLinks =>
    induction names generalizing directory with
    | nil => simp [followLinks_nil] at h
    | cons name rest ih =>
      rw [List.cons_append, followLinks_cons]
      rw [followLinks_cons] at h
      split at h
      · next hup => rw [if_pos hup, ih h]
      next hup =>
      rw [if_neg hup]
      split at h
      · next hhere => rw [if_pos hhere, ih h]
      next hhere =>
      rw [if_neg hhere]
      split at h
      · next hlong => rwa [if_pos hlong]
      next hlong =>
      rw [if_neg hlong]
      cases hget : fs.get? (directory ++ [name]) with
      | none =>
        rw [hget] at h
        dsimp only at h ⊢
        split at h
        · cases h
        · next hrest => rwa [if_neg (by simp [hrest])]
      | some node =>
        rw [hget] at h
        cases node with
        | directory => exact ih h
        | file number content =>
          dsimp only at h ⊢
          split at h
          · cases h
          · next hrest => rwa [if_neg (by simp [hrest])]
        | link target =>
          dsimp only at h ⊢
          split at h
          · cases h
          next hlast =>
          have hrest : rest ≠ [] := by simpa using hlast
          rw [if_neg (by simp [hrest])]
          cases links with
          | zero => exact h
          | succ links =>
            dsimp only
            rw [← List.append_assoc]
            exact ihLinks links (Nat.lt_succ_self links) h

/-- A question about a path has an answer, unless something on the way is too long. -/
theorem kind?_eq_error {follow : Bool} {failure : Failure} :
    fs.kind? follow p = .error failure ↔ nameFailure? p.text = none ∧
      fs.lookup follow p = .error .nameTooLong ∧ failure = .file ⟨.nameTooLong, p, none⟩ := by
  cases htakes : nameFailure? p.text with
  | some failure => simp [kind?, htakes]
  | none =>
    rw [kind?, htakes, node?]
    cases fs.lookup follow p with
    | error e => cases e <;> simp [eq_comm]
    | ok place => cases place <;> simp

theorem map_eq_error {ε α β : Type} {e : Except ε α} {f : α → β} {failure : ε} :
    e.map f = .error failure ↔ e = .error failure := by
  cases e <;> simp [Except.map]

theorem isDirectory_eq_error {failure : Failure} : fs.isDirectory p = .error failure ↔
    fs.kind? true p = .error failure := map_eq_error

theorem isFile_eq_error {failure : Failure} : fs.isFile p = .error failure ↔
    fs.isDirectory p = .error failure := map_eq_error.trans isDirectory_eq_error.symm

theorem isDirectory_of_isLink_error {failure : Failure} (h : fs.isLink p = .error failure) :
    fs.isDirectory p = .error failure := by
  obtain ⟨htakes, hlookup, hfailure⟩ := kind?_eq_error.mp (map_eq_error.mp h)
  refine isDirectory_eq_error.mpr (kind?_eq_error.mpr ⟨htakes, ?_, hfailure⟩)
  unfold lookup at hlookup ⊢
  split at hlookup
  · next hlong => rw [if_pos hlong]
  · next hlong =>
    rw [if_neg hlong, ← List.append_nil p.entryNames, followLinks_append_error hlookup]

/-! ## Names in directories -/

theorem mem_children {location : Location} {name : Text} :
    name ∈ fs.children location ↔ ∃ node, fs.get? (location ++ [name]) = some node := by
  rw [children, (Text.perm_sort _).mem_iff, List.mem_filterMap]
  constructor
  · rintro ⟨⟨place, node⟩, hentry, hlast⟩
    dsimp only at hlast
    split at hlast
    · next hplace =>
      obtain ⟨before, rfl⟩ := List.getLast?_eq_some_iff.mp hlast
      rw [List.dropLast_concat] at hplace
      subst hplace
      have hmem : before ++ [name] ∈ fs.entries.map (·.1) := List.mem_map_of_mem hentry
      rw [get?, if_neg (by simp)]
      cases hget : fs.entries.lookup (before ++ [name]) with
      | some node => exact ⟨node, rfl⟩
      | none =>
        rw [List.lookup_eq_none_iff] at hget
        simpa using hget _ hentry
    · cases hlast
  · rintro ⟨node, hget⟩
    exact ⟨_, mem_entries_of_get? hget (by simp), by simp⟩

theorem nodup_children (fs : FileSystem) (location : Location) :
    (fs.children location).Nodup := by
  have hchildren : fs.children location = Text.sort ((fs.entries.map (·.1)).filterMap fun place =>
      if place.dropLast = location then place.getLast? else none) := by
    rw [List.filterMap_map]
    rfl
  rw [hchildren, (Text.perm_sort _).nodup_iff]
  refine List.Nodup.filterMap (fun place other name hname hother => ?_) fs.distinct
  rw [Option.mem_def, Option.ite_none_right_eq_some] at hname hother
  obtain ⟨before, rfl⟩ := List.getLast?_eq_some_iff.mp hname.2
  obtain ⟨before', rfl⟩ := List.getLast?_eq_some_iff.mp hother.2
  have hbefore := hname.1.trans hother.1.symm
  rw [List.dropLast_concat, List.dropLast_concat] at hbefore
  rw [hbefore]

theorem pairwise_children (fs : FileSystem) (location : Location) :
    (fs.children location).Pairwise Text.Before := by
  have hnodup := nodup_children fs location
  rw [children, (Text.perm_sort _).nodup_iff] at hnodup
  exact Text.pairwise_sort_of_nodup hnodup

theorem list_eq {location : Location} (htakes : nameFailure? p.text = none)
    (h : fs.lookup true p = .ok (.found location .directory)) :
    fs.list p = .ok (fs.children location) := by
  rw [list, taking, htakes, h]

/-- What is found by a name in a directory is one of its children. -/
theorem mem_children_of_lookup {location place : Location} {name : Text} {node : Node}
    (hname : IsProper name) (h : fs.lookup true p = .ok (.found location .directory))
    (hchild : fs.lookup true (p.child name) = .ok (.found place node)) :
    name ∈ fs.children location := by
  have hstart : fs.startOf (p.child name) = fs.startOf p := rfl
  unfold lookup at h hchild
  split at h
  · contradiction
  split at hchild
  · contradiction
  rw [hstart, Path.entryNames_child, hname.entryName_eq] at hchild
  obtain ⟨n, left, middle, hlinks, hleads, hlast⟩ := exists_leads hchild
  have hmiddle : followLinks fs true (n + left) (fs.startOf p) (p.entryNames ++ []) =
      followLinks fs true left middle [] := hleads.followLinks_append (.inl rfl)
  rw [List.append_nil, ← hlinks, h, followLinks_nil] at hmiddle
  cases hmiddle
  rw [mem_children]
  rw [followLinks_cons, if_neg (by simp [hname.not_up]), if_neg (by simp [hname.not_here])] at hlast
  split at hlast
  · contradiction
  cases hget : fs.get? (location ++ [name]) with
  | some node => exact ⟨node, rfl⟩
  | none => simp [hget] at hlast

theorem isProper_of_mem_children (htree : fs.IsTree) {location : Location} {name : Text}
    (h : name ∈ fs.children location) : IsProper name := by
  obtain ⟨node, hget⟩ := mem_children.mp h
  exact htree.named _ _ _ hget

/-! ## Changed contents -/

/-- Nothing but the contents of files has changed. -/
inductive Edited (fs : FileSystem) : FileSystem → Prop where
  | same : Edited fs fs
  | edit {after : FileSystem} (number : Nat) (change : Bytes → Bytes) : Edited fs after →
      Edited fs (after.edit number change)

theorem kind?_edit (fs : FileSystem) (number : Nat) (change : Bytes → Bytes) (follow : Bool)
    (p : Path) : (fs.edit number change).kind? follow p =
      (fs.kind? follow p).map (Option.map (Node.edited number change)) := by
  unfold kind?
  split
  · rfl
  · rw [node?, node?, lookup_edit]
    cases fs.lookup follow p with
    | error e => cases e <;> rfl
    | ok place => cases place <;> rfl

theorem map_kind?_edit (fs : FileSystem) (number : Nat) (change : Bytes → Bytes) (follow : Bool)
    (p : Path) {f : Option Node → Bool}
    (hf : ∀ node, f (some (Node.edited number change node)) = f (some node)) :
    ((fs.edit number change).kind? follow p).map f = (fs.kind? follow p).map f := by
  rw [kind?_edit]
  cases fs.kind? follow p with
  | error failure => rfl
  | ok node =>
    cases node with
    | none => rfl
    | some node => exact congrArg Except.ok (hf node)

theorem children_edit (fs : FileSystem) (number : Nat) (change : Bytes → Bytes)
    (location : Location) : (fs.edit number change).children location = fs.children location := by
  rw [children, children, edit, List.filterMap_map]
  rfl

theorem list_edit (fs : FileSystem) (number : Nat) (change : Bytes → Bytes) (p : Path) :
    (fs.edit number change).list p = fs.list p := by
  rw [list, list, lookup_edit]
  cases fs.lookup true p with
  | error e => rfl
  | ok place =>
    cases place with
    | free location => rfl
    | found location node =>
      cases node with
      | directory => simp [Except.map, Place.edited, Node.edited, children_edit]
      | file | link => rfl

theorem resolveFrom_edit (fs : FileSystem) (number : Nat) (change : Bytes → Bytes)
    (onLink : Path → List Text → List (Path × Option Path) → Resolved) (directory : Path)
    (names : List Text) (seen : List (Path × Option Path)) :
    resolveFrom (fs.edit number change) onLink directory names seen =
      resolveFrom fs onLink directory names seen := by
  induction names generalizing directory seen with
  | nil => rfl
  | cons name rest ih =>
    have hlocation : (fs.edit number change).locationOf (directory.child name) =
        fs.locationOf (directory.child name) := rfl
    simp only [resolveFrom, hlocation, get?_edit, ih]
    cases fs.get? (fs.locationOf (directory.child name)) with
    | none => rfl
    | some node => cases node <;> rfl

theorem resolveLinks_edit (fs : FileSystem) (number : Nat) (change : Bytes → Bytes) (depth : Nat) :
    resolveLinks (fs.edit number change) depth = resolveLinks fs depth := by
  induction depth with
  | zero =>
    funext directory names seen
    exact resolveFrom_edit fs number change _ directory names seen
  | succ depth ih =>
    funext directory names seen
    rw [resolveLinks, ih]
    exact resolveFrom_edit fs number change _ directory names seen

theorem resolve_edit (fs : FileSystem) (number : Nat) (change : Bytes → Bytes) (p : Path) :
    (fs.edit number change).resolve p = fs.resolve p := by
  have hbound : (fs.edit number change).linkBound p = fs.linkBound p := by simp [linkBound, edit]
  have hpath : (fs.edit number change).resolvePath p = fs.resolvePath p := by
    rw [resolvePath, resolvePath, resolveLinks_edit, hbound]
    rfl
  rw [resolve, resolve, hpath]
  dsimp only
  rw [lookup_edit]
  cases fs.lookup true (fs.resolvePath p) with
  | error e => rfl
  | ok place => rfl

namespace Edited

/-- A question about what is at a path, but not about what a file holds, has the same answer. -/
theorem map_kind?_eq (h : fs.Edited after) (follow : Bool) (p : Path) {f : Option Node → Bool}
    (hf : ∀ number change node, f (some (Node.edited number change node)) = f (some node)) :
    (after.kind? follow p).map f = (fs.kind? follow p).map f := by
  induction h with
  | same => rfl
  | edit number change _ ih => rw [map_kind?_edit _ number change follow p (hf number change), ih]

theorem isDirectory_eq (h : fs.Edited after) (p : Path) :
    after.isDirectory p = fs.isDirectory p :=
  h.map_kind?_eq true p fun _ _ node => by cases node <;> rfl

theorem isFile_eq (h : fs.Edited after) (p : Path) : after.isFile p = fs.isFile p :=
  h.map_kind?_eq true p fun _ _ node => by cases node <;> rfl

theorem isLink_eq (h : fs.Edited after) (p : Path) : after.isLink p = fs.isLink p :=
  h.map_kind?_eq false p fun _ _ node => by cases node <;> rfl

theorem list_eq (h : fs.Edited after) (p : Path) : after.list p = fs.list p := by
  induction h with
  | same => rfl
  | edit number change _ ih => rw [list_edit, ih]

theorem resolve_eq (h : fs.Edited after) (p : Path) : after.resolve p = fs.resolve p := by
  induction h with
  | same => rfl
  | edit number change _ ih => rw [resolve_edit, ih]

end Edited

end FileSystem
end GameArchive
