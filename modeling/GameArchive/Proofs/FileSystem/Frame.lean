import GameArchive.Proofs.FileSystem.Atomic
import GameArchive.Proofs.Text.Utf8

/-!
# What a new file changes

A file that is put at a place, or written over there, changes nothing but what is at this place and
the content of the files with its number. Lookups that end at anything else end there as before, and
if the file is taken away again, so do lookups that did not end at it.
-/

namespace GameArchive
namespace FileSystem

variable {fs other after : FileSystem}

/-! ## Lookups that stay -/

/-- Directories and links are still there, and of the files the one that is asked for. -/
def Keeps (fs other : FileSystem) (node : Node) : Prop :=
  ∀ location n, fs.get? location = some n →
    (∀ number content, n = .file number content → n = node) → other.get? location = some n

theorem followFrom_frame {node : Node} (hkeeps : fs.Keeps other node) {follow : Bool}
    {onLink onLink' : Location → List Text → Except Errno Place} {place : Location}
    (honLink : ∀ directory names, onLink directory names = .ok (.found place node) →
      onLink' directory names = .ok (.found place node))
    {directory : Location} {names : List Text}
    (h : followFrom fs follow onLink directory names = .ok (.found place node)) :
    followFrom other follow onLink' directory names = .ok (.found place node) := by
  induction names generalizing directory with
  | nil => exact h
  | cons name rest ih =>
    by_cases hup : isUp name = true
    · simp only [followFrom, if_pos hup] at h ⊢
      exact ih h
    by_cases hhere : isHere name = true
    · simp only [followFrom, if_neg hup, if_pos hhere] at h ⊢
      exact ih h
    by_cases hlong : isLongName name = true
    · simp only [followFrom, if_neg hup, if_neg hhere, if_pos hlong] at h
      contradiction
    simp only [followFrom, if_neg hup, if_neg hhere, if_neg hlong] at h ⊢
    cases hget : fs.get? (directory ++ [name]) with
    | none =>
      rw [hget] at h
      dsimp only at h
      split at h <;> cases h
    | some n =>
      rw [hget] at h
      cases n with
      | directory =>
        rw [hkeeps _ _ hget (by simp)]
        exact ih h
      | file number content =>
        dsimp only at h
        split at h
        · next hlast =>
          cases h
          rw [hkeeps _ _ hget (fun _ _ _ => rfl)]
          exact if_pos hlast
        · contradiction
      | link target =>
        rw [hkeeps _ _ hget (by simp)]
        dsimp only at h ⊢
        split at h
        · next hlast =>
          rw [if_pos hlast]
          exact h
        · next hgoes =>
          rw [if_neg hgoes]
          exact honLink _ _ h

theorem followLinks_frame {node : Node} (hkeeps : fs.Keeps other node) {follow : Bool}
    {links : Nat} {place directory : Location} {names : List Text}
    (h : followLinks fs follow links directory names = .ok (.found place node)) :
    followLinks other follow links directory names = .ok (.found place node) := by
  induction links generalizing directory names with
  | zero =>
    refine followFrom_frame hkeeps ?_ h
    intro _ _ hloop
    contradiction
  | succ links ih =>
    refine followFrom_frame hkeeps ?_ h
    intro _ _ hplace
    exact ih hplace

/-- A lookup ends where it ended if all that it passes is kept. -/
theorem lookup_frame {node : Node} (hcurrent : other.current = fs.current)
    (hkeeps : fs.Keeps other node) {follow : Bool} {p : Path} {place : Location}
    (h : fs.lookup follow p = .ok (.found place node)) :
    other.lookup follow p = .ok (.found place node) := by
  unfold lookup at h ⊢
  split at h
  · contradiction
  · next hlong =>
    rw [if_neg hlong, startOf, hcurrent]
    exact followLinks_frame hkeeps h

/-- Where a lookup ends, the names before the last one have led to a directory. -/
theorem exists_namedIn {p : Path} {before : List Text} {name : Text}
    (hnames : p.entryNames = before ++ [name]) {follow : Bool} {place : Place}
    (h : fs.lookup follow p = .ok place) : ∃ left directory, NamedIn fs p left directory name := by
  unfold lookup at h
  split at h
  · contradiction
  rw [hnames] at h
  obtain ⟨n, left, directory, hlinks, hleads, -⟩ := exists_leads h
  exact ⟨left, directory, n, before, hnames, hlinks, hleads⟩

/-- What is no link is found too if links at the end are followed. -/
theorem lookup_true_of_not_link {p : Path} {place : Place} (h : fs.lookup false p = .ok place)
    (hlink : ∀ location target, place ≠ .found location (.link target)) :
    fs.lookup true p = .ok place := by
  obtain hnil | ⟨before, name, hnames⟩ := p.entryNames.eq_nil_or_concat
  · rw [lookup, hnil, followLinks_nil] at h ⊢
    exact h
  · rw [List.concat_eq_append] at hnames
    obtain ⟨left, directory, hnamed⟩ := exists_namedIn hnames h
    rw [hnamed.lookup_true (by simpa [h] using hlink), h]

theorem lookup_true_of_directory {p : Path} {place : Location}
    (h : fs.lookup false p = .ok (.found place .directory)) :
    fs.lookup true p = .ok (.found place .directory) :=
  lookup_true_of_not_link h (by simp)

/-- What is found at a place is there. -/
theorem get?_of_followLinks {follow : Bool} {links : Nat} {directory place : Location}
    {names : List Text} {node : Node}
    (h : followLinks fs follow links directory names = .ok (.found place node))
    (hnode : node ≠ .directory) : fs.get? place = some node := by
  induction links using Nat.strongRecOn generalizing directory names with
  | ind links ih =>
    obtain rfl | ⟨before, name, rfl⟩ := names.eq_nil_or_concat
    · rw [followLinks_nil] at h
      cases h
      contradiction
    rw [List.concat_eq_append] at h
    obtain ⟨n, left, middle, hlinks, -, hlast⟩ := exists_leads h
    rw [followLinks_cons] at hlast
    simp only [followLinks_nil] at hlast
    split at hlast
    · cases hlast
      contradiction
    split at hlast
    · cases hlast
      contradiction
    split at hlast
    · contradiction
    cases hget : fs.get? (middle ++ [name]) with
    | none => simp [hget] at hlast
    | some found =>
      rw [hget] at hlast
      cases found with
      | directory =>
        cases hlast
        contradiction
      | file number content =>
        cases hlast
        exact hget
      | link target =>
        dsimp only at hlast
        split at hlast
        · cases hlast
          exact hget
        cases left with
        | zero => contradiction
        | succ left => exact ih left (by omega) hlast

theorem get?_of_lookup {follow : Bool} {p : Path} {place : Location} {node : Node}
    (h : fs.lookup follow p = .ok (.found place node)) (hnode : node ≠ .directory) :
    fs.get? place = some node := by
  unfold lookup at h
  split at h
  · contradiction
  · exact get?_of_followLinks h hnode

theorem get?_erase_same (fs : FileSystem) {location : Location} (h : location ≠ []) :
    (fs.erase location).get? location = none := by
  rw [get?, if_neg h, erase, List.lookup_eq_none_iff]
  intro entry hentry
  have hne : entry.1 ≠ location := by simpa using (List.mem_filter.mp hentry).2
  simpa using hne.symm

/-! ## Files that are moved -/

theorem replaceable_eq_ok {p : Path} {goal : Location} :
    fs.replaceable p = .ok goal ↔
      (∃ node, fs.lookup false p = .ok (.found goal node) ∧ node ≠ .directory) ∨
        fs.lookup false p = .ok (.free goal) := by
  unfold replaceable
  cases fs.lookup false p with
  | error e => simp
  | ok place =>
    cases place with
    | free location => simp
    | found location node =>
      cases node with
      | directory => by_cases hup : isUp p.name = true <;> simp [hup, and_assoc]
      | _ => simp [and_assoc, eq_comm]

theorem replace_eq_ok {p target : Path} :
    fs.replace p target = .ok after ↔
      nameFailure? p.text = none ∧ nameFailure? target.text = none ∧
        ∃ location node goal, fs.lookup false p = .ok (.found location node) ∧
          fs.replaceable target = .ok goal ∧
          (if location = goal ∨ fs.isFileAt goal node then fs
            else (fs.erase location).put goal node) = after := by
  unfold replace taking
  cases nameFailure? p.text with
  | some failure => simp
  | none =>
    cases nameFailure? target.text with
    | some failure => simp
    | none =>
      cases fs.lookup false p with
      | error e => simp
      | ok place =>
        cases place with
        | free location => simp
        | found location node => cases fs.replaceable target <;> simp [and_assoc]

/-- A node is moved: at its place is nothing any more, and nothing else changes. -/
structure Moved (fs after : FileSystem) (place goal : Location) (node : Node) : Prop where
  current : after.current = fs.current
  made : after.made = fs.made
  at_goal : after.get? goal = some node
  at_place : after.get? place = none
  elsewhere : ∀ location, location ≠ place → location ≠ goal →
    after.get? location = fs.get? location

theorem moved_of_ne (fs : FileSystem) {place goal : Location} (hne : place ≠ goal)
    (hplace : place ≠ []) (hgoal : goal ≠ []) (node : Node) :
    fs.Moved ((fs.erase place).put goal node) place goal node where
  current := rfl
  made := rfl
  at_goal := get?_put_same _ _ hgoal
  at_place := by rw [get?_put_other _ _ hne, get?_erase_same fs hplace]
  elsewhere location hother hnot := by
    rw [get?_put_other _ _ hnot, get?_erase_other _ hother]

theorem Passable.exists_node {location : Location} (h : Passable fs location) :
    ∃ node, fs.get? location = some node := by
  cases h with
  | directory hget => exact ⟨_, hget⟩
  | link hget _ => exact ⟨_, hget⟩

/-! ## Numbers of files -/

/-- No file has the number that the next one will get, or a greater one. -/
def IsNumbered (fs : FileSystem) : Prop :=
  ∀ location number content, fs.get? location = some (.file number content) → number < fs.made

theorem isNumbered_of_entries
    (h : ∀ entry ∈ fs.entries, ∀ number content,
      entry.2 = .file number content → number < fs.made) : fs.IsNumbered := by
  intro location number content hget
  unfold get? at hget
  split at hget
  · cases hget
  · obtain ⟨before, behind, hentries, -⟩ := List.lookup_eq_some_iff.mp hget
    exact h (location, .file number content) (by simp [hentries]) number content rfl

theorem Moved.isNumbered {place goal : Location} {node : Node} (h : fs.Moved after place goal node)
    (hnumbered : fs.IsNumbered)
    (hnode : ∀ number content, node = .file number content → number < fs.made) :
    after.IsNumbered := by
  intro location number content hget
  rw [h.made]
  by_cases hgoal : location = goal
  · rw [hgoal, h.at_goal] at hget
    exact hnode number content (Option.some.inj hget)
  · by_cases hplace : location = place
    · rw [hplace, h.at_place] at hget
      contradiction
    · rw [h.elsewhere _ hplace hgoal] at hget
      exact hnumbered _ _ _ hget

theorem isNumbered_edit (h : fs.IsNumbered) (number : Nat) (change : Bytes → Bytes) :
    (fs.edit number change).IsNumbered := by
  intro location n content hget
  rw [get?_edit, Option.map_eq_some_iff] at hget
  obtain ⟨node, hnode, hedited⟩ := hget
  cases node with
  | file n' content' =>
    obtain rfl : n' = n := by simpa [Node.edited] using (Node.file.inj hedited).1
    exact h location n' content' hnode
  | _ => cases hedited

/-- A file with a number is at a place, with a content. Elsewhere at most the content of the files
with this number has changed. At the place was this file before, or nothing. -/
structure Wrote (fs other : FileSystem) (place : Location) (number : Nat) (content : Bytes) :
    Prop where
  current : other.current = fs.current
  made : fs.made ≤ other.made
  file : other.get? place = some (.file number content)
  elsewhere : ∃ change, ∀ location, location ≠ place →
    other.get? location = (fs.get? location).map (Node.edited number change)
  before : fs.get? place = none ∧ number = fs.made ∧ fs.made < other.made ∨
    ∃ content, fs.get? place = some (.file number content)

/-- A file that is made is at its place, be it new or not. -/
theorem wrote_of_create {p : Path} {left number : Nat} {directory : Location} {name : Text}
    (hp : NamedIn fs p left directory name)
    (hlink : ∀ location target, fs.lookup false p ≠ .ok (.found location (.link target)))
    (h : fs.create p = .ok (other, number)) :
    nameFailure? p.text = none ∧ isLongPath p = false ∧ IsEntry name ∧
      fs.Wrote other (directory ++ [name]) number [] := by
  obtain ⟨htakes, h⟩ := create_eq_ok.mp h
  refine ⟨htakes, ?_⟩
  rw [hp.lookup_true hlink] at h
  obtain ⟨location, n, content, hlookup, hmade⟩ | ⟨location, hlookup, hmade⟩ := h
  · obtain ⟨hlong, hname, hplace⟩ := hp.entry hlookup (by simp)
    obtain ⟨rfl, hfile⟩ := placeAt_eq_found.mp hplace
    cases hmade
    refine ⟨hlong, hname, rfl, Nat.le_refl _, ?_, ⟨_, fun location _ => get?_edit fs _ _ location⟩,
      .inr ⟨content, hfile⟩⟩
    rw [get?_edit, hfile]
    simp [Node.edited]
  · obtain ⟨hlong, hname, hplace⟩ := hp.entry hlookup (by simp)
    obtain ⟨rfl, hnone⟩ := placeAt_eq_free.mp hplace
    cases hmade
    refine ⟨hlong, hname, rfl, Nat.le_succ _, get?_putFile_same fs (by simp), ⟨id, ?_⟩,
      .inl ⟨hnone, rfl, Nat.lt_succ_self _⟩⟩
    intro location hlocation
    refine (get?_putFile_other fs hlocation).trans ?_
    cases fs.get? location with
    | none => rfl
    | some node => cases node <;> simp [Node.edited]

namespace Wrote

variable {place : Location} {number : Nat} {content : Bytes}

theorem edit (h : fs.Wrote other place number content) (change : Bytes → Bytes) :
    fs.Wrote (other.edit number change) place number (change content) where
  current := h.current
  made := h.made
  file := by
    rw [get?_edit, h.file]
    simp [Node.edited]
  elsewhere := by
    obtain ⟨earlier, hearlier⟩ := h.elsewhere
    refine ⟨change ∘ earlier, fun location hlocation => ?_⟩
    rw [get?_edit, hearlier location hlocation, Option.map_map]
    congr 1
    funext node
    cases node with
    | file n content =>
      by_cases hn : n = number <;> simp [Node.edited, hn]
    | _ => rfl
  before := h.before

theorem number_lt (h : fs.Wrote other place number content) (hnumbered : fs.IsNumbered) :
    number < other.made := by
  obtain ⟨-, rfl, hlt⟩ | ⟨old, hold⟩ := h.before
  · exact hlt
  · exact Nat.lt_of_lt_of_le (hnumbered _ _ _ hold) h.made

theorem isNumbered (h : fs.Wrote other place number content) (hnumbered : fs.IsNumbered) :
    other.IsNumbered := by
  intro location n bytes hget
  by_cases hlocation : location = place
  · subst hlocation
    rw [h.file] at hget
    cases hget
    exact h.number_lt hnumbered
  · obtain ⟨change, hchange⟩ := h.elsewhere
    rw [hchange location hlocation, ← get?_edit] at hget
    exact Nat.lt_of_lt_of_le (isNumbered_edit hnumbered number change _ _ _ hget) h.made

/-- What ways go through is neither at the place nor changed. -/
theorem passable (h : fs.Wrote other place number content) {location : Location}
    (hpass : Passable fs location) :
    location ≠ place ∧ other.get? location = fs.get? location := by
  have hne : location ≠ place := by
    rintro rfl
    obtain ⟨hnone, -⟩ | ⟨old, hold⟩ := h.before
    · cases hpass with
      | directory hget => simp [hnone] at hget
      | link hget _ => simp [hnone] at hget
    · exact hpass.not_file _ _ hold
  obtain ⟨change, hchange⟩ := h.elsewhere
  refine ⟨hne, ?_⟩
  rw [hchange location hne]
  cases hpass with
  | directory hget => simp [hget, Node.edited]
  | link hget _ => simp [hget, Node.edited]

/-- What is found when the file has been taken away was found before it was put. -/
theorem lookup_of_erase (h : fs.Wrote other place number content) (hplace : place ≠ [])
    {follow : Bool} {p : Path} {location : Location} {node : Node}
    (hlookup : (other.erase place).lookup follow p = .ok (.found location node)) :
    ∃ old, fs.lookup follow p = .ok (.found location old) ∧
      ∃ change, node = old.edited number change := by
  obtain ⟨change, hchange⟩ := h.elsewhere
  have hedit : (fs.edit number change).lookup follow p = .ok (.found location node) := by
    have hcurrent : (fs.edit number change).current = (other.erase place).current :=
      h.current.symm
    refine lookup_frame hcurrent ?_ hlookup
    intro l n hget _
    have hne : l ≠ place := by
      rintro rfl
      rw [get?_erase_same other hplace] at hget
      contradiction
    rwa [get?_erase_other other hne, hchange l hne, ← get?_edit] at hget
  rw [lookup_edit] at hedit
  obtain ⟨found, hfound, hedited⟩ := map_eq_ok.mp hedit
  cases found with
  | free location => cases hedited
  | found location' old =>
    cases hedited
    exact ⟨old, hfound, change, rfl⟩

/-- Another file is found when the file has been taken away. -/
theorem erase_lookup (h : fs.Wrote other place number content) {p : Path} {location : Location}
    {n : Nat} {bytes : Bytes} (hn : n ≠ number)
    (hlookup : fs.lookup true p = .ok (.found location (.file n bytes))) :
    (other.erase place).lookup true p = .ok (.found location (.file n bytes)) := by
  obtain ⟨change, hchange⟩ := h.elsewhere
  have hedit := lookup_edit_of_file hlookup number change
  rw [if_neg hn] at hedit
  have hcurrent : (other.erase place).current = (fs.edit number change).current := h.current
  refine lookup_frame hcurrent ?_ hedit
  intro l m hget hfile
  have hne : l ≠ place := by
    rintro rfl
    rw [get?_edit, Option.map_eq_some_iff] at hget
    obtain ⟨old, hold, hedited⟩ := hget
    obtain ⟨hnone, -⟩ | ⟨bytes', hbytes⟩ := h.before
    · simp [hnone] at hold
    · obtain rfl := Option.some.inj (hbytes.symm.trans hold)
      have hm := hfile number _ hedited.symm
      rw [← hedited] at hm
      exact hn (Node.file.inj hm).1.symm
  rw [get?_erase_other other hne, hchange l hne, ← get?_edit, hget]

end Wrote

end FileSystem
end GameArchive
