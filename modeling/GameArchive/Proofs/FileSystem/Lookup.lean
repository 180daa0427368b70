import GameArchive.FileSystem.Lookup
import GameArchive.Proofs.Text.Names
import Mathlib.Tactic.SplitIfs

/-!
# Where lookups lead

A lookup is cut in two before its last name: the names in front lead over links from directory to
directory, and the last name is looked up where they end. These ways are a relation, so what
happens elsewhere in a file system does not change them: they pass through directories and through
links that lead to directories, and keep wherever these are kept.
-/

namespace GameArchive

/-- The node after the content of the file with a number has changed. -/
def Node.edited (number : Nat) (change : Bytes → Bytes) : Node → Node
  | .file n content => .file n (if n = number then change content else content)
  | other => other

/-! ## Names as the system spells them -/

namespace Path

theorem entryNames_append (anchor : Anchor) (before names : List Text) :
    entryNames ⟨anchor, before ++ names⟩ = entryNames ⟨anchor, before⟩ ++ names.map Utf8.entryName :=
  List.map_append

theorem entryNames_child (p : Path) (name : Text) :
    (p.child name).entryNames = p.entryNames ++ [Utf8.entryName name] := entryNames_append ..

theorem entryNames_parent (p : Path) : p.parent.entryNames = p.entryNames.dropLast := List.map_dropLast

end Path

namespace FileSystem

@[simp] theorem isUp_entryName (name : Text) : isUp (Utf8.entryName name) = isUp name := by
  simp only [isUp, Utf8.entryName_eq_plain (t := Text.ofString "..") (by decide)]

@[simp] theorem isHere_entryName (name : Text) : isHere (Utf8.entryName name) = isHere name := by
  simp only [isHere, Utf8.entryName_eq_plain (t := Text.ofString ".") (by decide)]

@[simp] theorem isLongName_entryName (name : Text) :
    isLongName (Utf8.entryName name) = isLongName name := by
  rw [isLongName, Utf8.encodeName_entryName, isLongName]

/-! ## Nodes of changed file systems -/

theorem get?_edit (fs : FileSystem) (number : Nat) (change : Bytes → Bytes) (location : Location) :
    (fs.edit number change).get? location = (fs.get? location).map (Node.edited number change) := by
  unfold get? edit
  split
  · rfl
  · dsimp only
    induction fs.entries with
    | nil => rfl
    | cons entry rest ih =>
      obtain ⟨place, node⟩ := entry
      simp only [List.map_cons, List.lookup_cons]
      split
      · cases node <;> rfl
      · exact ih

theorem get?_putFile_same (fs : FileSystem) {location : Location} (h : location ≠ []) :
    (fs.putFile location).1.get? location = some (.file fs.made []) :=
  get?_put_same fs _ h

theorem get?_putFile_other (fs : FileSystem) {location other : Location} (h : other ≠ location) :
    (fs.putFile location).1.get? other = fs.get? other :=
  get?_put_other fs _ h

/-! ## One name after another -/

/-- Where the target of a link is looked up that is found in a directory. -/
def linkStart (directory : Location) (target : Text) : Location :=
  if Path.anchorOf target = .relative then directory else []

theorem followLinks_nil (fs : FileSystem) (follow : Bool) (links : Nat) (directory : Location) :
    followLinks fs follow links directory [] = .ok (.found directory .directory) := by
  cases links <;> rfl

theorem followLinks_cons (fs : FileSystem) (follow : Bool) (links : Nat) (directory : Location)
    (name : Text) (rest : List Text) :
    followLinks fs follow links directory (name :: rest) =
      if isUp name then followLinks fs follow links directory.dropLast rest
      else if isHere name then followLinks fs follow links directory rest
      else if isLongName name then .error .nameTooLong
      else
        match fs.get? (directory ++ [name]) with
        | none => if rest = [] then .ok (.free (directory ++ [name])) else .error .noEntry
        | some .directory => followLinks fs follow links (directory ++ [name]) rest
        | some (.file number content) =>
          if rest = [] then .ok (.found (directory ++ [name]) (.file number content))
          else .error .notDirectory
        | some (.link target) =>
          if rest = [] ∧ !follow then .ok (.found (directory ++ [name]) (.link target))
          else
            match links with
            | 0 => .error .loop
            | links + 1 =>
              followLinks fs follow links (linkStart directory target)
                (targetNames target ++ rest) := by
  cases links <;> rfl

/-! ## Changed contents -/

/-- The place after the content of the file with a number has changed. -/
def Place.edited (number : Nat) (change : Bytes → Bytes) : Place → Place
  | .found location node => .found location (node.edited number change)
  | .free location => .free location

theorem followFrom_edit (fs : FileSystem) (number : Nat) (change : Bytes → Bytes) {follow : Bool}
    {onLink after : Location → List Text → Except Errno Place}
    (h : ∀ directory names, after directory names =
      (onLink directory names).map (Place.edited number change))
    (directory : Location) (names : List Text) :
    followFrom (fs.edit number change) follow after directory names =
      (followFrom fs follow onLink directory names).map (Place.edited number change) := by
  induction names generalizing directory with
  | nil => rfl
  | cons name rest ih =>
    simp only [followFrom, get?_edit, ih]
    split
    · rfl
    split
    · rfl
    split
    · rfl
    cases fs.get? (directory ++ [name]) with
    | none =>
      rw [Option.map_none]
      by_cases hrest : rest = [] <;> simp only [hrest] <;> rfl
    | some node =>
      cases node with
      | directory => rfl
      | file n content =>
        simp only [Option.map_some, Node.edited]
        by_cases hrest : rest = [] <;> simp only [hrest] <;> rfl
      | link target =>
        simp only [Option.map_some, Node.edited]
        split
        · rfl
        · exact h _ _

theorem followLinks_edit (fs : FileSystem) (number : Nat) (change : Bytes → Bytes)
    (follow : Bool) (links : Nat) (directory : Location) (names : List Text) :
    followLinks (fs.edit number change) follow links directory names =
      (followLinks fs follow links directory names).map (Place.edited number change) := by
  induction links generalizing directory names with
  | zero =>
    apply followFrom_edit
    intro _ _
    rfl
  | succ links ih =>
    apply followFrom_edit
    exact ih

theorem lookup_edit (fs : FileSystem) (number : Nat) (change : Bytes → Bytes) (follow : Bool)
    (p : Path) :
    (fs.edit number change).lookup follow p =
      (fs.lookup follow p).map (Place.edited number change) := by
  unfold lookup
  split
  · rfl
  · exact followLinks_edit fs number change follow linkLimit (fs.startOf p) p.entryNames

theorem lookup_edit_of_file {fs : FileSystem} {follow : Bool} {p : Path} {location : Location}
    {number : Nat} {content : Bytes}
    (h : fs.lookup follow p = .ok (.found location (.file number content)))
    (edited : Nat) (change : Bytes → Bytes) :
    (fs.edit edited change).lookup follow p =
      .ok (.found location
        (.file number (if number = edited then change content else content))) := by
  rw [lookup_edit, h]
  rfl

theorem lookup_edit_eq_link {fs : FileSystem} {number : Nat} {change : Bytes → Bytes}
    {follow : Bool} {p : Path} {location : Location} {target : Text} :
    (fs.edit number change).lookup follow p = .ok (.found location (.link target)) ↔
      fs.lookup follow p = .ok (.found location (.link target)) := by
  rw [lookup_edit]
  cases fs.lookup follow p with
  | error e => simp [Except.map]
  | ok place =>
    cases place with
    | free other => simp [Except.map, Place.edited]
    | found other node => cases node <;> simp [Except.map, Place.edited, Node.edited]

/-! ## Ways -/

/-- A name that is looked up in a directory. -/
structure IsEntry (name : Text) : Prop where
  not_up : isUp name = false
  not_here : isHere name = false
  not_long : isLongName name = false

/-- The names lead from a directory to a directory, over the given number of links. -/
inductive Leads (fs : FileSystem) : Nat → Location → List Text → Location → Prop where
  | stay {directory : Location} : Leads fs 0 directory [] directory
  | up {n : Nat} {directory place : Location} {name : Text} {rest : List Text} :
      isUp name = true → Leads fs n directory.dropLast rest place →
      Leads fs n directory (name :: rest) place
  | here {n : Nat} {directory place : Location} {name : Text} {rest : List Text} :
      isUp name = false → isHere name = true → Leads fs n directory rest place →
      Leads fs n directory (name :: rest) place
  | enter {n : Nat} {directory place : Location} {name : Text} {rest : List Text} :
      IsEntry name → fs.get? (directory ++ [name]) = some .directory →
      Leads fs n (directory ++ [name]) rest place → Leads fs n directory (name :: rest) place
  | link {n : Nat} {directory place : Location} {name target : Text} {rest : List Text} :
      IsEntry name → fs.get? (directory ++ [name]) = some (.link target) →
      Leads fs n (linkStart directory target) (targetNames target ++ rest) place →
      Leads fs (n + 1) directory (name :: rest) place

namespace Leads

variable {fs : FileSystem} {n links : Nat} {directory place : Location} {names rest : List Text}

/-- A lookup goes on where the first names lead, with the links that are left. -/
theorem followLinks_append (h : Leads fs n directory names place) {follow : Bool}
    (hrest : follow = true ∨ rest ≠ []) :
    followLinks fs follow (n + links) directory (names ++ rest) =
      followLinks fs follow links place rest := by
  induction h with
  | stay => rw [Nat.zero_add, List.nil_append]
  | up hup _ ih =>
    rw [List.cons_append, followLinks_cons, if_pos hup, ih]
  | here hup hhere _ ih =>
    rw [List.cons_append, followLinks_cons]
    simp [hup, hhere, ih]
  | enter hname hget _ ih =>
    rw [List.cons_append, followLinks_cons]
    simp [hname.not_up, hname.not_here, hname.not_long, hget, ih]
  | @link m middle _ name target tail hname hget _ ih =>
    have hgoes : ¬(tail ++ rest = [] ∧ (!follow) = true) := by
      rintro ⟨hnil, hfollow⟩
      rcases hrest with rfl | hrest
      · contradiction
      · exact hrest (List.append_eq_nil_iff.mp hnil).2
    rw [List.append_assoc] at ih
    rw [List.cons_append, followLinks_cons, Nat.succ_add]
    simp only [hname.not_up, hname.not_here, hname.not_long, hget, Bool.false_eq_true, if_false,
      if_neg hgoes, ih]

/-- What leads somewhere leads to a directory with its first names. -/
theorem exists_of_append (h : Leads fs n directory (names ++ rest) place) :
    ∃ m middle, Leads fs m directory names middle := by
  generalize hall : names ++ rest = all at h
  induction h generalizing names with
  | stay =>
    rw [(List.append_eq_nil_iff.mp hall).1]
    exact ⟨0, _, .stay⟩
  | up hup hrest ih =>
    cases names with
    | nil => exact ⟨0, _, .stay⟩
    | cons name names =>
      cases hall
      obtain ⟨m, middle, h⟩ := ih rfl
      exact ⟨m, middle, .up hup h⟩
  | here hup hhere _ ih =>
    cases names with
    | nil => exact ⟨0, _, .stay⟩
    | cons name names =>
      cases hall
      obtain ⟨m, middle, h⟩ := ih rfl
      exact ⟨m, middle, .here hup hhere h⟩
  | enter hname hget _ ih =>
    cases names with
    | nil => exact ⟨0, _, .stay⟩
    | cons name names =>
      cases hall
      obtain ⟨m, middle, h⟩ := ih rfl
      exact ⟨m, middle, .enter hname hget h⟩
  | @link _ _ _ _ target _ hname hget _ ih =>
    cases names with
    | nil => exact ⟨0, _, .stay⟩
    | cons name names =>
      cases hall
      obtain ⟨m, middle, h⟩ := ih (List.append_assoc (targetNames target) names rest)
      exact ⟨m + 1, middle, .link hname hget h⟩

end Leads

/-! ## Lookups cut in two -/

variable {fs : FileSystem} {follow : Bool} {place : Place}

theorem followFrom_mono {onLink other : Location → List Text → Except Errno Place}
    (honLink : ∀ directory names place, onLink directory names = .ok place →
      other directory names = .ok place)
    {directory : Location} {names : List Text}
    (h : followFrom fs follow onLink directory names = .ok place) :
    followFrom fs follow other directory names = .ok place := by
  induction names generalizing directory with
  | nil => exact h
  | cons name rest ih =>
    by_cases hup : isUp name = true
    · simp only [followFrom, if_pos hup] at h ⊢
      exact ih h
    by_cases hhere : isHere name = true
    · simp only [followFrom, if_neg hup, if_pos hhere] at h ⊢
      exact ih h
    by_cases hlong : isLongName name = true
    · simp only [followFrom, if_neg hup, if_neg hhere, if_pos hlong] at h
      contradiction
    simp only [followFrom, if_neg hup, if_neg hhere, if_neg hlong] at h ⊢
    cases hget : fs.get? (directory ++ [name]) with
    | none => simpa only [hget] using h
    | some node =>
      rw [hget] at h
      cases node with
      | directory => exact ih h
      | file number content => exact h
      | link target =>
        dsimp only at h ⊢
        split at h
        · next hlast => rwa [if_pos hlast]
        · next hgoes =>
          rw [if_neg hgoes]
          exact honLink _ _ _ h

theorem followLinks_succ {links : Nat} {directory : Location} {names : List Text}
    (h : followLinks fs follow links directory names = .ok place) :
    followLinks fs follow (links + 1) directory names = .ok place := by
  induction links generalizing directory names place with
  | zero =>
    refine followFrom_mono ?_ h
    intro _ _ _ hloop
    contradiction
  | succ links ih =>
    refine followFrom_mono ?_ h
    intro _ _ _ hplace
    exact ih hplace

/-- What is found is found with more links left too. -/
theorem followLinks_mono {links : Nat} {directory : Location} {names : List Text}
    (h : followLinks fs follow links directory names = .ok place) (more : Nat) :
    followLinks fs follow (links + more) directory names = .ok place := by
  induction more with
  | zero => exact h
  | succ more ih => exact followLinks_succ ih

/-- A lookup of several names leads to a directory first, where it looks up the last one. -/
theorem exists_leads {links : Nat} {directory : Location} {names : List Text} {name : Text}
    (h : followLinks fs follow links directory (names ++ [name]) = .ok place) :
    ∃ n left middle, links = n + left ∧ Leads fs n directory names middle ∧
      followLinks fs follow left middle [name] = .ok place := by
  -- A link puts the names of its target in front, so the names get fewer only between two links.
  induction links using Nat.strongRecOn generalizing directory names with
  | ind links ihLinks =>
    induction names generalizing directory with
    | nil => exact ⟨0, links, directory, (Nat.zero_add _).symm, .stay, h⟩
    | cons first names ih =>
      rw [List.cons_append, followLinks_cons] at h
      split at h
      · next hup =>
        obtain ⟨n, left, middle, hlinks, hleads, hlast⟩ := ih h
        exact ⟨n, left, middle, hlinks, .up hup hleads, hlast⟩
      split at h
      · next hup hhere =>
        obtain ⟨n, left, middle, hlinks, hleads, hlast⟩ := ih h
        exact ⟨n, left, middle, hlinks, .here (Bool.eq_false_iff.mpr hup) hhere hleads, hlast⟩
      split at h
      · contradiction
      next hup hhere hlong =>
      have hname : IsEntry first := ⟨Bool.eq_false_iff.mpr hup, Bool.eq_false_iff.mpr hhere,
        Bool.eq_false_iff.mpr hlong⟩
      cases hget : fs.get? (directory ++ [first]) with
      | none => simp [hget] at h
      | some node =>
        rw [hget] at h
        cases node with
        | directory =>
          obtain ⟨n, left, middle, hlinks, hleads, hlast⟩ := ih h
          exact ⟨n, left, middle, hlinks, .enter hname hget hleads, hlast⟩
        | file number content => simp at h
        | link target =>
          have hgoes : ¬(names ++ [name] = [] ∧ (!follow) = true) := by simp
          dsimp only at h
          rw [if_neg hgoes] at h
          cases links with
          | zero => contradiction
          | succ links =>
            dsimp only at h
            rw [← List.append_assoc] at h
            obtain ⟨n, left, middle, hlinks, hleads, hlast⟩ :=
              ihLinks links (Nat.lt_succ_self links) h
            exact ⟨n + 1, left, middle, by omega, .link hname hget hleads, hlast⟩

/-! ## Other file systems -/

/-- A way to a directory can go through the location: a directory is there, or a link to one. -/
inductive Passable (fs : FileSystem) : Location → Prop where
  | directory {location : Location} : fs.get? location = some .directory → Passable fs location
  | link {n : Nat} {directory place : Location} {name target : Text} :
      fs.get? (directory ++ [name]) = some (.link target) →
      Leads fs n (linkStart directory target) (targetNames target) place →
      Passable fs (directory ++ [name])

theorem Passable.not_file {location : Location} (h : Passable fs location) (number : Nat)
    (content : Bytes) : fs.get? location ≠ some (.file number content) := by
  cases h with
  | directory hget => simp [hget]
  | link hget _ => simp [hget]

/-- A way is the same where everything that a way can go through is still there. -/
theorem Leads.frame {other : FileSystem} {n : Nat} {directory place : Location}
    {names : List Text} (h : Leads fs n directory names place)
    (hkeeps : ∀ location, Passable fs location → other.get? location = fs.get? location) :
    Leads other n directory names place := by
  induction h with
  | stay => exact .stay
  | up hup _ ih => exact .up hup ih
  | here hup hhere _ ih => exact .here hup hhere ih
  | enter hname hget _ ih => exact .enter hname ((hkeeps _ (.directory hget)).trans hget) ih
  | link hname hget hrest ih =>
    obtain ⟨m, middle, htarget⟩ := hrest.exists_of_append
    exact .link hname ((hkeeps _ (.link hget htarget)).trans hget) ih

/-- A link that leads to a file is not passed. -/
theorem not_passable_of_link {directory location : Location} {name target : Text} {links : Nat}
    {number : Nat} {content : Bytes}
    (hget : fs.get? (directory ++ [name]) = some (.link target))
    (hfile : followLinks fs true links (linkStart directory target) (targetNames target) =
      .ok (.found location (.file number content))) :
    ¬Passable fs (directory ++ [name]) := by
  intro hpassable
  generalize hplace : directory ++ [name] = place at hpassable
  cases hpassable with
  | directory hother => simp [← hplace, hget] at hother
  | @link n other end' otherName otherTarget hother hleads =>
    obtain ⟨rfl, hnames⟩ := List.append_inj' hplace rfl
    obtain rfl : name = otherName := by simpa using hnames
    obtain rfl : target = otherTarget := by simpa [hget] using hother
    -- The same lookup ends at a directory by the way and at a file by the assumption.
    have hdirectory : followLinks fs true (n + links) (linkStart directory target)
        (targetNames target ++ []) = .ok (.found end' .directory) := by
      rw [hleads.followLinks_append (.inl rfl), followLinks_nil]
    rw [List.append_nil, Nat.add_comm, followLinks_mono hfile n] at hdirectory
    simp at hdirectory

/-- A file is found by a name in a directory, and this name is not passed by any way. -/
theorem exists_leads_of_file {links : Nat} {directory location : Location} {names : List Text}
    {number : Nat} {content : Bytes}
    (h : followLinks fs true links directory names = .ok (.found location (.file number content))) :
    ∃ n left before middle name, names = before ++ [name] ∧ links = n + left ∧ IsEntry name ∧
      Leads fs n directory before middle ∧ ¬Passable fs (middle ++ [name]) ∧
      ∃ node, fs.get? (middle ++ [name]) = some node ∧ node ≠ .directory := by
  obtain rfl | ⟨before, name, rfl⟩ := names.eq_nil_or_concat
  · simp [followLinks_nil] at h
  rw [List.concat_eq_append] at h
  obtain ⟨n, left, middle, hlinks, hleads, hlast⟩ := exists_leads h
  refine ⟨n, left, before, middle, name, List.concat_eq_append, hlinks, ?_⟩
  rw [followLinks_cons] at hlast
  simp only [followLinks_nil] at hlast
  split at hlast
  · simp at hlast
  split at hlast
  · simp at hlast
  split at hlast
  · contradiction
  next hup hhere hlong =>
  refine ⟨⟨by simpa using hup, by simpa using hhere, by simpa using hlong⟩, hleads, ?_⟩
  cases hget : fs.get? (middle ++ [name]) with
  | none => simp [hget] at hlast
  | some node =>
    rw [hget] at hlast
    cases node with
    | directory => simp at hlast
    | file number content => exact ⟨fun hpass => hpass.not_file _ _ hget, _, rfl, by simp⟩
    | link target =>
      refine ⟨?_, _, rfl, by simp⟩
      cases left with
      | zero => simp at hlast
      | succ left => exact not_passable_of_link hget (by simpa using hlast)

end FileSystem
end GameArchive
