import GameArchive.Proofs.FileSystem.Frame
import Mathlib.Data.List.Perm.Subperm

/-!
# Resolved paths

Resolving a path follows links as a lookup does, but in writing: it goes on from the path that it
has come to, and remembers the links that it has met. Where a lookup finds something, the resolved
path names the place where it is. A link that is met inside its own target leads nowhere, so on the
way to something that is found none is met twice at the same time.
-/

namespace GameArchive
namespace FileSystem

variable {fs : FileSystem}

/-! ## File systems that are trees -/

/-- A name that something can have in a directory, as the system spells it. -/
structure IsProper (name : Text) : Prop where
  ne_nil : name ≠ []
  not_up : isUp name = false
  not_here : isHere name = false
  entryName_eq : Utf8.entryName name = name

instance (name : Text) : Decidable (IsProper name) :=
  decidable_of_iff
    (name ≠ [] ∧ isUp name = false ∧ isHere name = false ∧ Utf8.entryName name = name)
    ⟨fun h => ⟨h.1, h.2.1, h.2.2.1, h.2.2.2⟩,
      fun h => ⟨h.ne_nil, h.not_up, h.not_here, h.entryName_eq⟩⟩

theorem map_entryName_eq_self {names : List Text} (h : ∀ name ∈ names, IsProper name) :
    names.map Utf8.entryName = names := by
  have hsame : ∀ name ∈ names, Utf8.entryName name = id name := fun name hname =>
    (h name hname).entryName_eq
  rw [List.map_congr_left hsame, List.map_id]

/-- All that there is has a proper name in a directory, and relative paths start in a directory. -/
structure IsTree (fs : FileSystem) : Prop where
  above : ∀ location name node, fs.get? (location ++ [name]) = some node →
    fs.get? location = some .directory
  named : ∀ location name node, fs.get? (location ++ [name]) = some node → IsProper name
  current : fs.get? fs.current = some .directory

theorem get?_nil (fs : FileSystem) : fs.get? [] = some .directory := rfl

namespace IsTree

theorem dropLast (h : fs.IsTree) {location : Location}
    (hget : fs.get? location = some .directory) : fs.get? location.dropLast = some .directory := by
  obtain rfl | ⟨before, name, rfl⟩ := location.eq_nil_or_concat
  · exact hget
  · rw [List.concat_eq_append] at hget ⊢
    rw [List.dropLast_concat]
    exact h.above _ _ _ hget

theorem directory_of_append (h : fs.IsTree) {location names : List Text} {node : Node}
    (hget : fs.get? (location ++ names) = some node) (hne : names ≠ []) :
    fs.get? location = some .directory := by
  induction names generalizing location with
  | nil => contradiction
  | cons name rest ih =>
    rw [List.append_cons] at hget
    by_cases hrest : rest = []
    · rw [hrest, List.append_nil] at hget
      exact h.above _ _ _ hget
    · exact h.above _ _ _ (ih hget hrest)

theorem isProper_of_mem (h : fs.IsTree) {location : Location} {node : Node}
    (hget : fs.get? location = some node) {name : Text} (hname : name ∈ location) :
    IsProper name := by
  obtain ⟨before, behind, rfl⟩ := List.append_of_mem hname
  rw [List.append_cons] at hget
  by_cases hlast : behind = []
  · rw [hlast, List.append_nil] at hget
    exact h.named _ _ _ hget
  · exact h.named _ _ _ (h.directory_of_append hget hlast)

/-- Where something is, names are as the system spells them. -/
theorem map_entryName (h : fs.IsTree) {location : Location} {node : Node}
    (hget : fs.get? location = some node) : location.map Utf8.entryName = location :=
  map_entryName_eq_self fun _ => h.isProper_of_mem hget

theorem startOf (h : fs.IsTree) (p : Path) : fs.get? (fs.startOf p) = some .directory := by
  unfold FileSystem.startOf
  split
  · exact h.current
  · rfl

theorem linkStart (_ : fs.IsTree) {directory : Location}
    (hget : fs.get? directory = some .directory) (target : Text) :
    fs.get? (linkStart directory target) = some .directory := by
  unfold FileSystem.linkStart
  split
  · exact hget
  · rfl

end IsTree

theorem mem_entries_of_get? {location : Location} {node : Node} (h : fs.get? location = some node)
    (hne : location ≠ []) : (location, node) ∈ fs.entries := by
  rw [get?, if_neg hne] at h
  obtain ⟨before, behind, hentries, -⟩ := List.lookup_eq_some_iff.mp h
  simp [hentries]

theorem isTree_of_entries
    (h : ∀ entry ∈ fs.entries, fs.get? entry.1.dropLast = some .directory ∧
      IsProper (entry.1.getLast?.getD []))
    (hcurrent : fs.get? fs.current = some .directory) : fs.IsTree where
  above location name node hget := by
    simpa using (h _ (mem_entries_of_get? hget (by simp))).1
  named location name node hget := by
    simpa using (h _ (mem_entries_of_get? hget (by simp))).2
  current := hcurrent

/-! ## Ways to what is found -/

/-- The names lead from a directory to a node, over the given number of links; a link at the end is
followed too. The names of a target are followed to their end before those behind the link. -/
inductive Reaches (fs : FileSystem) : Nat → Location → List Text → Location → Node → Prop where
  | stay {directory : Location} : Reaches fs 0 directory [] directory .directory
  | up {n : Nat} {directory place : Location} {name : Text} {rest : List Text} {node : Node} :
      isUp name = true → Reaches fs n directory.dropLast rest place node →
      Reaches fs n directory (name :: rest) place node
  | here {n : Nat} {directory place : Location} {name : Text} {rest : List Text} {node : Node} :
      isUp name = false → isHere name = true → Reaches fs n directory rest place node →
      Reaches fs n directory (name :: rest) place node
  | enter {n : Nat} {directory place : Location} {name : Text} {rest : List Text} {node : Node} :
      IsEntry name → fs.get? (directory ++ [name]) = some .directory →
      Reaches fs n (directory ++ [name]) rest place node →
      Reaches fs n directory (name :: rest) place node
  | file {directory : Location} {name : Text} {number : Nat} {content : Bytes} :
      IsEntry name → fs.get? (directory ++ [name]) = some (.file number content) →
      Reaches fs 0 directory [name] (directory ++ [name]) (.file number content)
  | link {m n : Nat} {directory middle place : Location} {name target : Text} {rest : List Text}
      {node : Node} :
      IsEntry name → fs.get? (directory ++ [name]) = some (.link target) →
      Reaches fs m (linkStart directory target) (targetNames target) middle .directory →
      Reaches fs n middle rest place node →
      Reaches fs (m + n + 1) directory (name :: rest) place node
  | lastLink {m : Nat} {directory place : Location} {name target : Text} {node : Node} :
      IsEntry name → fs.get? (directory ++ [name]) = some (.link target) →
      Reaches fs m (linkStart directory target) (targetNames target) place node →
      Reaches fs (m + 1) directory [name] place node

namespace Reaches

variable {n m : Nat} {directory place : Location} {names rest : List Text} {node : Node}

/-- A way along names and then others comes to a directory in between. -/
theorem split (h : Reaches fs n directory (names ++ rest) place node) (hrest : rest ≠ []) :
    ∃ m k middle, Reaches fs m directory names middle .directory ∧
      Reaches fs k middle rest place node ∧ m + k = n := by
  cases names with
  | nil => exact ⟨0, n, directory, .stay, h, Nat.zero_add n⟩
  | cons first names =>
    generalize hall : first :: names ++ rest = all at h
    induction h generalizing first names with
    | stay => contradiction
    | up hup hgoes ih =>
      obtain ⟨rfl, rfl⟩ := List.cons.inj hall
      cases names with
      | nil => exact ⟨0, _, _, .up hup .stay, hgoes, Nat.zero_add _⟩
      | cons second names =>
        obtain ⟨m, k, middle, hfirst, hsecond, hcount⟩ := ih second names rfl
        exact ⟨m, k, middle, .up hup hfirst, hsecond, hcount⟩
    | here hup hhere hgoes ih =>
      obtain ⟨rfl, rfl⟩ := List.cons.inj hall
      cases names with
      | nil => exact ⟨0, _, _, .here hup hhere .stay, hgoes, Nat.zero_add _⟩
      | cons second names =>
        obtain ⟨m, k, middle, hfirst, hsecond, hcount⟩ := ih second names rfl
        exact ⟨m, k, middle, .here hup hhere hfirst, hsecond, hcount⟩
    | enter hname hget hgoes ih =>
      obtain ⟨rfl, rfl⟩ := List.cons.inj hall
      cases names with
      | nil => exact ⟨0, _, _, .enter hname hget .stay, hgoes, Nat.zero_add _⟩
      | cons second names =>
        obtain ⟨m, k, middle, hfirst, hsecond, hcount⟩ := ih second names rfl
        exact ⟨m, k, middle, .enter hname hget hfirst, hsecond, hcount⟩
    | link hname hget htarget hgoes _ ih =>
      obtain ⟨rfl, rfl⟩ := List.cons.inj hall
      cases names with
      | nil => exact ⟨_, _, _, .link hname hget htarget .stay, hgoes, by omega⟩
      | cons second names =>
        obtain ⟨m, k, middle, hfirst, hsecond, hcount⟩ := ih second names rfl
        exact ⟨_, k, middle, .link hname hget htarget hfirst, hsecond, by omega⟩
    | file | lastLink => exact absurd (List.append_eq_nil_iff.mp (List.cons.inj hall).2).2 hrest

theorem up_iff {name : Text} (hup : isUp name = true) :
    Reaches fs n directory (name :: rest) place node ↔
      Reaches fs n directory.dropLast rest place node := by
  refine ⟨fun h => ?_, .up hup⟩
  cases h with
  | up _ hgoes => exact hgoes
  | here hnot => simp [hup] at hnot
  | enter hname | file hname | link hname | lastLink hname => simp [hname.not_up] at hup

theorem here_iff {name : Text} (hup : isUp name = false) (hhere : isHere name = true) :
    Reaches fs n directory (name :: rest) place node ↔
      Reaches fs n directory rest place node := by
  refine ⟨fun h => ?_, .here hup hhere⟩
  cases h with
  | up hnot => simp [hup] at hnot
  | here _ _ hgoes => exact hgoes
  | enter hname | file hname | link hname | lastLink hname => simp [hname.not_here] at hhere

theorem enter_iff {name : Text} (hname : IsEntry name)
    (hget : fs.get? (directory ++ [name]) = some .directory) :
    Reaches fs n directory (name :: rest) place node ↔
      Reaches fs n (directory ++ [name]) rest place node := by
  refine ⟨fun h => ?_, .enter hname hget⟩
  cases h with
  | up hnot => simp [hname.not_up] at hnot
  | here _ hnot => simp [hname.not_here] at hnot
  | enter _ _ hgoes => exact hgoes
  | file _ hother | link _ hother | lastLink _ hother => simp [hget] at hother

theorem of_file {name : Text} (hname : IsEntry name) {number : Nat} {content : Bytes}
    (hget : fs.get? (directory ++ [name]) = some (.file number content))
    (h : Reaches fs n directory (name :: rest) place node) :
    rest = [] ∧ n = 0 ∧ place = directory ++ [name] ∧ node = .file number content := by
  cases h with
  | up hnot => simp [hname.not_up] at hnot
  | here _ hnot => simp [hname.not_here] at hnot
  | file _ hother => simpa [hget, eq_comm] using hother
  | enter _ hother | link _ hother | lastLink _ hother => simp [hget] at hother

/-- The target of a link leads to a directory if names follow, and else to what the link leads to. -/
theorem of_link {name target : Text} (hname : IsEntry name)
    (hget : fs.get? (directory ++ [name]) = some (.link target))
    (h : Reaches fs n directory (name :: rest) place node) :
    (∃ m k middle, Reaches fs m (linkStart directory target) (targetNames target) middle .directory ∧
      Reaches fs k middle rest place node ∧ n = m + k + 1) ∨
    ∃ m, Reaches fs m (linkStart directory target) (targetNames target) place node ∧
      rest = [] ∧ n = m + 1 := by
  cases h with
  | up hnot => simp [hname.not_up] at hnot
  | here _ hnot => simp [hname.not_here] at hnot
  | enter _ hother | file _ hother => simp [hget] at hother
  | link _ hother htarget hgoes =>
    obtain rfl : target = _ := by simpa [hget] using hother
    exact .inl ⟨_, _, _, htarget, hgoes, rfl⟩
  | lastLink _ hother htarget =>
    obtain rfl : target = _ := by simpa [hget] using hother
    exact .inr ⟨_, htarget, rfl, rfl⟩

theorem nil_iff : Reaches fs n directory [] place node ↔
    n = 0 ∧ place = directory ∧ node = .directory := by
  constructor
  · rintro ⟨⟩
    exact ⟨rfl, rfl, rfl⟩
  · rintro ⟨rfl, rfl, rfl⟩
    exact .stay

/-- There is one way only. -/
theorem unique (h : Reaches fs n directory names place node) {other : Location} {found : Node}
    (hother : Reaches fs m directory names other found) :
    m = n ∧ other = place ∧ found = node := by
  induction h generalizing m other found with
  | stay => exact nil_iff.mp hother
  | up hup _ ih => exact ih ((up_iff hup).mp hother)
  | here hup hhere _ ih => exact ih ((here_iff hup hhere).mp hother)
  | enter hname hget _ ih => exact ih ((enter_iff hname hget).mp hother)
  | file hname hget =>
    obtain ⟨-, hcount, hplace, hnode⟩ := of_file hname hget hother
    exact ⟨hcount, hplace, hnode⟩
  | link hname hget _ hgoes ihTarget ih =>
    obtain ⟨m, k, middle, htarget, hrest, rfl⟩ | ⟨m, htarget, rfl, rfl⟩ := of_link hname hget hother
    · obtain ⟨rfl, rfl, -⟩ := ihTarget htarget
      obtain ⟨rfl, hplace, hnode⟩ := ih hrest
      exact ⟨rfl, hplace, hnode⟩
    · obtain ⟨rfl, rfl, rfl⟩ := ihTarget htarget
      obtain ⟨rfl, rfl, rfl⟩ := nil_iff.mp hgoes
      exact ⟨rfl, rfl, rfl⟩
  | lastLink hname hget htarget ih =>
    obtain ⟨m, k, middle, hfirst, hrest, rfl⟩ | ⟨m, hfirst, -, rfl⟩ := of_link hname hget hother
    · obtain ⟨rfl, rfl, rfl⟩ := ih hfirst
      obtain ⟨rfl, rfl, rfl⟩ := nil_iff.mp hrest
      exact ⟨rfl, rfl, rfl⟩
    · obtain ⟨rfl, hplace, hnode⟩ := ih hfirst
      exact ⟨rfl, hplace, hnode⟩

/-- A way along the names of a target and then those behind the link is one over the link. -/
theorem over_link {name target : Text} (hname : IsEntry name)
    (hget : fs.get? (directory ++ [name]) = some (.link target))
    (h : Reaches fs n (linkStart directory target) (targetNames target ++ rest) place node) :
    Reaches fs (n + 1) directory (name :: rest) place node := by
  cases rest with
  | nil =>
    rw [List.append_nil] at h
    exact .lastLink hname hget h
  | cons second rest =>
    obtain ⟨m, k, middle, htarget, hgoes, rfl⟩ := h.split (by simp)
    exact .link hname hget htarget hgoes

end Reaches

/-- What a lookup finds is reached over no more links than the lookup may follow. -/
theorem exists_reaches {links : Nat} {directory place : Location} {names : List Text} {node : Node}
    (h : followLinks fs true links directory names = .ok (.found place node)) :
    ∃ n ≤ links, Reaches fs n directory names place node := by
  induction links using Nat.strongRecOn generalizing directory names with
  | ind links ihLinks =>
    induction names generalizing directory with
    | nil =>
      rw [followLinks_nil] at h
      cases h
      exact ⟨0, Nat.zero_le _, .stay⟩
    | cons name rest ih =>
      rw [followLinks_cons] at h
      split at h
      · next hup =>
        obtain ⟨n, hn, hreach⟩ := ih h
        exact ⟨n, hn, .up hup hreach⟩
      split at h
      · next hup hhere =>
        obtain ⟨n, hn, hreach⟩ := ih h
        exact ⟨n, hn, .here (Bool.eq_false_iff.mpr hup) hhere hreach⟩
      split at h
      · contradiction
      next hup hhere hlong =>
      have hname : IsEntry name := ⟨Bool.eq_false_iff.mpr hup, Bool.eq_false_iff.mpr hhere,
        Bool.eq_false_iff.mpr hlong⟩
      cases hget : fs.get? (directory ++ [name]) with
      | none =>
        rw [hget] at h
        dsimp only at h
        split at h <;> cases h
      | some found =>
        rw [hget] at h
        cases found with
        | directory =>
          obtain ⟨n, hn, hreach⟩ := ih h
          exact ⟨n, hn, .enter hname hget hreach⟩
        | file number content =>
          dsimp only at h
          split at h
          · next hlast =>
            subst hlast
            cases h
            exact ⟨0, Nat.zero_le _, .file hname hget⟩
          · contradiction
        | link target =>
          cases links with
          | zero => simp at h
          | succ links =>
            replace h : followLinks fs true links (linkStart directory target)
                (targetNames target ++ rest) = .ok (.found place node) := by simpa using h
            obtain ⟨n, hn, hreach⟩ := ihLinks links (Nat.lt_succ_self links) h
            exact ⟨n + 1, Nat.succ_le_succ hn, .over_link hname hget hreach⟩

/-! ## Paths that are come to -/

/-- Two dots stand only where a relative path goes up from where it starts. -/
def IsClean (p : Path) : Prop := p.anchor ≠ .relative → ∀ name ∈ p.names, isUp name = false

theorem plainFrom_concat (before names : List Text) (name : Text) :
    plainFrom before (names ++ [name]) =
      if isUp name then (plainFrom before names).dropLast else plainFrom before names ++ [name] := by
  simp [plainFrom]

theorem absolute_child (fs : FileSystem) (p : Path) {name : Text} (hup : isUp name = false) :
    fs.absolute (p.child name) = (fs.absolute p).child name := by
  have hstart : fs.startOf (p.child name) = fs.startOf p := rfl
  rw [absolute, hstart, Path.child, plainFrom_concat, if_neg (by simp [hup])]
  rfl

theorem locationOf_child (fs : FileSystem) (p : Path) {name : Text} (hup : isUp name = false) :
    fs.locationOf (p.child name) = fs.locationOf p ++ [Utf8.entryName name] := by
  rw [locationOf, absolute_child fs p hup, Path.entryNames_child]
  rfl

theorem locationOf_child_up (fs : FileSystem) (p : Path) {name : Text} (hup : isUp name = true) :
    fs.locationOf (p.child name) = (fs.locationOf p).dropLast := by
  have hstart : fs.startOf (p.child name) = fs.startOf p := rfl
  rw [locationOf, absolute, hstart, Path.child, plainFrom_concat, if_pos hup]
  exact Path.entryNames_parent (fs.absolute p)

/-- Names behind a path that are no two dots stay behind it. -/
theorem absolute_append (fs : FileSystem) (p : Path) {names : List Text}
    (h : ∀ name ∈ names, isUp name = false) :
    fs.absolute ⟨p.anchor, p.names ++ names⟩ = pathOf ((fs.absolute p).names ++ names) := by
  induction names generalizing p with
  | nil => simp [absolute, pathOf]
  | cons name names ih =>
    rw [List.forall_mem_cons] at h
    have hchild := ih (p.child name) h.2
    rw [absolute_child fs p h.1] at hchild
    simpa [Path.child] using hchild

theorem IsClean.child {p : Path} (h : IsClean p) {name : Text} (hup : isUp name = false) :
    IsClean (p.child name) := by
  intro hanchor other hother
  rcases List.mem_append.mp hother with hother | hother
  · exact h hanchor other hother
  · rwa [List.mem_singleton.mp hother]

theorem IsClean.above {p : Path} (h : IsClean p) : IsClean (above p) := by
  unfold FileSystem.above
  split
  · next hrelative => exact fun hanchor => absurd hrelative.1 hanchor
  · exact fun hanchor name hname => h hanchor name (List.dropLast_subset _ hname)

theorem isUp_dots : isUp (Text.ofString "..") = true := rfl

theorem locationOf_above {p : Path} (h : IsClean p) :
    fs.locationOf (above p) = (fs.locationOf p).dropLast := by
  unfold above
  split
  · exact locationOf_child_up fs p isUp_dots
  next hnot =>
  obtain ⟨anchor, names⟩ := p
  obtain rfl | ⟨before, name, rfl⟩ := names.eq_nil_or_concat
  · cases anchor <;> first | rfl | simp at hnot
  · rw [List.concat_eq_append] at *
    have hup : isUp name = false := by
      by_cases hanchor : anchor = .relative
      · simpa [hanchor, Path.name] using hnot
      · exact h hanchor name (by simp)
    have hchild := locationOf_child fs ⟨anchor, before⟩ hup
    rw [Path.child] at hchild
    rw [hchild, List.dropLast_concat, Path.parent, List.dropLast_concat]

/-! ## Steps of a resolution -/

/-- The name is one that is followed. -/
def isStep (name : Text) : Bool := !name.isEmpty && !isHere name

theorem IsProper.entryName {name : Text} (h : IsProper name) : IsProper (Utf8.entryName name) :=
  h.entryName_eq.symm ▸ h

theorem IsProper.isStep {name : Text} (h : IsProper name) : isStep name = true := by
  simp [FileSystem.isStep, h.ne_nil, h.not_here]

theorem isStep_of_isUp {name : Text} (h : isUp name = true) : FileSystem.isStep name = true := by
  rw [isUp, decide_eq_true_eq] at h
  subst h
  decide

@[simp] theorem isStep_entryName (name : Text) :
    FileSystem.isStep (Utf8.entryName name) = FileSystem.isStep name := by
  have hempty : (Utf8.entryName name).isEmpty = name.isEmpty := by
    rw [Bool.eq_iff_iff, List.isEmpty_iff, List.isEmpty_iff, Utf8.entryName_eq_nil]
  rw [FileSystem.isStep, hempty, isHere_entryName, FileSystem.isStep]

/-- The pieces between the slashes of a target are followed as its names are. -/
theorem filter_writtenNames (target : Text) :
    (writtenNames target).filter isStep = (target.split '/').filter isStep := by
  have hnames : (Path.ofText target).names = (target.split '/').filter isStep := by
    show Path.namesOf target = _
    unfold Path.namesOf
    congr 1
    funext name
    simp [isStep, isHere]
  have hhere : isStep (Text.ofString ".") = false := by decide
  rw [writtenNames, List.filter_append, hnames, List.filter_filter]
  simp only [Bool.and_self]
  split <;> simp [hhere]

/-- The path from which the target of a link is resolved that is met in a directory. -/
def targetStart (directory : Path) (target : Text) : Path :=
  if Path.anchorOf target = .relative then directory else ⟨.root, []⟩

theorem IsClean.targetStart {directory : Path} (h : IsClean directory) (target : Text) :
    IsClean (targetStart directory target) := by
  unfold FileSystem.targetStart
  split
  · exact h
  · simp [IsClean]

theorem locationOf_targetStart (fs : FileSystem) (directory : Path) (target : Text) :
    fs.locationOf (targetStart directory target) = linkStart (fs.locationOf directory) target := by
  unfold targetStart linkStart
  split <;> rfl

/-- Where the target of a link is resolved to. -/
def resolveTarget (fs : FileSystem) : (depth : Nat) → Path → List Text →
    List (Path × Option Path) → Resolved
  | 0 => fun directory names seen => ⟨unresolved directory names, true, seen⟩
  | depth + 1 => resolveLinks fs depth

theorem resolveLinks_nil (fs : FileSystem) (depth : Nat) (directory : Path)
    (seen : List (Path × Option Path)) :
    resolveLinks fs depth directory [] seen = ⟨directory, false, seen⟩ := by
  cases depth <;> rfl

theorem resolveLinks_cons (fs : FileSystem) (depth : Nat) (directory : Path) (name : Text)
    (rest : List Text) (seen : List (Path × Option Path)) :
    resolveLinks fs depth directory (name :: rest) seen =
      if isUp name then resolveLinks fs depth (above directory) rest seen
      else if name.isEmpty ∨ isHere name then resolveLinks fs depth directory rest seen
      else
        match fs.get? (fs.locationOf (directory.child name)) with
        | some (.link target) =>
          match seen.lookup (directory.child name) with
          | some (some known) => resolveLinks fs depth known rest seen
          | some none => ⟨unresolved (directory.child name) rest, true, seen⟩
          | none =>
            let r := resolveTarget fs depth (targetStart directory target) (target.split '/')
              ((directory.child name, none) :: seen)
            if r.looped then { r with path := unresolved r.path rest }
            else resolveLinks fs depth r.path rest ((directory.child name, some r.path) :: r.seen)
        | _ => resolveLinks fs depth (directory.child name) rest seen := by
  cases depth <;> rfl

theorem resolveLinks_up {depth : Nat} {directory : Path} {name : Text} {rest : List Text}
    {seen : List (Path × Option Path)} (hup : isUp name = true) :
    resolveLinks fs depth directory (name :: rest) seen =
      resolveLinks fs depth (above directory) rest seen := by
  rw [resolveLinks_cons, if_pos hup]

theorem resolveLinks_skip {depth : Nat} {directory : Path} {name : Text} {rest : List Text}
    {seen : List (Path × Option Path)} (hstep : isStep name = false) :
    resolveLinks fs depth directory (name :: rest) seen =
      resolveLinks fs depth directory rest seen := by
  have hskip : name.isEmpty = true ∨ isHere name = true := by
    cases name <;> simp_all [isStep]
  have hup : ¬isUp name = true := fun hup => by simp [isStep_of_isUp hup] at hstep
  rw [resolveLinks_cons, if_neg hup, if_pos hskip]

/-- A step leads to a cycle of links whatever follows, or to where the names that follow are resolved
from. If targets are resolved alike, more depth makes no difference to it. -/
theorem resolveLinks_cases (fs : FileSystem) (depth more : Nat)
    (htargets : ∀ directory names seen,
      (resolveTarget fs depth directory names seen).looped = false →
        resolveTarget fs more directory names seen = resolveTarget fs depth directory names seen)
    (directory : Path) (name : Text) (seen : List (Path × Option Path)) :
    (∀ rest, (resolveLinks fs depth directory (name :: rest) seen).looped = true) ∨
      ∃ next known, ∀ rest,
        resolveLinks fs depth directory (name :: rest) seen = resolveLinks fs depth next rest known ∧
        resolveLinks fs more directory (name :: rest) seen = resolveLinks fs more next rest known := by
  simp only [resolveLinks_cons]
  by_cases hup : isUp name = true
  · simp only [if_pos hup]
    exact .inr ⟨_, _, fun _ => ⟨rfl, rfl⟩⟩
  by_cases hskip : name.isEmpty = true ∨ isHere name = true
  · simp only [if_neg hup, if_pos hskip]
    exact .inr ⟨_, _, fun _ => ⟨rfl, rfl⟩⟩
  simp only [if_neg hup, if_neg hskip]
  split
  · next target _ =>
    split
    · exact .inr ⟨_, _, fun _ => ⟨rfl, rfl⟩⟩
    · exact .inl fun _ => rfl
    · by_cases hlooped : (resolveTarget fs depth (targetStart directory target) (target.split '/')
          ((directory.child name, none) :: seen)).looped = true
      · refine .inl fun rest => ?_
        rw [if_pos hlooped]
        exact hlooped
      · rw [htargets _ _ _ (by simpa using hlooped)]
        simp only [if_neg hlooped]
        exact .inr ⟨_, _, fun _ => ⟨rfl, rfl⟩⟩
  · exact .inr ⟨_, _, fun _ => ⟨rfl, rfl⟩⟩

section NotLooped

variable {depth : Nat} {directory : Path} {names : List Text} {seen : List (Path × Option Path)}

/-- Names that are no steps do not matter, unless links lead to each other. -/
theorem resolveLinks_filter
    (h : (resolveLinks fs depth directory (names.filter isStep) seen).looped = false) :
    resolveLinks fs depth directory names seen =
      resolveLinks fs depth directory (names.filter isStep) seen := by
  induction names generalizing directory seen with
  | nil => rfl
  | cons name rest ih =>
    by_cases hstep : isStep name = true
    · rw [List.filter_cons_of_pos hstep] at h ⊢
      obtain hloops | ⟨next, known, hnext⟩ :=
        resolveLinks_cases fs depth depth (fun _ _ _ _ => rfl) directory name seen
      · simp [hloops] at h
      · rw [(hnext _).1] at h ⊢
        rw [(hnext _).1]
        exact ih h
    · rw [List.filter_cons_of_neg hstep] at h ⊢
      rw [resolveLinks_skip (Bool.eq_false_iff.mpr hstep)]
      exact ih h

/-- Names that follow are resolved from where those before them are. -/
theorem resolveLinks_append (h : (resolveLinks fs depth directory names seen).looped = false)
    (rest : List Text) :
    resolveLinks fs depth directory (names ++ rest) seen =
      resolveLinks fs depth (resolveLinks fs depth directory names seen).path rest
        (resolveLinks fs depth directory names seen).seen := by
  induction names generalizing directory seen with
  | nil => simp only [List.nil_append, resolveLinks_nil]
  | cons name names ih =>
    obtain hloops | ⟨next, known, hnext⟩ :=
      resolveLinks_cases fs depth depth (fun _ _ _ _ => rfl) directory name seen
    · simp [hloops] at h
    · rw [(hnext _).1] at h ⊢
      rw [List.cons_append, (hnext _).1]
      exact ih h

/-- More depth makes no difference where links do not lead to each other. -/
theorem resolveLinks_mono (h : (resolveLinks fs depth directory names seen).looped = false)
    (more : Nat) :
    resolveLinks fs (depth + more) directory names seen =
      resolveLinks fs depth directory names seen := by
  induction depth generalizing directory names seen more with
  | zero =>
    induction names generalizing directory seen with
    | nil => simp only [resolveLinks_nil]
    | cons name names ih =>
      obtain hloops | ⟨next, known, hnext⟩ := resolveLinks_cases fs 0 (0 + more)
        (fun _ _ _ hnever => by cases hnever) directory name seen
      · simp [hloops] at h
      · rw [(hnext _).1] at h ⊢
        rw [(hnext _).2]
        exact ih h
  | succ depth ihDepth =>
    induction names generalizing directory seen with
    | nil => simp only [resolveLinks_nil]
    | cons name names ih =>
      obtain hloops | ⟨next, known, hnext⟩ :=
        resolveLinks_cases fs (depth + 1) (depth + 1 + more)
          (fun _ _ _ htarget => by
            rw [Nat.succ_add]
            exact ihDepth htarget more) directory name seen
      · simp [hloops] at h
      · rw [(hnext _).1] at h ⊢
        rw [(hnext _).2]
        exact ih h

end NotLooped

/-- Where no links are, a path is resolved to itself. -/
theorem resolveLinks_of_no_links {depth : Nat} {path : Path} {names : List Text}
    {seen : List (Path × Option Path)} (hsteps : ∀ name ∈ names, isUp name = false ∧ isStep name = true)
    (hlinks : ∀ others target, fs.get? (fs.locationOf path ++ others) ≠ some (.link target)) :
    resolveLinks fs depth path names seen = ⟨⟨path.anchor, path.names ++ names⟩, false, seen⟩ := by
  induction names generalizing path with
  | nil => rw [resolveLinks_nil, List.append_nil]
  | cons name rest ih =>
    rw [List.forall_mem_cons] at hsteps
    obtain ⟨⟨hup, hstep⟩, hrest⟩ := hsteps
    have hskip : ¬(name.isEmpty = true ∨ isHere name = true) := by
      simpa [isStep] using hstep
    have hlocation := locationOf_child fs path hup
    rw [resolveLinks_cons, if_neg (by simp [hup]), if_neg hskip]
    split
    · next target hget => exact absurd (hlocation ▸ hget) (hlinks _ target)
    · rw [ih hrest]
      · simp [Path.child]
      · intro others target
        rw [hlocation, List.append_assoc]
        exact hlinks _ target

/-! ## Links that are being followed -/

/-- The links at the locations are being followed, each inside the target of the one before. What
is still to be followed is a part of every one of their targets, so it has no more links than
these. -/
structure Pending (fs : FileSystem) (locations : List Location) (links depth : Nat) : Prop where
  nodup : locations.Nodup
  isLink : ∀ location ∈ locations, ∃ target, fs.get? location = some (.link target)
  part : ∀ location ∈ locations, ∀ target n place node, fs.get? location = some (.link target) →
    Reaches fs n (linkStart location.dropLast target) (targetNames target) place node → links ≤ n
  room : fs.entries.length ≤ depth + locations.length

/-- Where links are remembered to lead, they do lead. -/
def Knows (fs : FileSystem) (seen : List (Path × Option Path)) : Prop :=
  ∀ p known, seen.lookup p = some (some known) → IsClean known ∧
    ∃ target n node, fs.get? (fs.locationOf p) = some (.link target) ∧
      Reaches fs n (linkStart (fs.locationOf p).dropLast target) (targetNames target)
        (fs.locationOf known) node

/-- What is remembered of links: that they are being followed, or where they lead. -/
structure Remembers (fs : FileSystem) (locations : List Location)
    (seen : List (Path × Option Path)) : Prop where
  pending : ∀ p, seen.lookup p = some none → fs.locationOf p ∈ locations
  knows : Knows fs seen

namespace Pending

variable {locations : List Location} {links depth : Nat}

theorem mono (h : Pending fs locations links depth) {fewer : Nat} (hfewer : fewer ≤ links) :
    Pending fs locations fewer depth :=
  ⟨h.nodup, h.isLink, fun location hlocation target n place node hget hreach =>
    Nat.le_trans hfewer (h.part location hlocation target n place node hget hreach), h.room⟩

/-- There is room to follow one more link. -/
theorem depth_pos (h : Pending fs locations links depth) {location : Location} {target : Text}
    (hget : fs.get? location = some (.link target)) (hnew : location ∉ locations) : 0 < depth := by
  have hsubset : location :: locations ⊆ fs.entries.map (·.1) := by
    intro other hother
    have hlink : ∃ target, fs.get? other = some (.link target) := by
      rcases List.mem_cons.mp hother with rfl | hother
      · exact ⟨target, hget⟩
      · exact h.isLink other hother
    obtain ⟨target, hget⟩ := hlink
    have hne : other ≠ [] := by
      rintro rfl
      simp [get?_nil] at hget
    exact List.mem_map_of_mem (mem_entries_of_get? hget hne)
  have hle := (List.subperm_of_subset (List.nodup_cons.mpr ⟨hnew, h.nodup⟩) hsubset).length_le
  rw [List.length_cons, List.length_map] at hle
  have hroom := h.room
  omega

/-- The target of another link is followed inside those that are being followed. -/
theorem push (h : Pending fs locations links (depth + 1)) {directory place : Location}
    {name target : Text} {n : Nat} {node : Node}
    (hget : fs.get? (directory ++ [name]) = some (.link target))
    (hnew : directory ++ [name] ∉ locations)
    (hreach : Reaches fs n (linkStart directory target) (targetNames target) place node)
    (hn : n ≤ links) : Pending fs ((directory ++ [name]) :: locations) n depth where
  nodup := List.nodup_cons.mpr ⟨hnew, h.nodup⟩
  isLink := by
    intro location hlocation
    rcases List.mem_cons.mp hlocation with rfl | hlocation
    · exact ⟨target, hget⟩
    · exact h.isLink location hlocation
  part := by
    intro location hlocation other m end' last hother hreach'
    rcases List.mem_cons.mp hlocation with rfl | hlocation
    · obtain rfl : target = other := by simpa [hget] using hother
      rw [List.dropLast_concat] at hreach'
      exact Nat.le_of_eq (hreach'.unique hreach).1
    · exact Nat.le_trans hn (h.part location hlocation other m end' last hother hreach')
  room := by
    have hroom := h.room
    rw [List.length_cons]
    omega

/-- A link whose target has fewer links than are still to be followed is not being followed. -/
theorem notMem (h : Pending fs locations links depth) {directory place : Location}
    {name target : Text} {n : Nat} {node : Node}
    (hget : fs.get? (directory ++ [name]) = some (.link target))
    (hreach : Reaches fs n (linkStart directory target) (targetNames target) place node)
    (hn : n < links) : directory ++ [name] ∉ locations := by
  intro hmem
  have hle := h.part _ hmem target n place node hget (by rwa [List.dropLast_concat])
  omega

end Pending

/-- Names are resolved to a path to the place, and what is remembered stays right. -/
structure ResolvesTo (fs : FileSystem) (seen : List (Path × Option Path)) (place : Location)
    (r : Resolved) : Prop where
  notLooped : r.looped = false
  clean : IsClean r.path
  locationOf : fs.locationOf r.path = place
  knows : Knows fs r.seen
  pending : ∀ p, r.seen.lookup p = some none → seen.lookup p = some none

/-- A link that is followed now is remembered as one that is being followed. -/
theorem Remembers.follow {locations : List Location} {seen : List (Path × Option Path)}
    (h : Remembers fs locations seen) (link : Path) :
    Remembers fs (fs.locationOf link :: locations) ((link, none) :: seen) where
  pending p hp := by
    rw [List.lookup_cons] at hp
    split at hp
    · next hsame =>
      rw [eq_of_beq hsame]
      exact List.mem_cons_self
    · exact List.mem_cons_of_mem _ (h.pending p hp)
  knows p known hp := by
    rw [List.lookup_cons] at hp
    split at hp
    · cases hp
    · exact h.knows p known hp

/-- Once the target of a link is resolved, it is remembered where the link leads. -/
theorem ResolvesTo.remember {link : Path} {target : Text} {seen : List (Path × Option Path)}
    {place : Location} {r : Resolved} {n : Nat} {node : Node}
    (h : ResolvesTo fs ((link, none) :: seen) place r)
    (hget : fs.get? (fs.locationOf link) = some (.link target))
    (hreach : Reaches fs n (linkStart (fs.locationOf link).dropLast target) (targetNames target)
      place node) :
    Knows fs ((link, some r.path) :: r.seen) ∧
      ∀ p, ((link, some r.path) :: r.seen).lookup p = some none → seen.lookup p = some none := by
  constructor
  · intro p known hp
    rw [List.lookup_cons] at hp
    split at hp
    · next hsame =>
      cases hp
      rw [eq_of_beq hsame, h.locationOf]
      exact ⟨h.clean, target, n, node, hget, hreach⟩
    · exact h.knows p known hp
  · intro p hp
    rw [List.lookup_cons] at hp
    split at hp
    · cases hp
    · next hother =>
      have hbefore := h.pending p hp
      rwa [List.lookup_cons, hother] at hbefore

/-- A name by which something is found is followed. -/
theorem not_skipped {name : Text} (h : IsProper (Utf8.entryName name)) :
    isUp name = false ∧ ¬(name.isEmpty = true ∨ isHere name = true) := by
  have hne : name ≠ [] := fun hnil => h.ne_nil (Utf8.entryName_eq_nil.mpr hnil)
  have hup := h.not_up
  have hhere := h.not_here
  rw [isUp_entryName] at hup
  rw [isHere_entryName] at hhere
  exact ⟨hup, by simp [hne, hhere]⟩

/-- A step that is not to a link goes on from the place itself. -/
theorem resolveLinks_step (htree : fs.IsTree) {depth : Nat} {path : Path} {name : Text}
    {rest : List Text} {seen : List (Path × Option Path)} {node : Node}
    (hget : fs.get? (fs.locationOf path ++ [Utf8.entryName name]) = some node)
    (hnot : ∀ target, node ≠ .link target) :
    resolveLinks fs depth path (name :: rest) seen =
      resolveLinks fs depth (path.child name) rest seen := by
  obtain ⟨hup, hskip⟩ := not_skipped (htree.named _ _ _ hget)
  rw [resolveLinks_cons, if_neg (by simp [hup]), if_neg hskip, locationOf_child fs path hup, hget]
  cases node with
  | directory | file => rfl
  | link target => exact absurd rfl (hnot target)

/-- The names from a directory on are resolved to the place, however they are written and whatever is
being followed around them and is remembered. -/
def Resolves (fs : FileSystem) (n : Nat) (directory : Location) (names : List Text)
    (place : Location) : Prop :=
  ∀ (written : List Text) locations depth path seen, written.map Utf8.entryName = names →
    Pending fs locations n depth → IsClean path → fs.locationOf path = directory →
    Remembers fs locations seen →
    ResolvesTo fs seen place (resolveLinks fs depth path (written.filter isStep) seen)

/-- A link is resolved to where its target leads, and then the names behind it are. -/
theorem resolveLinks_link (htree : fs.IsTree) {m depth links : Nat} {path : Path}
    {name target : Text} {rest : List Text} {seen : List (Path × Option Path)} {middle : Location}
    {node : Node} {locations : List Location} (hclean : IsClean path)
    (hget : fs.get? (fs.locationOf path ++ [Utf8.entryName name]) = some (.link target))
    (htarget : Reaches fs m (linkStart (fs.locationOf path) target) (targetNames target) middle node)
    (hresolves : Resolves fs m (linkStart (fs.locationOf path) target) (targetNames target) middle)
    (hpending : Pending fs locations links depth) (hlinks : m < links)
    (hseen : Remembers fs locations seen) :
    ∃ known seen', IsClean known ∧ fs.locationOf known = middle ∧ Knows fs seen' ∧
      (∀ p, seen'.lookup p = some none → seen.lookup p = some none) ∧
      resolveLinks fs depth path (name :: rest) seen = resolveLinks fs depth known rest seen' := by
  obtain ⟨hup, hskip⟩ := not_skipped (htree.named _ _ _ hget)
  have hlocation := locationOf_child fs path hup
  have hnew := hpending.notMem hget htarget hlinks
  rw [resolveLinks_cons, if_neg (by simp [hup]), if_neg hskip, hlocation, hget]
  dsimp only
  split
  · next known hknown =>
    obtain ⟨hclean', other, n, last, hother, hreach⟩ := hseen.knows _ _ hknown
    rw [hlocation] at hother hreach
    obtain rfl : target = other := by simpa [hget] using hother
    rw [List.dropLast_concat] at hreach
    exact ⟨known, seen, hclean', (htarget.unique hreach).2.1, hseen.knows, fun _ h => h, rfl⟩
  · next hbefore =>
    -- The link would be met inside its own target, which has no more links than are left.
    have hmem := hseen.pending _ hbefore
    rw [hlocation] at hmem
    exact absurd hmem hnew
  · next hnone =>
    obtain ⟨depth, rfl⟩ := Nat.exists_eq_succ_of_ne_zero
      (Nat.ne_of_gt (hpending.depth_pos hget hnew))
    have hinside : Remembers fs ((fs.locationOf path ++ [Utf8.entryName name]) :: locations)
        ((path.child name, none) :: seen) := hlocation ▸ hseen.follow (path.child name)
    have hto := hresolves (writtenNames target) _ depth (targetStart path target) _ rfl
      (hpending.push hget hnew htarget (Nat.le_of_lt hlinks)) (hclean.targetStart target)
      (locationOf_targetStart fs path target) hinside
    rw [filter_writtenNames] at hto
    have hr : resolveTarget fs (depth + 1) (targetStart path target) (target.split '/')
        ((path.child name, none) :: seen) = _ := resolveLinks_filter hto.notLooped
    obtain ⟨hknows, hfewer⟩ := hto.remember (by rwa [hlocation])
      (by rwa [hlocation, List.dropLast_concat])
    rw [hr, if_neg (by simp [hto.notLooped])]
    exact ⟨_, _, hto.clean, hto.locationOf, hknows, hfewer, rfl⟩

/-- Names are resolved to the place that they lead to. -/
theorem Reaches.resolves (htree : fs.IsTree) {n : Nat} {directory place : Location}
    {names : List Text} {node : Node} (h : Reaches fs n directory names place node) :
    Resolves fs n directory names place := by
  -- On the way, the target of a link is a way of its own. It is resolved with one more link pending
  -- and leaves behind what is remembered, which the rest of the way starts with.
  induction h with
  | stay =>
    intro written locations depth path seen hwritten _ hclean hlocation hseen
    rw [List.map_eq_nil_iff.mp hwritten, List.filter_nil, resolveLinks_nil]
    exact ⟨rfl, hclean, hlocation, hseen.knows, fun _ h => h⟩
  | up hup _ ih =>
    intro written locations depth path seen hwritten hpending hclean hlocation hseen
    obtain ⟨name, rest, rfl, rfl, hrest⟩ := List.map_eq_cons_iff.mp hwritten
    rw [isUp_entryName] at hup
    rw [List.filter_cons_of_pos (isStep_of_isUp hup), resolveLinks_up hup]
    exact ih _ _ _ _ _ hrest hpending hclean.above (by rw [locationOf_above hclean, hlocation]) hseen
  | here _ hhere _ ih =>
    intro written locations depth path seen hwritten hpending hclean hlocation hseen
    obtain ⟨name, rest, rfl, rfl, hrest⟩ := List.map_eq_cons_iff.mp hwritten
    rw [isHere_entryName] at hhere
    rw [List.filter_cons_of_neg (by simp [isStep, hhere])]
    exact ih _ _ _ _ _ hrest hpending hclean hlocation hseen
  | enter _ hget _ ih =>
    intro written locations depth path seen hwritten hpending hclean hlocation hseen
    obtain ⟨name, rest, rfl, rfl, hrest⟩ := List.map_eq_cons_iff.mp hwritten
    subst hlocation
    have hproper := htree.named _ _ _ hget
    obtain ⟨hup, -⟩ := not_skipped hproper
    rw [List.filter_cons_of_pos (isStep_entryName name ▸ hproper.isStep),
      resolveLinks_step htree hget (by simp)]
    exact ih _ _ _ _ _ hrest hpending (hclean.child hup) (locationOf_child fs path hup) hseen
  | file _ hget =>
    intro written locations depth path seen hwritten hpending hclean hlocation hseen
    obtain ⟨name, rest, rfl, rfl, hrest⟩ := List.map_eq_cons_iff.mp hwritten
    subst hlocation
    have hproper := htree.named _ _ _ hget
    obtain ⟨hup, -⟩ := not_skipped hproper
    rw [List.map_eq_nil_iff.mp hrest, List.filter_cons_of_pos (isStep_entryName name ▸ hproper.isStep),
      resolveLinks_step htree hget (by simp), List.filter_nil, resolveLinks_nil]
    exact ⟨rfl, hclean.child hup, locationOf_child fs path hup, hseen.knows, fun _ h => h⟩
  | link _ hget htarget _ ihTarget ih =>
    intro written locations depth path seen hwritten hpending hclean hlocation hseen
    obtain ⟨name, rest, rfl, rfl, hrest⟩ := List.map_eq_cons_iff.mp hwritten
    subst hlocation
    obtain ⟨known, seen', hclean', hmiddle, hknows, hfewer, heq⟩ :=
      resolveLinks_link htree hclean hget htarget ihTarget hpending (by omega) hseen
    rw [List.filter_cons_of_pos (isStep_entryName name ▸ (htree.named _ _ _ hget).isStep), heq]
    have hto := ih _ _ _ _ _ hrest (hpending.mono (by omega)) hclean' hmiddle
      ⟨fun p hp => hseen.pending p (hfewer p hp), hknows⟩
    exact ⟨hto.notLooped, hto.clean, hto.locationOf, hto.knows,
      fun p hp => hfewer p (hto.pending p hp)⟩
  | lastLink _ hget htarget ih =>
    intro written locations depth path seen hwritten hpending hclean hlocation hseen
    obtain ⟨name, rest, rfl, rfl, hrest⟩ := List.map_eq_cons_iff.mp hwritten
    subst hlocation
    obtain ⟨known, seen', hclean', hmiddle, hknows, hfewer, heq⟩ :=
      resolveLinks_link htree hclean hget htarget ih hpending (by omega) hseen
    rw [List.map_eq_nil_iff.mp hrest,
      List.filter_cons_of_pos (isStep_entryName name ▸ (htree.named _ _ _ hget).isStep), heq,
      List.filter_nil, resolveLinks_nil]
    exact ⟨rfl, hclean', hmiddle, hknows, hfewer⟩

/-! ## Where paths are resolved to -/

/-- What is reached is there, and is no link. -/
theorem Reaches.get?_eq (htree : fs.IsTree) {n : Nat} {directory place : Location}
    {names : List Text} {node : Node} (h : Reaches fs n directory names place node)
    (hstart : fs.get? directory = some .directory) :
    fs.get? place = some node ∧ ∀ target, node ≠ .link target := by
  induction h with
  | stay => exact ⟨hstart, by simp⟩
  | up _ _ ih => exact ih (htree.dropLast hstart)
  | here _ _ _ ih => exact ih hstart
  | enter _ hget _ ih => exact ih hget
  | file _ hget => exact ⟨hget, by simp⟩
  | link _ _ _ _ ihTarget ih => exact ih (ihTarget (htree.linkStart hstart _)).1
  | lastLink _ _ _ ih => exact ih (htree.linkStart hstart _)

/-- A lookup from a place along names without links does not go round in circles. -/
theorem followLinks_ne_loop (htree : fs.IsTree) {links : Nat} {before names : List Text} {node : Node}
    (hget : fs.get? (before ++ names) = some node) (hnot : ∀ target, node ≠ .link target) :
    followLinks fs true links before names ≠ .error .loop := by
  induction names generalizing before with
  | nil => simp [followLinks_nil]
  | cons name rest ih =>
    rw [List.append_cons] at hget
    obtain ⟨next, hnext, hplain⟩ : ∃ next, fs.get? (before ++ [name]) = some next ∧
        ∀ target, next ≠ .link target := by
      obtain rfl | ⟨others, last, rfl⟩ := rest.eq_nil_or_concat
      · exact ⟨node, by simpa using hget, hnot⟩
      · exact ⟨.directory, htree.directory_of_append hget (by simp), by simp⟩
    have hproper := htree.named _ _ _ hnext
    rw [followLinks_cons, if_neg (by simp [hproper.not_up]), if_neg (by simp [hproper.not_here]), hnext]
    split
    · simp
    cases next with
    | directory => exact ih hget
    | file => by_cases hlast : rest = [] <;> simp [hlast]
    | link target => exact absurd rfl (hplain target)

/-- What a lookup finds is where it finds it, and is no link. -/
theorem get?_of_found (htree : fs.IsTree) {p : Path} {location : Location} {node : Node}
    (h : fs.lookup true p = .ok (.found location node)) :
    fs.get? location = some node ∧ ∀ target, node ≠ .link target := by
  unfold lookup at h
  split at h
  · contradiction
  · obtain ⟨n, -, hreach⟩ := exists_reaches h
    exact hreach.get?_eq htree (htree.startOf p)

/-- A path that leads somewhere is resolved to the place. -/
theorem resolvesTo_of_lookup (htree : fs.IsTree) {p : Path} {location : Location} {node : Node}
    (h : fs.lookup true p = .ok (.found location node)) {depth : Nat}
    (hdepth : fs.entries.length ≤ depth) :
    ResolvesTo fs [] location (resolveLinks fs depth (resolveStart p) p.names []) := by
  unfold lookup at h
  split at h
  · contradiction
  obtain ⟨n, -, hreach⟩ := exists_reaches h
  have hpending : Pending fs [] n depth := ⟨List.nodup_nil, by simp, by simp, by simpa using hdepth⟩
  have hto : ResolvesTo fs [] location
      (resolveLinks fs depth (resolveStart p) (p.names.filter isStep) []) := by
    apply hreach.resolves htree p.names _ _ _ _ rfl hpending
    · unfold resolveStart
      split <;> simp [IsClean]
    · unfold resolveStart startOf
      split
      · exact htree.map_entryName htree.current
      · rfl
    · exact ⟨by simp, by simp [Knows]⟩
  rwa [resolveLinks_filter hto.notLooped]

theorem length_le_linkBound (fs : FileSystem) (p : Path) : fs.entries.length ≤ fs.linkBound p :=
  Nat.le_mul_of_pos_left _ (Nat.succ_pos _)

theorem entryNames_resolvePath (htree : fs.IsTree) {p : Path} {location : Location} {node : Node}
    (h : fs.lookup true p = .ok (.found location node)) :
    (fs.resolvePath p).entryNames = location :=
  (resolvesTo_of_lookup htree h (length_le_linkBound fs p)).locationOf

/-- A path that leads somewhere is resolved to a path of the place. -/
theorem resolve_eq (htree : fs.IsTree) {p : Path} (htakes : nameFailure? p.text = none)
    {location : Location} {node : Node} (h : fs.lookup true p = .ok (.found location node)) :
    fs.resolve p = .ok (fs.resolvePath p) := by
  obtain ⟨hget, hnot⟩ := get?_of_found htree h
  have hloop : fs.lookup true (fs.resolvePath p) ≠ .error .loop := by
    unfold lookup
    split
    · simp
    · rw [entryNames_resolvePath htree h]
      exact followLinks_ne_loop htree ((List.nil_append location).symm ▸ hget) hnot
  rw [resolve, taking, htakes]
  dsimp only
  split
  · contradiction
  · rfl

/-- Where no links are, names behind a path stay behind what it is resolved to, however they are
spelled. -/
theorem below?_resolvePath (htree : fs.IsTree) {p : Path} {location : Location} {node : Node}
    (h : fs.lookup true p = .ok (.found location node)) {names : List Text}
    (hnames : ∀ name ∈ names, IsProper (Utf8.entryName name))
    (hlinks : ∀ others target, fs.get? (location ++ others) ≠ some (.link target)) :
    (fs.resolvePath ⟨p.anchor, p.names ++ names⟩).below? (fs.resolvePath p) = some names := by
  have hto := resolvesTo_of_lookup htree h (length_le_linkBound fs p)
  have hsteps : ∀ name ∈ names, isUp name = false ∧ isStep name = true := fun name hname =>
    ⟨(not_skipped (hnames name hname)).1, isStep_entryName name ▸ (hnames name hname).isStep⟩
  obtain ⟨more, hmore⟩ : ∃ more, fs.linkBound ⟨p.anchor, p.names ++ names⟩ = fs.linkBound p + more :=
    Nat.exists_eq_add_of_le (Nat.mul_le_mul_right _ (by simp))
  have hdeeper := resolveLinks_mono hto.notLooped more
  have hstart : resolveStart ⟨p.anchor, p.names ++ names⟩ = resolveStart p := rfl
  have hresolved : fs.resolvePath ⟨p.anchor, p.names ++ names⟩ =
      pathOf ((fs.resolvePath p).names ++ names) := by
    rw [resolvePath, hmore, hstart, resolveLinks_append (by rw [hdeeper, hto.notLooped]), hdeeper,
      resolveLinks_of_no_links hsteps (by rwa [hto.locationOf])]
    exact absolute_append fs _ fun name hname => (hsteps name hname).1
  have hanchor : (pathOf ((fs.resolvePath p).names ++ names)).anchor = (fs.resolvePath p).anchor := rfl
  rw [hresolved, Path.below?, if_pos hanchor, List.isPrefixOf?_eq_some_iff_append_eq]
  rfl

end FileSystem
end GameArchive
