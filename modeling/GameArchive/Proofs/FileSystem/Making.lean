import GameArchive.Proofs.FileSystem.Place

/-!
# Directories that are made

A directory that is made where nothing is, with those above it, is new and has nothing in it, as
long as the path has no two dots. If it cannot be made, nothing is at the path still, though some of
the directories above it may have been made.
-/

namespace GameArchive
namespace FileSystem

variable {fs after : FileSystem} {p : Path} {place : Location} {node : Node} {failure : Failure}

/-! ## Where nothing is -/

theorem IsAbsent.exists_names (h : fs.IsAbsent p) : ∃ before name, p.names = before ++ [name] := by
  obtain hnil | ⟨before, name, hnames⟩ := p.names.eq_nil_or_concat
  · refine absurd ?_ (h (fs.startOf p) .directory)
    rw [lookup, isLongPath_of_nil hnil, if_neg Bool.false_ne_true, Path.entryNames, hnil,
      List.map_nil, followLinks_nil]
  · exact ⟨before, name, by rw [hnames, List.concat_eq_append]⟩

theorem IsAbsent.exists_entryNames (h : fs.IsAbsent p) :
    ∃ before name, p.entryNames = before ++ [name] := by
  obtain ⟨before, name, hnames⟩ := h.exists_names
  exact ⟨before.map Utf8.entryName, Utf8.entryName name, by simp [Path.entryNames, hnames]⟩

theorem IsAbsent.lookup_true (h : fs.IsAbsent p) : fs.lookup true p = fs.lookup false p := by
  obtain ⟨before, name, hnames⟩ := h.exists_entryNames
  cases hlookup : fs.lookup false p with
  | error e =>
    unfold lookup at hlookup ⊢
    split at hlookup
    · next hlong => rw [if_pos hlong, ← hlookup]
    · next hlong =>
      have hfails := followLinks_append_error hlookup true []
      rw [List.append_nil] at hfails
      rw [if_neg hlong, hfails]
  | ok found =>
    cases found with
    | found place node => exact absurd hlookup (h place node)
    | free place =>
      obtain ⟨left, directory, hnamed⟩ := exists_namedIn hnames hlookup
      rw [hnamed.lookup_true (by simp [hlookup]), hlookup]

/-- Where nothing is, nothing can be read or removed. -/
theorem IsAbsent.node?_eq (h : fs.IsAbsent p) :
    (∀ follow, fs.node? follow p = .error .noEntry) ∨
      ∃ e, fs.lookup false p = .error e ∧ ∀ follow, fs.node? follow p = .error e := by
  have hfollow : ∀ follow, fs.lookup follow p = fs.lookup false p := by
    intro follow
    cases follow with
    | false => rfl
    | true => exact h.lookup_true
  cases hlookup : fs.lookup false p with
  | error e => exact .inr ⟨e, rfl, fun follow => by rw [node?, hfollow, hlookup]⟩
  | ok found =>
    cases found with
    | found place node => exact absurd hlookup (h place node)
    | free place => exact .inl fun follow => by rw [node?, hfollow, hlookup]

theorem isDirectory_of_unlessDirectory (h : fs.unlessDirectory p failure = .ok ()) :
    fs.isDirectory p = .ok true := by
  unfold unlessDirectory at h
  rcases hanswer : fs.isDirectory p with other | _ | _
  · rw [hanswer] at h
    cases h
  · rw [hanswer] at h
    cases h
  · rfl

theorem IsAbsent.not_directory (h : fs.IsAbsent p) : fs.isDirectory p ≠ .ok true := by
  intro hdirectory
  obtain ⟨-, place, hlookup⟩ := isDirectory_eq_ok_true.mp hdirectory
  rw [h.lookup_true] at hlookup
  exact h _ _ hlookup

/-! ## Making one directory -/

/-- The outcomes of making a directory where nothing is: it is there and empty, or nothing is there
still. -/
inductive Making (fs : FileSystem) (p : Path) : FileSystem × Except Failure Unit → Prop where
  | made {after : FileSystem} {place : Location} : after.IsSound → after.made = fs.made →
      after.lookup false p = .ok (.found place .directory) →
      (∀ name, after.get? (place ++ [name]) = none) → Making fs p (after, .ok ())
  | failed {after : FileSystem} {failure : Failure} : after.IsSound → after.made = fs.made →
      after.IsAbsent p → Making fs p (after, .error failure)

/-- A new directory in a free place is empty. -/
theorem making_of_free (hsound : fs.IsSound) (hproper : ∀ name ∈ p.entryNames, IsProper name)
    (hfree : fs.lookup false p = .ok (.free place)) :
    Making fs p (fs.put place .directory, .ok ()) := by
  have habsent : fs.IsAbsent p := by simp [IsAbsent, hfree]
  obtain ⟨before, name, hnames⟩ := habsent.exists_entryNames
  obtain ⟨left, directory, hnamed⟩ := exists_namedIn hnames hfree
  obtain ⟨hlong, hname, hplace⟩ := hnamed.entry hfree (by simp)
  obtain ⟨rfl, hnone⟩ := placeAt_eq_free.mp hplace
  have hchanged := ChangedAt.put fs (List.append_ne_nil_of_right_ne_nil directory
    (List.cons_ne_nil name [])) .directory
  have hleaf := isLeaf_of_none hnone
  have hafter := (hchanged.namedIn hleaf hnamed).lookup_of_isEntry hlong hname
  rw [placeAt, hchanged.at_place] at hafter
  refine .made ?_ rfl hafter fun other => ?_
  · exact hchanged.isSound hsound (hnamed.get?_directory hsound.tree)
      (hproper name (by simp [hnames])) hleaf (by simp)
  · rw [hchanged.elsewhere _ (by simp)]
    cases hget : fs.get? (directory ++ [name] ++ [other]) with
    | none => rfl
    | some node => rw [hsound.tree.above _ _ _ hget] at hnone; contradiction

theorem makeDirectories_of_ok (h : fs.makeDirectory p = .ok after) (n : Nat) :
    makeDirectories n fs p = (after, .ok ()) := by
  unfold makeDirectories
  rw [h]

/-- Unless those above it have to be made first, a directory that cannot be made is there already or
the attempt is given up. -/
theorem makeDirectories_of_error (h : fs.makeDirectory p = .error failure)
    (hother : ∀ path target, failure ≠ .file ⟨.noEntry, path, target⟩) (n : Nat) :
    ∃ outcome, makeDirectories n fs p = (fs, outcome) ∧
      (outcome = .ok () → fs.isDirectory p = .ok true) := by
  unfold makeDirectories
  rw [h]
  cases failure with
  | file fault =>
    obtain ⟨e, path, target⟩ := fault
    refine ⟨fs.unlessDirectory p (.file ⟨e, path, target⟩), ?_, isDirectory_of_unlessDirectory⟩
    cases e with
    | noEntry => exact absurd rfl (hother path target)
    | _ => rfl
  | embeddedNull | encode | symlinkLoop => exact ⟨_, rfl, by simp⟩

theorem makeDirectory_of_unnamed (h : nameFailure? p.text = some failure) :
    fs.makeDirectory p = .error failure ∧
      ∀ path target, failure ≠ .file ⟨.noEntry, path, target⟩ := by
  refine ⟨by rw [makeDirectory, taking, h], ?_⟩
  obtain rfl | ⟨fault, rfl⟩ := cases_of_nameFailure? h <;> simp

/-- Where something is at the path already, it stays, and no directory is made. -/
theorem makeDirectories_of_present (h : ¬fs.IsAbsent p) (n : Nat) :
    ∃ outcome, makeDirectories n fs p = (fs, outcome) ∧
      (outcome = .ok () → fs.isDirectory p = .ok true) := by
  obtain ⟨place, node, h⟩ : ∃ place node, fs.lookup false p = .ok (.found place node) := by
    simpa [IsAbsent] using h
  cases htakes : nameFailure? p.text with
  | some failure =>
    obtain ⟨hfails, hother⟩ := makeDirectory_of_unnamed htakes
    exact makeDirectories_of_error hfails hother n
  | none =>
    have hexists : fs.makeDirectory p = .error (.file ⟨.fileExists, p, none⟩) := by
      rw [makeDirectory, taking, htakes, h]
    exact makeDirectories_of_error hexists (by simp) n

/-! ## Making those above it -/

theorem Making.of_made_eq {middle : FileSystem} {result : FileSystem × Except Failure Unit}
    (h : Making middle p result) (hmade : middle.made = fs.made) : Making fs p result := by
  cases h with
  | made hsound hsame hfound hempty => exact .made hsound (hsame.trans hmade) hfound hempty
  | failed hsound hsame habsent => exact .failed hsound (hsame.trans hmade) habsent

/-- An attempt that leaves everything as it is has failed if nothing is at the path. -/
theorem making_of_kept (hsound : fs.IsSound) (habsent : fs.IsAbsent p)
    {outcome : Except Failure Unit} (h : outcome = .ok () → fs.isDirectory p = .ok true) :
    Making fs p (fs, outcome) := by
  cases outcome with
  | ok => exact absurd (h rfl) habsent.not_directory
  | error failure => exact .failed hsound rfl habsent

theorem making_of_ok (hsound : fs.IsSound) (hproper : ∀ name ∈ p.entryNames, IsProper name)
    (h : fs.makeDirectory p = .ok after) : Making fs p (after, .ok ()) := by
  unfold makeDirectory taking at h
  split at h
  · cases h
  split at h
  · cases h
  · next hfree =>
    cases h
    exact making_of_free hsound hproper hfree
  · cases h

theorem lookup_of_noEntry {path : Path} {target : Option Path}
    (h : fs.makeDirectory p = .error (.file ⟨.noEntry, path, target⟩)) :
    fs.lookup false p = .error .noEntry := by
  cases htakes : nameFailure? p.text with
  | some failure =>
    obtain ⟨hfails, hother⟩ := makeDirectory_of_unnamed htakes
    rw [hfails, Except.error.injEq] at h
    exact absurd h (hother path target)
  | none =>
    rw [makeDirectory, taking, htakes] at h
    cases hlookup : fs.lookup false p with
    | error e =>
      rw [hlookup] at h
      cases h
      rfl
    | ok found => cases found <;> simp [hlookup] at h

/-- In a directory that is there, nothing above is missing. -/
theorem NamedIn.makeDirectory_ne {left : Nat} {directory : Location} {name : Text}
    (h : NamedIn fs p left directory name) (hname : IsProper name) (path : Path)
    (target : Option Path) : fs.makeDirectory p ≠ .error (.file ⟨.noEntry, path, target⟩) := by
  intro hmake
  have hlookup := lookup_of_noEntry hmake
  rw [h.lookup_of_isProper hname] at hlookup
  split at hlookup <;> cases hlookup

/-- A first attempt that does not lack a directory above is the only one. -/
theorem making_of_ne (hsound : fs.IsSound) (hproper : ∀ name ∈ p.entryNames, IsProper name)
    (habsent : fs.IsAbsent p)
    (hother : ¬∃ path target, fs.makeDirectory p = .error (.file ⟨.noEntry, path, target⟩))
    (n : Nat) : Making fs p (makeDirectories n fs p) := by
  cases hmake : fs.makeDirectory p with
  | ok after =>
    rw [makeDirectories_of_ok hmake]
    exact making_of_ok hsound hproper hmake
  | error failure =>
    have hfailure : ∀ path target, failure ≠ .file ⟨.noEntry, path, target⟩ := by
      rintro path target rfl
      exact hother ⟨path, target, hmake⟩
    obtain ⟨outcome, hresult, houtcome⟩ := makeDirectories_of_error hmake hfailure n
    rw [hresult]
    exact making_of_kept hsound habsent houtcome

/-- A second attempt, once the directory above is there and empty. -/
theorem making_again (hsound : fs.IsSound) {anchor : Anchor} {before : List Text} {name : Text}
    (hproper : ∀ other ∈ Path.entryNames ⟨anchor, before ++ [name]⟩, IsProper other)
    (hparent : fs.lookup false ⟨anchor, before⟩ = .ok (.found place .directory))
    (hempty : ∀ name, fs.get? (place ++ [name]) = none) :
    Making fs ⟨anchor, before ++ [name]⟩
      (match fs.makeDirectory ⟨anchor, before ++ [name]⟩ with
      | .ok fs => (fs, .ok ())
      | .error (.file ⟨.noEntry, path, target⟩) => (fs, .error (.file ⟨.noEntry, path, target⟩))
      | .error failure => (fs, fs.unlessDirectory ⟨anchor, before ++ [name]⟩ failure)) := by
  have hname : IsProper (Utf8.entryName name) := hproper _ (by simp [Path.entryNames])
  obtain ⟨left, hnamed⟩ :
      ∃ left, NamedIn fs ⟨anchor, before ++ [name]⟩ left place (Utf8.entryName name) :=
    exists_namedIn_child hparent name
  have habsent := hnamed.isAbsent hname (hempty _)
  cases hmake : fs.makeDirectory ⟨anchor, before ++ [name]⟩ with
  | ok after => exact making_of_ok hsound hproper hmake
  | error failure =>
    split
    · next heq => cases heq
    · next heq => exact absurd (hmake.trans heq) (hnamed.makeDirectory_ne hname _ _)
    · next heq =>
      exact making_of_kept hsound habsent isDirectory_of_unlessDirectory

/-- The one above is made first where it is missing, if that can be done. -/
theorem making_of_missing (hsound : fs.IsSound) (hproper : ∀ name ∈ p.entryNames, IsProper name)
    (habsent : fs.IsAbsent p) {path : Path} {target : Option Path}
    (hmissing : fs.makeDirectory p = .error (.file ⟨.noEntry, path, target⟩)) {n : Nat}
    (habove : fs.IsAbsent p.parent → Making fs p.parent (makeDirectories n fs p.parent)) :
    Making fs p (makeDirectories (n + 1) fs p) := by
  obtain ⟨before, name, hnames⟩ := habsent.exists_names
  obtain ⟨anchor, names⟩ := p
  subst hnames
  have hparent : Path.parent ⟨anchor, before ++ [name]⟩ = ⟨anchor, before⟩ := by
    simp [Path.parent]
  rw [hparent] at habove
  unfold makeDirectories
  rw [hmissing]
  dsimp only
  rw [hparent]
  by_cases hnone : fs.IsAbsent ⟨anchor, before⟩
  · have hmaking := habove hnone
    generalize makeDirectories n fs ⟨anchor, before⟩ = result at hmaking ⊢
    cases hmaking with
    | made hafter hmade hfound hempty =>
      exact (making_again hafter hproper hfound hempty).of_made_eq hmade
    | failed hafter hmade hstill => exact .failed hafter hmade (hstill.child name)
  · -- What is above is there and no directory, so it is not made and the directory neither.
    obtain ⟨outcome, hresult, houtcome⟩ := makeDirectories_of_present hnone n
    rw [hresult]
    cases outcome with
    | error failure => exact .failed hsound rfl habsent
    | ok =>
      obtain ⟨-, place, hplace⟩ := isDirectory_eq_ok_true.mp (houtcome rfl)
      obtain ⟨left, hnamed⟩ := exists_namedIn_child hplace name
      have hname : IsProper (Utf8.entryName name) := hproper _ (by simp [Path.entryNames])
      exact absurd hmissing (hnamed.makeDirectory_ne hname path target)

/-- A directory is made where nothing is, or nothing is there still. -/
theorem making_makeDirectories (hsound : fs.IsSound) (hproper : ∀ name ∈ p.entryNames, IsProper name)
    (habsent : fs.IsAbsent p) (n : Nat) : Making fs p (makeDirectories n fs p) := by
  induction n generalizing p with
  | zero =>
    by_cases hmissing : ∃ path target,
      fs.makeDirectory p = .error (.file ⟨.noEntry, path, target⟩)
    · obtain ⟨path, target, hmissing⟩ := hmissing
      unfold makeDirectories
      rw [hmissing]
      exact .failed hsound rfl habsent
    · exact making_of_ne hsound hproper habsent hmissing 0
  | succ n ih =>
    by_cases hmissing : ∃ path target,
      fs.makeDirectory p = .error (.file ⟨.noEntry, path, target⟩)
    · obtain ⟨path, target, hmissing⟩ := hmissing
      have hparent : ∀ name ∈ p.parent.entryNames, IsProper name := by
        rw [Path.entryNames_parent]
        exact fun name hname => hproper name (List.dropLast_subset _ hname)
      exact making_of_missing hsound hproper habsent hmissing (ih hparent)
    · exact making_of_ne hsound hproper habsent hmissing (n + 1)

end FileSystem
end GameArchive
