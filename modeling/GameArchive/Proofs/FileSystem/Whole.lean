import GameArchive.Proofs.FileSystem.Elsewhere

/-!
# A write changes its file or nothing

A write of a text puts all its bytes at the path, or it fails and what is at the path stays: its old
content, a directory, or nothing at all. Either way no file is left under the temporary name and
nothing else has changed. All that is asked for is that no link is at the two paths and that a file
under the temporary name has no other name: a file that is left there is opened and written as it is,
so its other names, which may be the path itself, would show it. What a write fails at is known
beforehand: at a text that cannot be encoded, at a temporary file that cannot be made, and at a
directory in its place.
-/

namespace GameArchive

/-- The path with a text behind its last name. -/
def Path.append (p : Path) (ending : Text) : Path := p.parent.child (p.name ++ ending)

theorem Path.exists_names_of_name {p : Path} (h : p.name ≠ []) :
    p.names = p.names.dropLast ++ [p.name] := by
  obtain hnil | ⟨before, last, hnames⟩ := p.names.eq_nil_or_concat
  · simp [Path.name, hnil] at h
  · simp [Path.name, hnames]

namespace FileSystem

variable {fs opened after : FileSystem} {p q : Path} {place directory : Location} {name : Text}
  {follow : Bool} {left : Nat} {node : Option Node}

/-- The root is no file. -/
theorem ne_nil_of_get? {number : Nat} {content : Bytes}
    (h : fs.get? place = some (.file number content)) : place ≠ [] := by
  rintro rfl
  cases h

theorem isLeaf_of_file {number : Nat} {content : Bytes}
    (h : fs.get? place = some (.file number content)) : fs.IsLeaf place :=
  fun _ hnode => ⟨number, content, Option.some.inj (hnode.symm.trans h)⟩

/-! ## Names of a file -/

/-- A file that the path itself leads to is at no other place. -/
def HasOneName (fs : FileSystem) (p : Path) : Prop :=
  ∀ place location number content bytes,
    fs.lookup false p = .ok (.found place (.file number content)) →
    fs.get? location = some (.file number bytes) → location = place

/-- Where no number stands in two entries, no path leads to a file with a second name. -/
theorem hasOneName_of_entries
    (h : ∀ entry ∈ fs.entries, ∀ other ∈ fs.entries, ∀ number content bytes,
      entry.2 = .file number content → other.2 = .file number bytes → other.1 = entry.1)
    (p : Path) : fs.HasOneName p := by
  intro place location number content bytes hlookup hget
  have hplace := get?_of_lookup hlookup (by simp)
  exact h _ (mem_entries_of_get? hplace (ne_nil_of_get? hplace)) _
    (mem_entries_of_get? hget (ne_nil_of_get? hget)) _ _ _ rfl rfl

/-! ## Changes at two paths -/

/-- Nothing has changed but what two paths lead to: not what is at any other place, and not what any
path leads to that leads elsewhere. -/
structure SameBut (fs after : FileSystem) (p q : Path) : Prop where
  current : after.current = fs.current
  elsewhere : ∀ location, ¬fs.EndsAt false p location → ¬fs.EndsAt false q location →
    after.get? location = fs.get? location
  paths : ∀ follow r, (∀ location, fs.EndsAt follow r location →
      ¬fs.EndsAt false p location ∧ ¬fs.EndsAt false q location) →
    after.kind? follow r = fs.kind? follow r

theorem DiffersInFiles.sameBut (h : fs.DiffersInFiles after)
    (helsewhere : ∀ location, ¬fs.EndsAt false p location → ¬fs.EndsAt false q location →
      after.get? location = fs.get? location) : fs.SameBut after p q where
  current := h.current
  elsewhere := helsewhere
  paths _ _ hends := h.kind?_eq fun location hlocation =>
    helsewhere location (hends location hlocation).1 (hends location hlocation).2

theorem SameBut.refl (fs : FileSystem) (p q : Path) : fs.SameBut fs p q :=
  ⟨rfl, fun _ _ _ => rfl, fun _ _ _ => rfl⟩

namespace ChangedAt

theorem trans {other : Option Node} (h : fs.ChangedAt opened place node)
    (hafter : opened.ChangedAt after place other) : fs.ChangedAt after place other where
  current := hafter.current.trans h.current
  made := Nat.le_trans h.made hafter.made
  at_place := hafter.at_place
  elsewhere location hne := (hafter.elsewhere location hne).trans (h.elsewhere location hne)

/-- What is found under another name is the same. -/
theorem lookup_beside (h : fs.ChangedAt after place node) (hleaf : fs.IsLeaf place)
    (hp : NamedIn fs p left directory name) (hne : directory ++ [name] ≠ place) :
    after.lookup false p = fs.lookup false p := by
  rw [(h.namedIn hleaf hp).lookup_false, hp.lookup_false, lastPlace, lastPlace, placeAt, placeAt,
    h.elsewhere _ hne]

end ChangedAt

theorem NamedIn.endsAt (h : NamedIn fs p left directory name) (hlong : isLongPath p = false)
    (hname : IsEntry name) : fs.EndsAt false p (directory ++ [name]) := by
  refine ⟨_, h.lookup_of_isEntry hlong hname, ?_⟩
  unfold placeAt
  split <;> rfl

theorem kind?_of_found {found : Node} (htakes : nameFailure? p.text = none)
    (h : fs.lookup follow p = .ok (.found place found)) : fs.kind? follow p = .ok (some found) := by
  simp [kind?, node?, htakes, h]

theorem kind?_of_free (h : fs.lookup follow p = .ok (.free place)) :
    fs.kind? follow p = .ok none := by
  simp [kind?, node?, h]

theorem kind?_eq_some {found : Node} (h : fs.kind? follow p = .ok (some found)) :
    nameFailure? p.text = none ∧ ∃ place, fs.lookup follow p = .ok (.found place found) := by
  unfold kind? node? at h
  split at h
  · cases h
  next htakes =>
  refine ⟨by simpa using htakes, ?_⟩
  split at h
  · next hlookup =>
    cases h
    split at hlookup
    · next location _ hfound =>
      cases hlookup
      exact ⟨location, hfound⟩
    · cases hlookup
    · cases hlookup
  · cases h
  · cases h

/-- Where a name is looked up, the path before it leads to a directory. -/
theorem NamedIn.isDirectory_parent {last : Text} (h : NamedIn fs (p.child name) left directory last)
    (htakes : nameFailure? (p.child name).text = none)
    (hlong : isLongPath (p.child name) = false) : fs.isDirectory p = .ok true := by
  obtain ⟨n, before, hnames, hlinks, hleads⟩ := h
  rw [Path.entryNames_child] at hnames
  obtain rfl : p.entryNames = before := (List.append_inj' hnames rfl).1
  have hshort : isLongPath p = false := by
    by_contra hp
    rw [isLongPath_child name (by simpa using hp)] at hlong
    cases hlong
  have htakesParent : nameFailure? p.text = none := by
    rcases eq_or_ne p.names [] with hnil | hne
    · obtain ⟨anchor, names⟩ := p
      subst hnil
      cases anchor <;> decide
    · obtain ⟨ending, htext⟩ := Path.exists_text_child hne name
      exact nameFailure?_of_append (htext ▸ htakes)
  refine isDirectory_eq_ok_true.mpr ⟨htakesParent, directory, ?_⟩
  have hfound : followLinks fs true (n + left) (fs.startOf (p.child name)) (p.entryNames ++ []) =
      followLinks fs true left directory [] := hleads.followLinks_append (.inl rfl)
  rw [List.append_nil, followLinks_nil] at hfound
  rw [lookup, hshort, if_neg Bool.false_ne_true, hlinks]
  exact hfound

end FileSystem

namespace AtomicWrite

open FileSystem

variable {fs opened after : FileSystem} {p temporary : Path} {text : Text} {directory : Location}
  {name other : Text} {left number : Nat} {content bytes : Bytes}

/-- The path with the ending of a temporary file. -/
def besidePath (p : Path) : Path := p.append (Text.ofString ".tmp")

/-- Whatever dots the last name has, the temporary file has this name and the ending behind it. -/
theorem temporary?_eq (h : p.name ≠ []) : temporary? p = some (besidePath p) := by
  have hp : p = p.parent.child p.name := by
    rw [Path.child, Path.parent, ← Path.exists_names_of_name h]
  calc temporary? p = temporary? (p.parent.child p.name) := by rw [← hp]
    _ = some (besidePath p) := temporary?_child p.parent h

/-! ## The two outcomes -/

/-- The bytes are what the path leads to. -/
structure IsPut (fs after : FileSystem) (p temporary : Path) (bytes : Bytes) : Prop where
  path : ∃ number, after.kind? false p = .ok (some (.file number bytes))
  read : after.read p = .ok bytes
  cleared : after.kind? false temporary = .ok none
  rest : fs.SameBut after p temporary

/-- What the path leads to is what it led to. -/
structure IsWithdrawn (fs after : FileSystem) (p temporary : Path) : Prop where
  path : after.lookup false p = fs.lookup false p
  cleared : ∀ number content, after.kind? false temporary ≠ .ok (some (.file number content))
  rest : fs.SameBut after p temporary

theorem Beside.isLeaf (h : Beside fs p temporary left directory name other)
    (hlink : ∀ place target, fs.lookup false p ≠ .ok (.found place (.link target))) :
    fs.IsLeaf (directory ++ [name]) := by
  have hlookup := h.named.lookup_of_isEntry h.short h.entry
  intro node hnode
  rw [placeAt, hnode] at hlookup
  cases node with
  | directory => exact absurd hnode h.not_directory
  | file number content => exact ⟨number, content, rfl⟩
  | link target => exact absurd hlookup (hlink _ _)

namespace IsOpen

theorem isLeaf (h : IsOpen fs opened temporary left directory other number content) :
    fs.IsLeaf (directory ++ [other]) := by
  obtain ⟨hnone, -⟩ | ⟨old, hold⟩ := h.wrote.before
  · exact isLeaf_of_none hnone
  · exact isLeaf_of_file hold

/-- The number of the open file is its own: it is new, or the file has been there under this name
alone. -/
theorem isAlone (h : IsOpen fs opened temporary left directory other number content)
    (hnumbered : fs.IsNumbered) (hone : fs.HasOneName temporary) :
    fs.IsAlone (directory ++ [other]) number := by
  intro location bytes hne hget
  obtain ⟨place, content, hfound⟩ := h.isAt_of_number hnumbered hget
  have hplace := hfound
  rw [h.named.lookup_of_isEntry h.short h.entry, Except.ok.injEq, placeAt_eq_found] at hplace
  exact hne ((hone _ _ _ _ _ hfound hget).trans hplace.1)

theorem withdrawn (h : IsOpen fs opened temporary left directory other number content)
    (halone : fs.IsAlone (directory ++ [other]) number)
    (hp : NamedIn fs p left directory name) (hne : name ≠ other) :
    IsWithdrawn fs (opened.erase (directory ++ [other])) p temporary := by
  have herased := (h.changedAt_of_isAlone halone).trans (.erase opened (by simp))
  obtain ⟨place, hfree⟩ := h.exists_free herased.current (fun location hpass => by
    rw [herased.elsewhere]
    rintro rfl
    exact h.isLeaf.not_passable hpass) herased.at_place
  have hdiffers := herased.differsInFiles h.isLeaf (isLeaf_of_none herased.at_place)
  refine ⟨herased.lookup_beside h.isLeaf hp (by simpa using hne), by simp [kind?_of_free hfree],
    hdiffers.sameBut fun location _ htemporary => ?_⟩
  refine herased.elsewhere location ?_
  rintro rfl
  exact htemporary (h.named.endsAt h.short h.entry)

/-- The open file has been moved to the path, at which no link is. -/
theorem put (h : IsOpen fs opened temporary left directory other number bytes)
    (halone : fs.IsAlone (directory ++ [other]) number)
    (hbeside : Beside fs p temporary left directory name other)
    (hlink : ∀ place target, fs.lookup false p ≠ .ok (.found place (.link target)))
    (hreplace : opened.replace temporary p = .ok after) : IsPut fs after p temporary bytes := by
  have hopened := h.changedAt_of_isAlone halone
  have hleaf : fs.IsLeaf (directory ++ [name]) := hbeside.isLeaf hlink
  have hplaces : directory ++ [name] ≠ directory ++ [other] := by simpa using hbeside.ne
  obtain ⟨-, -, -, -, hmoved⟩ := h.moved hbeside.named hbeside.ne.symm
    (fun _ _ => hopened.not_isFileAt halone hplaces bytes) hreplace
  have hcurrent := hmoved.current.trans hopened.current
  have helsewhere : ∀ location, location ≠ directory ++ [other] → location ≠ directory ++ [name] →
      after.get? location = fs.get? location := fun location hother hname =>
    (hmoved.elsewhere location hother hname).trans (hopened.elsewhere location hother)
  -- Neither place is passed by a way to a directory.
  have hkeeps : ∀ location, Passable fs location → after.get? location = fs.get? location := by
    intro location hpass
    refine helsewhere location ?_ ?_
    · rintro rfl
      exact h.isLeaf.not_passable hpass
    · rintro rfl
      exact hleaf.not_passable hpass
  have hnamed := hbeside.named.frame hcurrent hkeeps
  have hfound := hnamed.lookup_of_isEntry hbeside.short hbeside.entry
  rw [placeAt, hmoved.at_goal] at hfound
  obtain ⟨place, hfree⟩ := h.exists_free hcurrent hkeeps hmoved.at_place
  refine ⟨⟨number, kind?_of_found hbeside.takes_path hfound⟩, ?_, kind?_of_free hfree,
    DiffersInFiles.sameBut ⟨hcurrent, ?_⟩ ?_⟩
  · exact hnamed.read_eq hbeside.takes_path hbeside.short hbeside.entry hmoved.at_goal
  · intro location hne
    by_cases hother : location = directory ++ [other]
    · subst hother
      exact ⟨h.isLeaf, isLeaf_of_none hmoved.at_place⟩
    by_cases hname : location = directory ++ [name]
    · subst hname
      exact ⟨hleaf, isLeaf_of_file hmoved.at_goal⟩
    · exact absurd (helsewhere location hother hname) hne
  · intro location hpath htemporary
    refine helsewhere location ?_ ?_
    · rintro rfl
      exact htemporary (h.named.endsAt h.short h.entry)
    · rintro rfl
      exact hpath (hbeside.named.endsAt hbeside.short hbeside.entry)

/-- Nothing can be put in place of a directory. -/
theorem replace_of_directory {place : Location}
    (h : IsOpen fs opened temporary left directory other number content)
    (halone : fs.IsAlone (directory ++ [other]) number)
    (hp : NamedIn fs p left directory name) (hne : name ≠ other)
    (hdirectory : fs.lookup false p = .ok (.found place .directory)) :
    ∃ e, opened.replace temporary p = .error e := by
  have hlookup := (h.changedAt_of_isAlone halone).lookup_beside h.isLeaf hp (by simpa using hne)
  rw [hdirectory] at hlookup
  cases hreplace : opened.replace temporary p with
  | error e => exact ⟨e, rfl⟩
  | ok after =>
    obtain ⟨-, -, location, node, goal, -, hgoal, -⟩ := replace_eq_ok.mp hreplace
    simp [replaceable, hlookup] at hgoal

end IsOpen

/-! ## The write -/

theorem lookup_ne_link (h : fs.isLink p ≠ .ok true) (htakes : nameFailure? p.text = none)
    (place : Location) (target : Text) : fs.lookup false p ≠ .ok (.found place (.link target)) := by
  intro hfound
  exact h (by rw [isLink, kind?_of_found htakes hfound]; rfl)

/-- At a path where no link is, a directory is found whether links are followed or not. -/
theorem isDirectory_iff (hlink : fs.isLink p ≠ .ok true) (htakes : nameFailure? p.text = none) :
    fs.isDirectory p = .ok true ↔ ∃ place, fs.lookup false p = .ok (.found place .directory) := by
  constructor
  · intro h
    obtain ⟨-, place, hfound⟩ := isDirectory_eq_ok_true.mp h
    refine ⟨place, ?_⟩
    obtain hnil | ⟨before, name, hnames⟩ := p.entryNames.eq_nil_or_concat
    · rw [lookup, hnil, followLinks_nil] at hfound ⊢
      exact hfound
    · rw [List.concat_eq_append] at hnames
      obtain ⟨left, directory, hnamed⟩ := exists_namedIn hnames hfound
      rw [← hnamed.lookup_true (lookup_ne_link hlink htakes), hfound]
  · rintro ⟨place, hfound⟩
    exact isDirectory_eq_ok_true.mpr ⟨htakes, place, lookup_true_of_directory hfound⟩

/-- Where the temporary file cannot be made, there is none, and the write changes nothing. -/
theorem writeText_of_unmade (htemporary : temporary? p = some temporary)
    (hlink : fs.isLink temporary ≠ .ok true) {e : FileSystem.Failure}
    (hcreate : fs.create temporary = .error e) :
    ∃ failure, writeText fs p text = (fs, .error failure) ∧ IsWithdrawn fs fs p temporary := by
  obtain ⟨-, before, name, -, hnames⟩ := entryNames_of_temporary? htemporary
  obtain ⟨failure, hwrite⟩ := writeText_eq_error htemporary hcreate fun after hdiscard => by
    refine (discard_eq_ok hdiscard).elim id fun hunlink => ?_
    obtain ⟨htakes, -⟩ := unlink_eq_ok.mp hunlink
    exact discard_of_unmade (lookup_ne_link hlink htakes) hnames hcreate hdiscard
  refine ⟨failure, hwrite, rfl, fun number content hkind => ?_, .refl fs p temporary⟩
  obtain ⟨htakes, place, hfound⟩ := kind?_eq_some hkind
  obtain ⟨left, directory, hnamed⟩ := exists_namedIn hnames hfound
  rw [← hnamed.lookup_true (lookup_ne_link hlink htakes)] at hfound
  have hmade := create_eq_ok.mpr ⟨htakes, .inl ⟨place, number, content, hfound, rfl⟩⟩
  rw [hcreate] at hmade
  cases hmade

/-- A write succeeds if its text can be encoded, its temporary file can be made and no directory is
at the path, and otherwise it is withdrawn. -/
theorem writeText_cases (hnumbered : fs.IsNumbered) (htemporary : temporary? p = some temporary)
    (hlink : fs.isLink p ≠ .ok true) (hlinkTemporary : fs.isLink temporary ≠ .ok true)
    (hone : fs.HasOneName temporary) (text : Text) :
    (∃ after bytes, writeText fs p text = (after, .ok ()) ∧ Utf8.encode text = .ok bytes ∧
      (∃ made, fs.create temporary = .ok made) ∧ fs.isDirectory p ≠ .ok true ∧
      IsPut fs after p temporary bytes) ∨
    ∃ after failure, writeText fs p text = (after, .error failure) ∧
      ((∃ fault, Utf8.encode text = .error fault) ∨ (∃ e, fs.create temporary = .error e) ∨
        fs.isDirectory p = .ok true) ∧
      IsWithdrawn fs after p temporary := by
  cases hcreate : fs.create temporary with
  | error e =>
    obtain ⟨failure, hwrite, hwithdrawn⟩ := writeText_of_unmade htemporary hlinkTemporary hcreate
    exact .inr ⟨fs, failure, hwrite, .inr (.inl ⟨e, rfl⟩), hwithdrawn⟩
  | ok made =>
  obtain ⟨opened, number⟩ := made
  obtain ⟨before, last, hp, hbeside⟩ := temporary?_spec htemporary
  obtain ⟨hanchor, _, name, hpnames, hnames⟩ := entryNames_of_temporary? htemporary
  have htakes : nameFailure? temporary.text = none := (create_eq_ok.mp hcreate).1
  have hlinks := lookup_ne_link hlinkTemporary htakes
  obtain ⟨-, left, directory, hopen⟩ := exists_isOpen hlinks hnames hcreate
  have hpath : NamedIn fs p left directory name :=
    hopen.named.of_entryNames hanchor.symm hnames hpnames
  have htakesPath : nameFailure? p.text = none := by
    rw [hbeside, Path.text_append, ← hp] at htakes
    exact nameFailure?_of_append htakes
  have hne := ne_ending name
  have halone := hopen.isAlone hnumbered hone
  cases hbytes : Utf8.encode text with
  | error fault =>
    have hwrite := writeText_eq_undone htemporary hcreate
      (.inl ⟨fault, hbytes, rfl, hopen.discard_eq htakes⟩)
    exact .inr ⟨_, _, hwrite, .inl ⟨fault, rfl⟩, hopen.withdrawn halone hpath hne⟩
  | ok bytes =>
  have hwritten := hopen.edit fun content => bytes ++ content.drop bytes.length
  rw [List.drop_nil, List.append_nil] at hwritten
  by_cases hdirectory : ∃ place, fs.lookup false p = .ok (.found place .directory)
  · obtain ⟨place, hplace⟩ := hdirectory
    obtain ⟨e, hreplace⟩ := hwritten.replace_of_directory halone hpath hne hplace
    have hwrite := writeText_eq_undone htemporary hcreate
      (.inr ⟨bytes, e, hbytes, rfl, hreplace, hwritten.discard_eq htakes⟩)
    exact .inr ⟨_, _, hwrite, .inr (.inr ((isDirectory_iff hlink htakesPath).mpr ⟨place, hplace⟩)),
      hwritten.withdrawn halone hpath hne⟩
  · obtain ⟨left, directory, name, other, hbeside, hopen⟩ :=
      exists_beside hlinks (fun place hplace => hdirectory ⟨place, hplace⟩) htemporary hcreate
    have hwritten := hopen.edit fun content => bytes ++ content.drop bytes.length
    rw [List.drop_nil, List.append_nil] at hwritten
    obtain ⟨after, hreplace⟩ := hbeside.exists_replace hwritten
    exact .inl ⟨after, bytes, writeText_eq_ok htemporary hcreate hbytes hreplace, rfl, ⟨_, rfl⟩,
      fun h => hdirectory ((isDirectory_iff hlink htakesPath).mp h),
      hwritten.put (hwritten.isAlone hnumbered hone) hbeside (lookup_ne_link hlink htakesPath)
        hreplace⟩

/-- What is made in a directory is made where there is one, and not in place of one. -/
theorem directory_of_create {made : FileSystem × Nat}
    (hlink : fs.isLink (besidePath p) ≠ .ok true) (hcreate : fs.create (besidePath p) = .ok made) :
    fs.isDirectory p.parent = .ok true ∧ fs.isDirectory (besidePath p) ≠ .ok true := by
  obtain ⟨opened, number⟩ := made
  have htakes := (create_eq_ok.mp hcreate).1
  have hnames := Path.entryNames_child p.parent (p.name ++ Text.ofString ".tmp")
  obtain ⟨-, left, directory, hopen⟩ := exists_isOpen (lookup_ne_link hlink htakes) hnames hcreate
  refine ⟨hopen.named.isDirectory_parent htakes hopen.short, fun hdirectory => ?_⟩
  obtain ⟨-, place, hfound⟩ := isDirectory_eq_ok_true.mp hdirectory
  obtain ⟨-, ⟨_, _, _, hlookup, -⟩ | ⟨_, hlookup, -⟩⟩ := create_eq_ok.mp hcreate <;>
    simp [hfound] at hlookup

/-- A write puts the bytes of its text at the path or is withdrawn. It is withdrawn exactly if the
text has a surrogate, the temporary file cannot be made or a directory is at the path; and where
there is no directory to put the files in, or one is at the temporary name, no temporary file is
made. -/
theorem writeText_whole (hnumbered : fs.IsNumbered) (hname : p.name ≠ [])
    (hlink : fs.isLink p ≠ .ok true) (hlinkBeside : fs.isLink (besidePath p) ≠ .ok true)
    (hone : fs.HasOneName (besidePath p)) (text : Text) :
    ((∃ after bytes, writeText fs p text = (after, .ok ()) ∧ Utf8.encode text = .ok bytes ∧
        IsPut fs after p (besidePath p) bytes) ∨
      ∃ after failure, writeText fs p text = (after, .error failure) ∧
        IsWithdrawn fs after p (besidePath p)) ∧
    ((∃ failure, (writeText fs p text).2 = .error failure) ↔
      ¬Utf8.IsEncodable text ∨ (∃ e, fs.create (besidePath p) = .error e) ∨
        fs.isDirectory p = .ok true) ∧
    (¬Utf8.IsEncodable text ∨ fs.isDirectory p.parent ≠ .ok true ∨ fs.isDirectory p = .ok true ∨
        fs.isDirectory (besidePath p) = .ok true →
      ∃ failure, (writeText fs p text).2 = .error failure) := by
  have hfails : (∃ failure, (writeText fs p text).2 = .error failure) ↔
      ¬Utf8.IsEncodable text ∨ (∃ e, fs.create (besidePath p) = .error e) ∨
        fs.isDirectory p = .ok true := by
    obtain ⟨after, bytes, hwrite, hbytes, ⟨made, hcreate⟩, hdirectory, -⟩ |
      ⟨after, failure, hwrite, hcause, -⟩ :=
        writeText_cases hnumbered (temporary?_eq hname) hlink hlinkBeside hone text
    · have hencodable := (Utf8.encode_eq_ok.mp hbytes).1
      simp [hwrite, hencodable, hcreate, hdirectory]
    · refine iff_of_true ⟨failure, by rw [hwrite]⟩ (hcause.imp_left ?_)
      rintro ⟨fault, hfault⟩
      exact Utf8.not_isEncodable_of_encode hfault
  refine ⟨?_, hfails, fun hcause => hfails.mpr ?_⟩
  · obtain ⟨after, bytes, hwrite, hbytes, -, -, hput⟩ | ⟨after, failure, hwrite, -, hwithdrawn⟩ :=
      writeText_cases hnumbered (temporary?_eq hname) hlink hlinkBeside hone text
    · exact .inl ⟨after, bytes, hwrite, hbytes, hput⟩
    · exact .inr ⟨after, failure, hwrite, hwithdrawn⟩
  · cases hcreate : fs.create (besidePath p) with
    | error e => exact .inr (.inl ⟨e, rfl⟩)
    | ok made =>
      obtain ⟨hparent, hbeside⟩ := directory_of_create hlinkBeside hcreate
      obtain htext | hmissing | hdirectory | hdirectory := hcause
      · exact .inl htext
      · exact absurd hparent hmissing
      · exact .inr (.inr hdirectory)
      · exact absurd hdirectory hbeside

/-- A file beside which an interrupted write has left its temporary file. -/
def leftFiles : FileSystem :=
  let files := ((FileSystem.empty []).putFile [Text.ofString "a"]).1
  (files.putFile [Text.ofString "a.tmp"]).1

def leftPath : Path := ⟨.root, [Text.ofString "a"]⟩

/-- The next write takes it away, also if its text cannot be encoded and the file stays empty. -/
theorem writeText_whole_left :
    (∃ after, writeText leftFiles leftPath (Text.ofString "b") = (after, .ok ()) ∧
      after.read leftPath = .ok (Utf8.encodeAny (Text.ofString "b")) ∧
      after.kind? false (besidePath leftPath) = .ok none) ∧
    ∃ after failure,
      writeText leftFiles leftPath [CodePoint.ofNat 0xd800] = (after, .error failure) ∧
      after.lookup false leftPath = leftFiles.lookup false leftPath := by
  have hentries : leftFiles.entries =
      [([Text.ofString "a.tmp"], .file 1 []), ([Text.ofString "a"], .file 0 [])] := by decide +kernel
  have hnumbered : leftFiles.IsNumbered := isNumbered_of_entries (by
    have hmade : leftFiles.made = 2 := rfl
    simp [hentries, hmade])
  have hone : leftFiles.HasOneName (besidePath leftPath) := hasOneName_of_entries (by
    simp only [hentries, List.mem_cons, List.not_mem_nil, or_false]
    rintro _ (rfl | rfl) _ (rfl | rfl) _ _ _ h h' <;> cases h <;> cases h' <;> rfl) _
  have hwhole := writeText_whole hnumbered (p := leftPath) (by decide) (by decide +kernel)
    (by decide +kernel) hone
  constructor
  · obtain ⟨⟨after, bytes, hwrite, hbytes, hput⟩ | ⟨after, failure, hwrite, -⟩, hfails, -⟩ :=
      hwhole (Text.ofString "b")
    · obtain ⟨-, rfl⟩ := Utf8.encode_eq_ok.mp hbytes
      exact ⟨after, hwrite, hput.read, hput.cleared⟩
    · have hmade : ∃ made, leftFiles.create (besidePath leftPath) = .ok made := ⟨_, rfl⟩
      have hdirectory : leftFiles.isDirectory leftPath = .ok false := by decide +kernel
      obtain ⟨made, hmade⟩ := hmade
      simp [hwrite, hmade, hdirectory] at hfails
  · obtain ⟨⟨after, bytes, -, hbytes, -⟩ | ⟨after, failure, hwrite, hwithdrawn⟩, -⟩ :=
      hwhole [CodePoint.ofNat 0xd800]
    · cases hbytes
    · exact ⟨after, failure, hwrite, hwithdrawn.path⟩

/-- A file under the given name whose second name is that of a temporary file. -/
def doubledFiles (name : Text) : FileSystem :=
  let old := Utf8.encodeAny (Text.ofString "old")
  let files := ((FileSystem.empty []).putFile [name]).1.overwrite 0 old
  files.put [Text.ofString "a.tmp"] (.file 0 old)

/-- A second name that the temporary file has shows what becomes of it. If the file itself has it, a
write that fails leaves it empty; if another file has it, that file gets the text. -/
theorem doubled_spoils :
    (∃ after failure,
      writeText (doubledFiles (Text.ofString "a")) leftPath [CodePoint.ofNat 0xd800] =
        (after, .error failure) ∧
      (doubledFiles (Text.ofString "a")).read leftPath = .ok (Utf8.encodeAny "old") ∧
      after.read leftPath = .ok []) ∧
    ∃ after,
      writeText (doubledFiles (Text.ofString "b")) leftPath (Text.ofString "new") = (after, .ok ()) ∧
      (doubledFiles (Text.ofString "b")).read ⟨.root, [Text.ofString "b"]⟩ =
        .ok (Utf8.encodeAny "old") ∧
      after.read ⟨.root, [Text.ofString "b"]⟩ = .ok (Utf8.encodeAny "new") := by
  refine ⟨⟨_, _, rfl, ?_, ?_⟩, _, rfl, ?_, ?_⟩ <;> decide +kernel

end AtomicWrite
end GameArchive
