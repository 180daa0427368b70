import GameArchive.Proofs.FileSystem.Frame

/-!
# Every outcome of a write

Whatever the text and whatever is in the way, a write either puts the bytes of the text in place of
what the file holds, or it fails and leaves the file as it was. In both cases no file is left at the
temporary name that was not there before. This holds where no link has the temporary name, where the
file that is written is not itself at that name, and where what is at its path leads to a file.
-/

namespace GameArchive
namespace AtomicWrite

open FileSystem

variable {fs after : FileSystem} {p temporary : Path} {text : Text}

/-- The path leads to the file with a number. -/
def LeadsTo (fs : FileSystem) (p : Path) (number : Nat) : Prop :=
  ∃ location content, fs.lookup true p = .ok (.found location (.file number content))

/-- The file with a number is at the path, not only a link to it. -/
def IsAt (fs : FileSystem) (p : Path) (number : Nat) : Prop :=
  ∃ place content, fs.lookup false p = .ok (.found place (.file number content))

/-- A write finds its way clear to its file: it is a file if anything, and not at the temporary
name, at which no link is. -/
structure IsClear (fs : FileSystem) (p temporary : Path) : Prop where
  numbered : fs.IsNumbered
  link : ∀ place target, fs.lookup false temporary ≠ .ok (.found place (.link target))
  apart : ∀ number, IsAt fs temporary number → ¬LeadsTo fs p number
  leads : ∀ place node, fs.lookup false p = .ok (.found place node) → ∃ number, LeadsTo fs p number

/-- What is written can be put in place: a file is at the path if anything. At the temporary name is
no link, and no file that has the path as another name. -/
structure IsReplaceable (fs : FileSystem) (p temporary : Path) : Prop where
  numbered : fs.IsNumbered
  link : ∀ place target, fs.lookup false temporary ≠ .ok (.found place (.link target))
  other : ∀ number, IsAt fs temporary number → ¬IsAt fs p number
  leads : ∀ place node, fs.lookup false p = .ok (.found place node) → ∃ number, LeadsTo fs p number

theorem IsAt.leadsTo {number : Nat} (h : IsAt fs p number) : LeadsTo fs p number := by
  obtain ⟨place, content, hfound⟩ := h
  exact ⟨place, content, lookup_true_of_not_link hfound (by simp)⟩

theorem IsClear.isReplaceable {fs : FileSystem} {p temporary : Path} (h : IsClear fs p temporary) :
    IsReplaceable fs p temporary :=
  ⟨h.numbered, h.link, fun number hat hpath => h.apart number hat hpath.leadsTo, h.leads⟩

/-- The file is as it was, and nothing is at the temporary name. -/
structure Undone (fs after : FileSystem) (p temporary : Path) : Prop where
  made : fs.made ≤ after.made
  numbered : after.IsNumbered
  file : ∀ location number content,
    after.lookup true p = .ok (.found location (.file number content)) ↔
      fs.lookup true p = .ok (.found location (.file number content))
  leads : ∀ place node, after.lookup false p = .ok (.found place node) →
    ∃ node, fs.lookup false p = .ok (.found place node)
  free : ∃ place, after.lookup false temporary = .ok (.free place)

/-- The file holds the bytes, and nothing is at the temporary name. The file has a new number, or
the one of the file that was at the temporary name. -/
structure Written (fs after : FileSystem) (p temporary : Path) (bytes : Bytes) : Prop where
  made : fs.made ≤ after.made
  numbered : after.IsNumbered
  file : ∃ location number, after.lookup true p = .ok (.found location (.file number bytes)) ∧
    nameFailure? p.text = none ∧
      (number = fs.made ∧ fs.made < after.made ∨ IsAt fs temporary number)
  free : ∃ place, after.lookup false temporary = .ok (.free place)

/-- The outcomes of a write. -/
inductive Outcome (fs : FileSystem) (p temporary : Path) (text : Text) :
    FileSystem × Except Failure Unit → Prop where
  /-- The temporary file cannot be made. -/
  | unmade {e : FileSystem.Failure} {failure : Failure} : fs.create temporary = .error e →
      Outcome fs p temporary text (fs, .error failure)
  /-- The text cannot be encoded. -/
  | refused {after : FileSystem} {fault : Utf8.EncodeFault} : Utf8.encode text = .error fault →
      Undone fs after p temporary → Outcome fs p temporary text (after, .error (.encode fault))
  /-- Nothing can be put at the path. -/
  | unplaced {after : FileSystem} {failure : Failure} : (∀ bytes, fs.read p ≠ .ok bytes) →
      Undone fs after p temporary → Outcome fs p temporary text (after, .error failure)
  | written {after : FileSystem} {bytes : Bytes} : Utf8.encode text = .ok bytes →
      Written fs after p temporary bytes → Outcome fs p temporary text (after, .ok ())

/-! ## Names -/

theorem cutName_append (name : Text) : (Path.cutName name).1 ++ (Path.cutName name).2 = name := by
  unfold Path.cutName
  dsimp only
  split
  · exact List.append_nil name
  · exact List.take_append_drop _ name

/-- The temporary file has the name of the file with an ending behind it. -/
theorem temporary?_spec (h : temporary? p = some temporary) :
    ∃ before name, p = ⟨p.anchor, before ++ [name]⟩ ∧
      temporary = ⟨p.anchor, before ++ [name ++ Text.ofString ".tmp"]⟩ := by
  unfold temporary? Path.withSuffix? at h
  split at h
  · contradiction
  next hname =>
  rw [Path.name] at hname
  have hnames : p.names ≠ [] := by
    intro hnil
    rw [hnil] at hname
    exact hname rfl
  have hlast : p.stem ++ p.suffix = p.names.getLast hnames := by
    rw [Path.stem, Path.suffix, cutName_append, Path.name, List.getLast?_eq_some_getLast hnames]
    rfl
  refine ⟨p.names.dropLast, p.names.getLast hnames, by rw [List.dropLast_concat_getLast], ?_⟩
  rw [← hlast, List.append_assoc]
  exact (Option.some.inj h).symm

/-- The system spells the ending as it is. -/
theorem entryName_ending (name : Text) : Utf8.entryName (name ++ Text.ofString ".tmp") =
    Utf8.entryName name ++ Text.ofString ".tmp" :=
  Utf8.entryName_append_right name (by decide)

theorem entryNames_of_temporary? (h : temporary? p = some temporary) :
    temporary.anchor = p.anchor ∧ ∃ before name, p.entryNames = before ++ [name] ∧
      temporary.entryNames = before ++ [name ++ Text.ofString ".tmp"] := by
  obtain ⟨before, name, hp, rfl⟩ := temporary?_spec h
  refine ⟨rfl, Path.entryNames ⟨p.anchor, before⟩, Utf8.entryName name, ?_, ?_⟩
  · rw [hp, Path.entryNames_append]
    rfl
  · rw [Path.entryNames_append, ← entryName_ending]
    rfl

theorem ne_ending (name : Text) : name ≠ name ++ Text.ofString ".tmp" := by simp [Text.ofString]

/-! ## Steps that undo and steps that finish -/

variable {left number : Nat} {directory : Location} {name other : Text} {opened : FileSystem}
  {content : Bytes}

/-- The temporary file is open, under its name in its directory. -/
structure IsOpen (fs opened : FileSystem) (temporary : Path) (left : Nat) (directory : Location)
    (other : Text) (number : Nat) (content : Bytes) : Prop where
  named : NamedIn fs temporary left directory other
  short : isLongPath temporary = false
  entry : IsEntry other
  wrote : fs.Wrote opened (directory ++ [other]) number content

namespace IsOpen

theorem keeps (h : IsOpen fs opened temporary left directory other number content)
    {location : Location} (hpass : Passable fs location) :
    opened.get? location = fs.get? location :=
  (h.wrote.passable hpass).2

theorem lookup (h : IsOpen fs opened temporary left directory other number content) :
    opened.lookup false temporary =
      .ok (.found (directory ++ [other]) (.file number content)) := by
  have hopened := h.named.frame h.wrote.current fun _ hpass => h.keeps hpass
  rw [hopened.lookup_of_isEntry h.short h.entry, placeAt, h.wrote.file]

theorem isAt (h : IsOpen fs opened temporary left directory other number content) {old : Bytes}
    (hold : fs.get? (directory ++ [other]) = some (.file number old)) :
    IsAt fs temporary number := by
  have hlookup := h.named.lookup_of_isEntry h.short h.entry
  rw [placeAt, hold] at hlookup
  exact ⟨_, _, hlookup⟩

/-- Where a file has the number of the open one, the open one was there before, under the temporary
name. -/
theorem isAt_of_number (h : IsOpen fs opened temporary left directory other number content)
    (hnumbered : fs.IsNumbered) {location : Location} {bytes : Bytes}
    (hget : fs.get? location = some (.file number bytes)) : IsAt fs temporary number := by
  obtain ⟨-, rfl, -⟩ | ⟨old, hold⟩ := h.wrote.before
  · exact absurd (hnumbered _ _ _ hget) (Nat.lt_irrefl _)
  · exact h.isAt hold

theorem edit (h : IsOpen fs opened temporary left directory other number content)
    (change : Bytes → Bytes) :
    IsOpen fs (opened.edit number change) temporary left directory other number
      (change content) :=
  ⟨h.named, h.short, h.entry, h.wrote.edit change⟩

/-- The temporary file can be taken away. -/
theorem discard_eq (h : IsOpen fs opened temporary left directory other number content)
    (htakes : nameFailure? temporary.text = none) :
    opened.discard temporary = .ok (opened.erase (directory ++ [other])) := by
  rw [FileSystem.discard, unlink_eq_ok.mpr ⟨htakes, _, _, h.lookup, by simp, rfl⟩]

/-- The name is free once what was at it has been taken away, and nothing on the way to it. -/
theorem exists_free (h : IsOpen fs opened temporary left directory other number content)
    (hcurrent : after.current = fs.current)
    (hkeeps : ∀ location, Passable fs location → after.get? location = fs.get? location)
    (hnone : after.get? (directory ++ [other]) = none) :
    ∃ place, after.lookup false temporary = .ok (.free place) := by
  have hafter := (h.named.frame hcurrent hkeeps).lookup_of_isEntry h.short h.entry
  rw [placeAt, hnone] at hafter
  exact ⟨_, hafter⟩

/-- The file is not the one that is written at the temporary name. -/
theorem not_leadsTo (h : IsOpen fs opened temporary left directory other number content)
    (hclear : IsClear fs p temporary) : ¬LeadsTo fs p number := by
  rintro ⟨location, bytes, hfile⟩
  have hat := h.isAt_of_number hclear.numbered (get?_of_lookup hfile (by simp))
  exact hclear.apart number hat ⟨_, _, hfile⟩

/-- Without the temporary file all is as before. -/
theorem undone (h : IsOpen fs opened temporary left directory other number content)
    (hclear : IsClear fs p temporary) :
    Undone fs (opened.erase (directory ++ [other])) p temporary where
  made := h.wrote.made
  numbered := by
    intro location n bytes hget
    by_cases hlocation : location = directory ++ [other]
    · rw [hlocation, get?_erase_same opened (by simp)] at hget
      contradiction
    · rw [get?_erase_other opened hlocation] at hget
      exact h.wrote.isNumbered hclear.numbered _ _ _ hget
  file := by
    -- The file that is taken away is not the one that the path leads to.
    have hnot := h.not_leadsTo hclear
    intro location n bytes
    constructor
    · intro hlookup
      obtain ⟨old, hold, change, hedited⟩ := h.wrote.lookup_of_erase (by simp) hlookup
      cases old with
      | file n' content' =>
        obtain ⟨rfl, hbytes⟩ := Node.file.inj hedited
        have hn : n ≠ number := by
          rintro rfl
          exact hnot ⟨_, _, hold⟩
        rw [if_neg hn] at hbytes
        rw [hold, hbytes]
      | _ => cases hedited
    · intro hlookup
      refine h.wrote.erase_lookup ?_ hlookup
      rintro rfl
      exact hnot ⟨_, _, hlookup⟩
  leads := by
    intro place node hlookup
    obtain ⟨old, hold, -⟩ := h.wrote.lookup_of_erase (by simp) hlookup
    exact ⟨old, hold⟩
  free := by
    refine h.exists_free h.wrote.current (fun location hpass => ?_)
      (get?_erase_same opened (by simp))
    obtain ⟨hne, hget⟩ := h.wrote.passable hpass
    rw [get?_erase_other opened hne, hget]

end IsOpen

/-- No way leads through the place where the file is put: nothing is there, or a file, or a link to
a file. -/
theorem IsReplaceable.not_passable (h : IsReplaceable fs p temporary)
    (hp : NamedIn fs p left directory name) (hlong : isLongPath p = false) (hname : IsEntry name)
    (hnode : fs.get? (directory ++ [name]) ≠ some .directory) :
    ¬Passable fs (directory ++ [name]) := by
  have hlookup := hp.lookup_of_isEntry hlong hname
  cases hget : fs.get? (directory ++ [name]) with
  | none =>
    intro hpass
    obtain ⟨node, hsome⟩ := hpass.exists_node
    simp [hget] at hsome
  | some node =>
    cases node with
    | directory => exact absurd hget hnode
    | file n bytes => exact fun hpass => hpass.not_file n bytes hget
    | link target =>
      rw [placeAt, hget] at hlookup
      obtain ⟨n, location, bytes, hfile⟩ := h.leads _ _ hlookup
      rw [hp.lookup_eq, hlong, if_neg Bool.false_ne_true, followLinks_cons] at hfile
      simp only [hname.not_up, hname.not_here, hname.not_long, hget, Bool.false_eq_true, if_false,
        Bool.not_true, and_false] at hfile
      cases left with
      | zero => contradiction
      | succ left => exact not_passable_of_link hget (by simpa using hfile)

/-- What is replaced has its place at the last name of the path and is no directory. -/
theorem goal_of_replaceable (hp : NamedIn fs p left directory name) {goal : Location}
    (hgoal : fs.replaceable p = .ok goal) :
    isLongPath p = false ∧ IsEntry name ∧ goal = directory ++ [name] ∧
      fs.get? goal ≠ some .directory := by
  obtain ⟨old, hold, hnot⟩ | hfree := replaceable_eq_ok.mp hgoal
  · obtain ⟨hlong, hname, hplace⟩ := hp.entry hold (by simp [hnot])
    obtain ⟨rfl, hget⟩ := placeAt_eq_found.mp hplace
    exact ⟨hlong, hname, rfl, by simp [hget, hnot]⟩
  · obtain ⟨hlong, hname, hplace⟩ := hp.entry hfree (by simp)
    obtain ⟨rfl, hget⟩ := placeAt_eq_free.mp hplace
    exact ⟨hlong, hname, rfl, by simp [hget]⟩

/-- The open file is not at the path by another name. -/
theorem IsOpen.not_isFileAt (h : IsOpen fs opened temporary left directory other number content)
    (hreplaceable : IsReplaceable fs p temporary) (hp : NamedIn fs p left directory name)
    (hlong : isLongPath p = false) (hname : IsEntry name)
    (hplaces : directory ++ [other] ≠ directory ++ [name]) :
    opened.isFileAt (directory ++ [name]) (.file number content) = false := by
  rw [Bool.eq_false_iff]
  intro hfile
  obtain ⟨-, hget⟩ := isFileAt_eq_true.mp hfile
  obtain ⟨change, hchange⟩ := h.wrote.elsewhere
  obtain ⟨old, hold⟩ : ∃ old, fs.get? (directory ++ [name]) = some (.file number old) := by
    rw [hchange _ hplaces.symm, Option.map_eq_some_iff] at hget
    obtain ⟨node, hnode, hedited⟩ := hget
    cases node with
    | file n bytes =>
      obtain ⟨rfl, -⟩ := Node.file.inj hedited
      exact ⟨bytes, hnode⟩
    | _ => cases hedited
  have hfound := hp.lookup_of_isEntry hlong hname
  rw [placeAt, hold] at hfound
  exact hreplaceable.other number (h.isAt_of_number hreplaceable.numbered hold) ⟨_, _, hfound⟩

/-- A replacement moves the open file to the path, if it is not there by another name. -/
theorem IsOpen.moved (h : IsOpen fs opened temporary left directory other number content)
    (hp : NamedIn fs p left directory name) (hne : other ≠ name)
    (hother : isLongPath p = false → IsEntry name →
      opened.isFileAt (directory ++ [name]) (.file number content) = false)
    (hreplace : opened.replace temporary p = .ok after) :
    nameFailure? p.text = none ∧ isLongPath p = false ∧ IsEntry name ∧
      opened.get? (directory ++ [name]) ≠ some .directory ∧
      opened.Moved after (directory ++ [other]) (directory ++ [name]) (.file number content) := by
  obtain ⟨-, htakes, location, node, goal, hlookup, hgoal, rfl⟩ := replace_eq_ok.mp hreplace
  obtain ⟨rfl, rfl⟩ : location = directory ++ [other] ∧ node = .file number content := by
    simpa [eq_comm] using h.lookup.symm.trans hlookup
  obtain ⟨hlong, hname, rfl, hnode⟩ :=
    goal_of_replaceable (hp.frame h.wrote.current fun _ hpass => h.keeps hpass) hgoal
  have hplaces : directory ++ [other] ≠ directory ++ [name] := by simpa using hne
  rw [if_neg (by simp [hplaces, hother hlong hname])]
  exact ⟨htakes, hlong, hname, hnode, moved_of_ne opened hplaces (by simp) (by simp) _⟩

/-- The temporary file is moved to the path: it is found there, and all ways are as before. -/
theorem IsOpen.replaced {bytes : Bytes}
    (h : IsOpen fs opened temporary left directory other number bytes)
    (hreplaceable : IsReplaceable fs p temporary) (hp : NamedIn fs p left directory name)
    (hne : other ≠ name) (hreplace : opened.replace temporary p = .ok after) :
    opened.Moved after (directory ++ [other]) (directory ++ [name]) (.file number bytes) ∧
      (∀ place, Passable fs place → after.get? place = fs.get? place) ∧
      nameFailure? p.text = none ∧
      after.lookup true p = .ok (.found (directory ++ [name]) (.file number bytes)) := by
  have hplaces : directory ++ [other] ≠ directory ++ [name] := by simpa using hne
  obtain ⟨htakes, hlong, hname, hnode, hmove⟩ := h.moved hp hne
    (fun hlong hname => h.not_isFileAt hreplaceable hp hlong hname hplaces) hreplace
  have hpass : ¬Passable fs (directory ++ [name]) := by
    refine hreplaceable.not_passable hp hlong hname fun hget => hnode ?_
    rw [h.keeps (.directory hget), hget]
  have hkeeps : ∀ place, Passable fs place → after.get? place = fs.get? place := by
    intro place hplace
    have hgoal : place ≠ directory ++ [name] := by
      rintro rfl
      exact hpass hplace
    rw [hmove.elsewhere _ (h.wrote.passable hplace).1 hgoal, h.keeps hplace]
  refine ⟨hmove, hkeeps, htakes, ?_⟩
  have hafter := hp.frame (hmove.current.trans h.wrote.current) hkeeps
  have hfound := hafter.lookup_of_isEntry hlong hname
  rw [placeAt, hmove.at_goal] at hfound
  rw [hafter.lookup_true (by simp [hfound]), hfound]

/-- The temporary file is put in place of the file. -/
theorem IsOpen.written {bytes : Bytes}
    (h : IsOpen fs opened temporary left directory other number bytes)
    (hreplaceable : IsReplaceable fs p temporary) (hp : NamedIn fs p left directory name)
    (hne : other ≠ name) (hreplace : opened.replace temporary p = .ok after) :
    Written fs after p temporary bytes := by
  obtain ⟨hmove, hkeeps, htakes, hfound⟩ := h.replaced hreplaceable hp hne hreplace
  refine ⟨hmove.made ▸ h.wrote.made, ?_, ⟨directory ++ [name], number, hfound, htakes, ?_⟩, ?_⟩
  · exact hmove.isNumbered (h.wrote.isNumbered hreplaceable.numbered) fun n content hfile => by
      cases hfile
      exact h.wrote.number_lt hreplaceable.numbered
  · obtain ⟨-, hmade, hlt⟩ | ⟨content, hcontent⟩ := h.wrote.before
    · exact .inl ⟨hmade, hmove.made.symm ▸ hlt⟩
    · exact .inr (h.isAt hcontent)
  · exact h.exists_free (hmove.current.trans h.wrote.current) hkeeps hmove.at_place

/-- The steps of a write whose text or whose file is in the way, and which is undone. -/
theorem writeText_eq_undone {undone : FileSystem} {failure : Failure} {number : Nat}
    (htemporary : temporary? p = some temporary)
    (hcreate : fs.create temporary = .ok (opened, number))
    (hcause : (∃ fault, Utf8.encode text = .error fault ∧ failure = .encode fault ∧
        opened.discard temporary = .ok undone) ∨
      ∃ bytes e, Utf8.encode text = .ok bytes ∧ failure = .file e ∧
        (opened.overwrite number bytes).replace temporary p = .error e ∧
        (opened.overwrite number bytes).discard temporary = .ok undone) :
    writeText fs p text = (undone, .error failure) := by
  obtain ⟨fault, hfault, rfl, hdiscard⟩ | ⟨bytes, e, hbytes, rfl, hreplace, hdiscard⟩ := hcause
  · simp [writeText, start?, htemporary, Write.run, Write.advance, hcreate, hfault, hdiscard,
      Write.failure?]
  · simp [writeText, start?, htemporary, Write.run, Write.advance, hcreate, hbytes, hreplace,
      hdiscard, Write.failure?]

/-- Something can be put at a path that leads to a file. -/
theorem IsOpen.exists_replace (h : IsOpen fs opened temporary left directory other number content)
    (htakes : nameFailure? temporary.text = none) {bytes : Bytes}
    (hread : fs.read p = .ok bytes) : ∃ after, opened.replace temporary p = .ok after := by
  obtain ⟨htakesPath, location, n, hlookup⟩ := read_eq_ok.mp hread
  obtain ⟨hlongPath, left', directory', name, hp, hname, -, node, hget, hnode⟩ :=
    exists_namedIn_of_file hlookup
  have hfound := (hp.frame h.wrote.current fun _ hpass => h.keeps hpass).lookup_of_isEntry
    hlongPath hname
  obtain ⟨after, hafter, hnot⟩ : ∃ after, opened.get? (directory' ++ [name]) = some after ∧
      after ≠ .directory := by
    by_cases hplace : directory' ++ [name] = directory ++ [other]
    · exact ⟨_, by rw [hplace, h.wrote.file], by simp⟩
    · obtain ⟨change, hchange⟩ := h.wrote.elsewhere
      refine ⟨_, by rw [hchange _ hplace, hget]; rfl, ?_⟩
      cases node with
      | directory => contradiction
      | _ => simp [Node.edited]
  rw [placeAt, hafter] at hfound
  exact ⟨_, replace_eq_ok.mpr ⟨htakes, htakesPath, _, _, _, h.lookup,
    replaceable_eq_ok.mpr (.inl ⟨after, hfound, hnot⟩), rfl⟩⟩

/-- Where the temporary file cannot be made, taking it away changes nothing. -/
theorem discard_of_unmade
    (hlink : ∀ place target, fs.lookup false temporary ≠ .ok (.found place (.link target)))
    {before : List Text} (hnames : temporary.entryNames = before ++ [other]) {e : FileSystem.Failure}
    (hcreate : fs.create temporary = .error e) (hdiscard : fs.discard temporary = .ok after) :
    after = fs := by
  rcases discard_eq_ok hdiscard with rfl | hunlink
  · rfl
  · obtain ⟨-, location, node, hlookup, -⟩ := unlink_eq_ok.mp hunlink
    obtain ⟨left, directory, hnamed⟩ := exists_namedIn hnames hlookup
    exact discard_of_create_error hnamed hlink hcreate hdiscard

/-- A temporary file that is made is open in the directory of its path. -/
theorem exists_isOpen
    (hlink : ∀ place target, fs.lookup false temporary ≠ .ok (.found place (.link target)))
    {before : List Text} (hnames : temporary.entryNames = before ++ [other])
    (hcreate : fs.create temporary = .ok (opened, number)) :
    nameFailure? temporary.text = none ∧
      ∃ left directory, IsOpen fs opened temporary left directory other number [] := by
  obtain ⟨left, directory, hnamed⟩ : ∃ left directory,
      NamedIn fs temporary left directory other := by
    obtain ⟨-, ⟨_, _, _, hlookup, -⟩ | ⟨_, hlookup, -⟩⟩ := create_eq_ok.mp hcreate <;>
      exact exists_namedIn hnames hlookup
  obtain ⟨htakes, hlong, hother, hopened⟩ := wrote_of_create hnamed hlink hcreate
  exact ⟨htakes, left, directory, hnamed, hlong, hother, hopened⟩

/-- Every write has one of the outcomes. -/
theorem writeText_outcome (h : IsClear fs p temporary) (htemporary : temporary? p = some temporary)
    (text : Text) : Outcome fs p temporary text (writeText fs p text) := by
  obtain ⟨hanchor, before, name, hpnames, hnames⟩ := entryNames_of_temporary? htemporary
  cases hcreate : fs.create temporary with
  | error e =>
    obtain ⟨cause, hcause⟩ := writeText_eq_error htemporary hcreate fun after hdiscard =>
      discard_of_unmade h.link hnames hcreate hdiscard
    rw [hcause]
    exact .unmade hcreate
  | ok made =>
    obtain ⟨opened, number⟩ := made
    obtain ⟨htakes, left, directory, hopen⟩ := exists_isOpen h.link hnames hcreate
    have hpath : NamedIn fs p left directory name :=
      hopen.named.of_entryNames hanchor.symm hnames hpnames
    cases hencode : Utf8.encode text with
    | error fault =>
      rw [writeText_eq_undone htemporary hcreate
        (.inl ⟨fault, hencode, rfl, hopen.discard_eq htakes⟩)]
      exact .refused hencode (hopen.undone h)
    | ok bytes =>
      have hwritten := hopen.edit fun content => bytes ++ content.drop bytes.length
      rw [List.drop_nil, List.append_nil] at hwritten
      cases hreplace : (opened.overwrite number bytes).replace temporary p with
      | error e =>
        rw [writeText_eq_undone htemporary hcreate
          (.inr ⟨bytes, e, hencode, rfl, hreplace, hwritten.discard_eq htakes⟩)]
        refine .unplaced (fun content hread => ?_) (hwritten.undone h)
        obtain ⟨after, hafter⟩ := hwritten.exists_replace htakes hread
        rw [overwrite, hafter] at hreplace
        contradiction
      | ok after =>
        rw [writeText_eq_ok htemporary hcreate hencode hreplace]
        exact .written hencode
          (hwritten.written h.isReplaceable hpath (ne_ending name).symm hreplace)

/-! ## The next write -/

theorem Undone.read (h : Undone fs after p temporary) (bytes : Bytes) :
    after.read p = .ok bytes ↔ fs.read p = .ok bytes := by
  simp only [read_eq_ok, h.file]

theorem Undone.leadsTo (h : Undone fs after p temporary) (number : Nat) :
    LeadsTo after p number ↔ LeadsTo fs p number := by
  simp only [LeadsTo, h.file]

theorem not_isAt_of_free (h : ∃ place, fs.lookup false p = .ok (.free place)) (number : Nat) :
    ¬IsAt fs p number := by
  rintro ⟨place, content, hfound⟩
  obtain ⟨free, hfree⟩ := h
  simp [hfree] at hfound

theorem Undone.isClear (h : Undone fs after p temporary) (hclear : IsClear fs p temporary) :
    IsClear after p temporary where
  numbered := h.numbered
  link place target := by
    obtain ⟨free, hfree⟩ := h.free
    simp [hfree]
  apart number hat := absurd hat (not_isAt_of_free h.free number)
  leads place node hlookup := by
    obtain ⟨old, hold⟩ := h.leads place node hlookup
    obtain ⟨number, hnumber⟩ := hclear.leads _ _ hold
    exact ⟨number, (h.leadsTo number).mpr hnumber⟩

theorem Written.isClear {bytes : Bytes} (h : Written fs after p temporary bytes) :
    IsClear after p temporary where
  numbered := h.numbered
  link place target := by
    obtain ⟨free, hfree⟩ := h.free
    simp [hfree]
  apart number hat := absurd hat (not_isAt_of_free h.free number)
  leads place node hlookup := by
    obtain ⟨location, number, hfile, -⟩ := h.file
    exact ⟨number, location, bytes, hfile⟩

theorem Written.read {bytes : Bytes} (h : Written fs after p temporary bytes) :
    after.read p = .ok bytes := by
  obtain ⟨location, number, hfile, htakes, -⟩ := h.file
  exact read_eq_ok.mpr ⟨htakes, location, number, hfile⟩

/-- The file that is written is new, or was at the temporary name. -/
theorem Written.leadsTo {bytes : Bytes} (h : Written fs after p temporary bytes) {number : Nat}
    (hleads : LeadsTo after p number) : fs.made ≤ number ∨ IsAt fs temporary number := by
  obtain ⟨location, n, hfile, -, hnumber⟩ := h.file
  obtain ⟨place, content, hlookup⟩ := hleads
  rw [hfile, Except.ok.injEq] at hlookup
  cases hlookup
  rcases hnumber with ⟨rfl, -⟩ | hat
  · exact .inl (Nat.le_refl _)
  · exact .inr hat

/-! ## Contents that change -/

theorem lookup_edit_eq_found {follow : Bool} {place : Location} {node : Node}
    {change : Bytes → Bytes} :
    (fs.edit number change).lookup follow p = .ok (.found place node) ↔
      ∃ old, fs.lookup follow p = .ok (.found place old) ∧ old.edited number change = node := by
  rw [lookup_edit, map_eq_ok]
  constructor
  · rintro ⟨found, hfound, hedited⟩
    cases found with
    | free location => cases hedited
    | found location old =>
      cases hedited
      exact ⟨old, hfound, rfl⟩
  · rintro ⟨old, hold, rfl⟩
    exact ⟨_, hold, rfl⟩

theorem lookup_edit_eq_file {follow : Bool} {n : Nat} {change : Bytes → Bytes} :
    (∃ place content,
        (fs.edit number change).lookup follow p = .ok (.found place (.file n content))) ↔
      ∃ place content, fs.lookup follow p = .ok (.found place (.file n content)) := by
  constructor
  · rintro ⟨place, content, hfound⟩
    obtain ⟨old, hold, hedited⟩ := lookup_edit_eq_found.mp hfound
    cases old with
    | file n' content' =>
      obtain ⟨rfl, -⟩ := Node.file.inj hedited
      exact ⟨place, content', hold⟩
    | _ => cases hedited
  · rintro ⟨place, content, hfound⟩
    exact ⟨place, _, lookup_edit_of_file hfound number change⟩

theorem leadsTo_edit {n : Nat} {change : Bytes → Bytes} :
    LeadsTo (fs.edit number change) p n ↔ LeadsTo fs p n := lookup_edit_eq_file

theorem isAt_edit {n : Nat} {change : Bytes → Bytes} :
    IsAt (fs.edit number change) p n ↔ IsAt fs p n := lookup_edit_eq_file

/-- Where the way to a file is clear, contents do not matter. -/
theorem IsClear.edit (h : IsClear fs p temporary) (number : Nat) (change : Bytes → Bytes) :
    IsClear (fs.edit number change) p temporary where
  numbered := isNumbered_edit h.numbered number change
  link place target hfound := h.link place target (lookup_edit_eq_link.mp hfound)
  apart n hat hleads := h.apart n (isAt_edit.mp hat) (leadsTo_edit.mp hleads)
  leads place node hfound := by
    obtain ⟨old, hold, -⟩ := lookup_edit_eq_found.mp hfound
    obtain ⟨n, hn⟩ := h.leads place old hold
    exact ⟨n, leadsTo_edit.mpr hn⟩

/-- The content of another file changes no file. -/
theorem read_edit (h : ¬LeadsTo fs p number) (change : Bytes → Bytes) (bytes : Bytes) :
    (fs.edit number change).read p = .ok bytes ↔ fs.read p = .ok bytes := by
  rw [read_eq_ok, read_eq_ok]
  refine and_congr_right fun _ => ?_
  constructor
  · rintro ⟨location, n, hfound⟩
    obtain ⟨old, hold, hedited⟩ := lookup_edit_eq_found.mp hfound
    cases old with
    | file n' content =>
      obtain ⟨rfl, hcontent⟩ := Node.file.inj hedited
      have hne : n' ≠ number := by
        rintro rfl
        exact h ⟨_, _, hold⟩
      rw [if_neg hne] at hcontent
      exact ⟨location, n', hcontent ▸ hold⟩
    | _ => cases hedited
  · rintro ⟨location, n, hfound⟩
    have hne : n ≠ number := by
      rintro rfl
      exact h ⟨_, _, hfound⟩
    have hedited := lookup_edit_of_file hfound number change
    rw [if_neg hne] at hedited
    exact ⟨location, n, hedited⟩

end AtomicWrite
end GameArchive
