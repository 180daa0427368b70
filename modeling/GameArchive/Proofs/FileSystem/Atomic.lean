import GameArchive.FileSystem.Atomic
import GameArchive.Proofs.FileSystem.Lookup

/-!
# Writes that succeed and writes that fail

A write whose temporary file can be made succeeds, and its file then holds exactly the bytes of the
text: the two files have their names in one directory, no way to this directory leads through either
of them, and what a write does on the way changes nothing but their contents. A write whose
temporary file cannot be made leaves everything as it was.
-/

namespace GameArchive
namespace FileSystem

variable {fs other : FileSystem}

/-! ## Operations that succeed -/

theorem read_eq_ok {p : Path} {content : Bytes} :
    fs.read p = .ok content ↔ nameFailure? p.text = none ∧
      ∃ location number, fs.lookup true p = .ok (.found location (.file number content)) := by
  unfold read taking node?
  cases nameFailure? p.text with
  | some failure => simp
  | none =>
    cases fs.lookup true p with
    | error e => simp
    | ok place =>
      cases place with
      | free location => simp
      | found location node => cases node <;> simp

theorem create_eq_ok {p : Path} {made : FileSystem × Nat} :
    fs.create p = .ok made ↔ nameFailure? p.text = none ∧
      ((∃ location number content, fs.lookup true p = .ok (.found location (.file number content)) ∧
          (fs.edit number fun _ => [], number) = made) ∨
        ∃ location, fs.lookup true p = .ok (.free location) ∧ fs.putFile location = made) := by
  unfold create openFile taking
  cases nameFailure? p.text with
  | some failure => simp
  | none =>
    cases fs.lookup true p with
    | error e => simp
    | ok place =>
      cases place with
      | free location => simp
      | found location node => cases node <;> simp [and_assoc]

theorem unlink_eq_ok {p : Path} {after : FileSystem} :
    fs.unlink p = .ok after ↔ nameFailure? p.text = none ∧
      ∃ location node, fs.lookup false p = .ok (.found location node) ∧ node ≠ .directory ∧
        fs.erase location = after := by
  unfold unlink taking
  cases nameFailure? p.text with
  | some failure => simp
  | none =>
    cases fs.lookup false p with
    | error e => simp
    | ok place =>
      cases place with
      | free location => simp
      | found location node => cases node <;> simp [and_assoc]

/-! ## Names in one directory -/

/-- What is at a location, as the end of a lookup. -/
def placeAt (fs : FileSystem) (location : Location) : Place :=
  match fs.get? location with
  | none => .free location
  | some node => .found location node

theorem placeAt_eq_found {location place : Location} {node : Node} :
    fs.placeAt location = .found place node ↔ place = location ∧ fs.get? location = some node := by
  unfold placeAt
  cases fs.get? location <;> simp [eq_comm]

theorem placeAt_eq_free {location place : Location} :
    fs.placeAt location = .free place ↔ place = location ∧ fs.get? location = none := by
  unfold placeAt
  cases fs.get? location <;> simp [eq_comm]

/-- What is found by one name in a directory, without a look at where a link leads. -/
def lastPlace (fs : FileSystem) (directory : Location) (name : Text) : Except Errno Place :=
  if isUp name then .ok (.found directory.dropLast .directory)
  else if isHere name then .ok (.found directory .directory)
  else if isLongName name then .error .nameTooLong
  else .ok (fs.placeAt (directory ++ [name]))

theorem followLinks_last (fs : FileSystem) (links : Nat) (directory : Location) (name : Text) :
    followLinks fs false links directory [name] = lastPlace fs directory name := by
  rw [followLinks_cons, lastPlace, placeAt]
  simp only [followLinks_nil]
  cases fs.get? (directory ++ [name]) with
  | none => rfl
  | some node => cases node <;> rfl

theorem followLinks_last_of_not_link {fs : FileSystem} {links : Nat} {directory : Location}
    {name : Text} (h : ∀ location target,
      lastPlace fs directory name ≠ .ok (.found location (.link target))) :
    followLinks fs true links directory [name] = lastPlace fs directory name := by
  rw [lastPlace, placeAt] at h ⊢
  rw [followLinks_cons]
  simp only [followLinks_nil]
  cases hget : fs.get? (directory ++ [name]) with
  | none => rfl
  | some node =>
    cases node with
    | directory => rfl
    | file number content => rfl
    | link target =>
      rw [hget] at h
      split
      · rfl
      split
      · rfl
      split
      · rfl
      next hup hhere hlong =>
      rw [if_neg hup, if_neg hhere, if_neg hlong] at h
      exact absurd rfl (h _ _)

theorem lastPlace_of_isEntry {name : Text} (h : IsEntry name) (fs : FileSystem)
    (directory : Location) :
    lastPlace fs directory name = .ok (fs.placeAt (directory ++ [name])) := by
  simp [lastPlace, h.not_up, h.not_here, h.not_long]

/-- A name by which no directory is found. -/
theorem isEntry_of_lastPlace {directory : Location} {name : Text} {place : Place}
    (h : lastPlace fs directory name = .ok place) (hplace : ∀ l, place ≠ .found l .directory) :
    IsEntry name := by
  unfold lastPlace at h
  split at h
  · cases h
    exact absurd rfl (hplace _)
  split at h
  · cases h
    exact absurd rfl (hplace _)
  split at h
  · contradiction
  next hup hhere hlong =>
  exact ⟨by simpa using hup, by simpa using hhere, by simpa using hlong⟩

/-- The first names of a path lead to the directory in which its last name is looked up. -/
def NamedIn (fs : FileSystem) (p : Path) (left : Nat) (directory : Location) (name : Text) : Prop :=
  ∃ n before, p.entryNames = before ++ [name] ∧ linkLimit = n + left ∧
    Leads fs n (fs.startOf p) before directory

namespace NamedIn

variable {p : Path} {left : Nat} {directory : Location} {name : Text}

theorem lookup_eq (h : NamedIn fs p left directory name) (follow : Bool) :
    fs.lookup follow p =
      if isLongPath p then .error .nameTooLong
      else followLinks fs follow left directory [name] := by
  obtain ⟨n, before, hnames, hlinks, hleads⟩ := h
  unfold lookup
  rw [hnames, hlinks, hleads.followLinks_append (.inr (List.cons_ne_nil name []))]

theorem lookup_false (h : NamedIn fs p left directory name) :
    fs.lookup false p =
      if isLongPath p then .error .nameTooLong else lastPlace fs directory name := by
  rw [h.lookup_eq, followLinks_last]

/-- Where no link is found, it does not matter whether links are followed. -/
theorem lookup_true (h : NamedIn fs p left directory name)
    (hlink : ∀ location target, fs.lookup false p ≠ .ok (.found location (.link target))) :
    fs.lookup true p = fs.lookup false p := by
  rw [h.lookup_false] at hlink ⊢
  rw [h.lookup_eq]
  split
  · rfl
  · next hlong =>
    rw [if_neg hlong] at hlink
    exact followLinks_last_of_not_link hlink

/-- What is no directory is found at the last name. -/
theorem entry (h : NamedIn fs p left directory name) {place : Place}
    (hlookup : fs.lookup false p = .ok place) (hplace : ∀ l, place ≠ .found l .directory) :
    isLongPath p = false ∧ IsEntry name ∧ fs.placeAt (directory ++ [name]) = place := by
  rw [h.lookup_false] at hlookup
  split at hlookup
  · contradiction
  next hlong =>
  have hname := isEntry_of_lastPlace hlookup hplace
  rw [lastPlace_of_isEntry hname, Except.ok.injEq] at hlookup
  exact ⟨by simpa using hlong, hname, hlookup⟩

theorem lookup_of_isEntry (h : NamedIn fs p left directory name) (hlong : isLongPath p = false)
    (hname : IsEntry name) : fs.lookup false p = .ok (fs.placeAt (directory ++ [name])) := by
  rw [h.lookup_false, hlong, if_neg Bool.false_ne_true, lastPlace_of_isEntry hname]

theorem read_eq (h : NamedIn fs p left directory name) (htakes : nameFailure? p.text = none)
    (hlong : isLongPath p = false) (hname : IsEntry name) {number : Nat} {content : Bytes}
    (hget : fs.get? (directory ++ [name]) = some (.file number content)) :
    fs.read p = .ok content := by
  have hfound := h.lookup_of_isEntry hlong hname
  rw [placeAt, hget] at hfound
  have hlookup := h.lookup_true (by simp [hfound])
  rw [hfound] at hlookup
  exact read_eq_ok.mpr ⟨htakes, _, _, hlookup⟩

/-- A path with the same names in front is looked up in the same directory. -/
theorem of_entryNames (h : NamedIn fs p left directory name) {q : Path} {before : List Text}
    {other : Text} (hanchor : q.anchor = p.anchor) (hp : p.entryNames = before ++ [name])
    (hq : q.entryNames = before ++ [other]) : NamedIn fs q left directory other := by
  obtain ⟨n, first, hnames, hlinks, hleads⟩ := h
  obtain rfl : first = before := (List.append_inj' (hnames.symm.trans hp) rfl).1
  have hstart : fs.startOf q = fs.startOf p := by rw [startOf, startOf, hanchor]
  exact ⟨n, first, hq, hlinks, hstart ▸ hleads⟩

/-- Another name beside the last one. -/
theorem beside (h : NamedIn fs p left directory name) (other : Text) :
    NamedIn fs ⟨p.anchor, p.names.dropLast ++ [other]⟩ left directory (Utf8.entryName other) := by
  obtain ⟨n, before, hnames, -, -⟩ := id h
  have hbefore : Path.entryNames ⟨p.anchor, p.names.dropLast⟩ = before := by
    rw [← Path.parent, Path.entryNames_parent, hnames, List.dropLast_concat]
  exact h.of_entryNames rfl hnames (by rw [Path.entryNames_append, hbefore]; rfl)

theorem frame (h : NamedIn fs p left directory name) (hcurrent : other.current = fs.current)
    (hkeeps : ∀ location, Passable fs location → other.get? location = fs.get? location) :
    NamedIn other p left directory name := by
  obtain ⟨n, before, hnames, hlinks, hleads⟩ := h
  have hstart : other.startOf p = fs.startOf p := by rw [startOf, startOf, hcurrent]
  exact ⟨n, before, hnames, hlinks, hstart ▸ hleads.frame hkeeps⟩

end NamedIn

/-- The directory of a file that is found by a path. -/
theorem exists_namedIn_of_file {p : Path} {location : Location} {number : Nat} {content : Bytes}
    (h : fs.lookup true p = .ok (.found location (.file number content))) :
    isLongPath p = false ∧ ∃ left directory name, NamedIn fs p left directory name ∧ IsEntry name ∧
      ¬Passable fs (directory ++ [name]) ∧
      ∃ node, fs.get? (directory ++ [name]) = some node ∧ node ≠ .directory := by
  unfold lookup at h
  split at h
  · contradiction
  next hlong =>
  obtain ⟨n, left, before, directory, name, hnames, hlinks, hname, hleads, hpass, hnode⟩ :=
    exists_leads_of_file h
  exact ⟨by simpa using hlong, left, directory, name, ⟨n, before, hnames, hlinks, hleads⟩, hname,
    hpass, hnode⟩

/-! ## Nodes that stay -/

/-- Everything is still there, though files may have another content. -/
structure Extends (fs other : FileSystem) : Prop where
  current : other.current = fs.current
  directory : ∀ location, fs.get? location = some .directory → other.get? location = some .directory
  link : ∀ location target, fs.get? location = some (.link target) →
    other.get? location = some (.link target)
  file : ∀ location number content, fs.get? location = some (.file number content) →
    ∃ after, other.get? location = some (.file number after)

namespace Extends

theorem edit (fs : FileSystem) (number : Nat) (change : Bytes → Bytes) :
    fs.Extends (fs.edit number change) where
  current := rfl
  directory location h := by rw [get?_edit, h]; rfl
  link location target h := by rw [get?_edit, h]; rfl
  file location number content h := ⟨_, by rw [get?_edit, h]; rfl⟩

theorem putFile {location : Location} (h : fs.get? location = none) :
    fs.Extends (fs.putFile location).1 := by
  have hkeep : ∀ place node, fs.get? place = some node →
      (fs.putFile location).1.get? place = some node := by
    intro place node hplace
    rw [get?_putFile_other fs, hplace]
    rintro rfl
    simp [h] at hplace
  exact ⟨rfl, fun place => hkeep place _, fun place target => hkeep place _,
    fun place number content hplace => ⟨content, hkeep place _ hplace⟩⟩

theorem trans {last : FileSystem} (h : fs.Extends other) (hlast : other.Extends last) :
    fs.Extends last where
  current := hlast.current.trans h.current
  directory location hget := hlast.directory location (h.directory location hget)
  link location target hget := hlast.link location target (h.link location target hget)
  file location number content hget := by
    obtain ⟨after, hafter⟩ := h.file location number content hget
    exact hlast.file location number after hafter

theorem passable (h : fs.Extends other) {location : Location} (hpass : Passable fs location) :
    other.get? location = fs.get? location := by
  cases hpass with
  | directory hget => rw [hget, h.directory _ hget]
  | link hget _ => rw [hget, h.link _ _ hget]

theorem namedIn (h : fs.Extends other) {p : Path} {left : Nat} {directory : Location}
    {name : Text} (hp : NamedIn fs p left directory name) : NamedIn other p left directory name :=
  hp.frame h.current fun _ => h.passable

/-- What is no directory becomes none. -/
theorem not_directory (h : fs.Extends other) {location : Location} {node : Node}
    (hget : fs.get? location = some node) (hnode : node ≠ .directory) :
    ∃ after, other.get? location = some after ∧ after ≠ .directory := by
  cases node with
  | directory => contradiction
  | file number content =>
    obtain ⟨after, hafter⟩ := h.file location number content hget
    exact ⟨_, hafter, by simp⟩
  | link target => exact ⟨_, h.link location target hget, by simp⟩

end Extends

/-! ## Steps of a write -/

/-- A file that can be made is new or emptied, and has the number that is answered. -/
theorem create_spec {p : Path} {left number : Nat} {directory : Location} {name : Text}
    (hp : NamedIn fs p left directory name)
    (hlink : ∀ location target, fs.lookup false p ≠ .ok (.found location (.link target)))
    (h : fs.create p = .ok (other, number)) :
    nameFailure? p.text = none ∧ isLongPath p = false ∧ IsEntry name ∧ fs.Extends other ∧
      other.get? (directory ++ [name]) = some (.file number []) := by
  obtain ⟨htakes, h⟩ := create_eq_ok.mp h
  refine ⟨htakes, ?_⟩
  rw [hp.lookup_true hlink] at h
  obtain ⟨location, n, content, hlookup, hmade⟩ | ⟨location, hlookup, hmade⟩ := h
  · obtain ⟨hlong, hname, hplace⟩ := hp.entry hlookup (by simp)
    obtain ⟨rfl, hfile⟩ := placeAt_eq_found.mp hplace
    cases hmade
    refine ⟨hlong, hname, .edit fs number _, ?_⟩
    rw [get?_edit, hfile]
    simp [Node.edited]
  · obtain ⟨hlong, hname, hplace⟩ := hp.entry hlookup (by simp)
    obtain ⟨rfl, hnone⟩ := placeAt_eq_free.mp hplace
    cases hmade
    exact ⟨hlong, hname, .putFile hnone, get?_putFile_same fs (by simp)⟩

/-- Contents have no say in whether a file can be made. -/
theorem create_edit {p : Path} {made : FileSystem × Nat} (h : fs.create p = .ok made)
    (number : Nat) (change : Bytes → Bytes) :
    ∃ made', (fs.edit number change).create p = .ok made' := by
  obtain ⟨htakes, h⟩ := create_eq_ok.mp h
  obtain ⟨location, n, content, hlookup, -⟩ | ⟨location, hlookup, -⟩ := h
  · exact ⟨_, create_eq_ok.mpr ⟨htakes,
      .inl ⟨_, _, _, lookup_edit_of_file hlookup number change, rfl⟩⟩⟩
  · refine ⟨_, create_eq_ok.mpr ⟨htakes, .inr ⟨location, ?_, rfl⟩⟩⟩
    rw [lookup_edit, hlookup]
    rfl

theorem discard_eq_ok {p : Path} {after : FileSystem} (h : fs.discard p = .ok after) :
    after = fs ∨ fs.unlink p = .ok after := by
  unfold discard at h
  split at h
  · cases h
    exact .inl rfl
  · exact .inr h

/-- A file that cannot be made is not there to be removed either. -/
theorem discard_of_create_error {p : Path} {left : Nat} {directory : Location} {name : Text}
    (hp : NamedIn fs p left directory name)
    (hlink : ∀ location target, fs.lookup false p ≠ .ok (.found location (.link target)))
    {failure : Failure} (h : fs.create p = .error failure) {after : FileSystem}
    (hdiscard : fs.discard p = .ok after) : after = fs := by
  refine (discard_eq_ok hdiscard).resolve_right ?_
  intro hunlink
  obtain ⟨htakes, location, node, hlookup, hnode, -⟩ := unlink_eq_ok.mp hunlink
  cases node with
  | directory => contradiction
  | link target => exact hlink location target hlookup
  | file number content =>
    rw [← hp.lookup_true hlink] at hlookup
    have hmade := create_eq_ok.mpr ⟨htakes, .inl ⟨_, _, _, hlookup, rfl⟩⟩
    simp [h] at hmade

theorem get?_overwrite_empty {location : Location} {number : Nat}
    (h : fs.get? location = some (.file number [])) (bytes : Bytes) :
    (fs.overwrite number bytes).get? location = some (.file number bytes) := by
  rw [overwrite, get?_edit, h]
  simp [Node.edited]

/-- A file system takes the path and finds what is at the location by it, be it a link. -/
structure Designates (fs : FileSystem) (p : Path) (location : Location) : Prop where
  takes : nameFailure? p.text = none
  lookup : fs.lookup false p = .ok (fs.placeAt location)

theorem isFileAt_eq_true {location : Location} {node : Node} :
    fs.isFileAt location node = true ↔
      (∃ number content, node = .file number content) ∧ fs.get? location = some node := by
  cases node <;> simp [isFileAt]

/-- What is moved is found at its new place, and elsewhere nothing changes. -/
theorem replace_spec {p target : Path} {place goal : Location} {node old : Node}
    (hp : fs.Designates p place) (hnode : fs.get? place = some node)
    (htarget : fs.Designates target goal) (hgoal : fs.get? goal = some old)
    (hold : old ≠ .directory) :
    ∃ after, fs.replace p target = .ok after ∧ after.current = fs.current ∧
      after.get? goal = some node ∧
      ∀ location, location ≠ place → location ≠ goal → after.get? location = fs.get? location := by
  have hreplaceable : fs.replaceable target = .ok goal := by
    unfold replaceable
    rw [htarget.lookup, placeAt, hgoal]
    cases old with
    | directory => contradiction
    | file number content => rfl
    | link target => rfl
  have hreplace : fs.replace p target =
      .ok (if place = goal ∨ fs.isFileAt goal node then fs else (fs.erase place).put goal node) := by
    unfold replace taking
    rw [hp.takes, htarget.takes, hp.lookup, placeAt, hnode, hreplaceable]
  refine ⟨_, hreplace, ?_⟩
  by_cases hsame : place = goal ∨ fs.isFileAt goal node = true
  · rw [if_pos hsame]
    refine ⟨rfl, ?_, fun _ _ _ => rfl⟩
    rcases hsame with rfl | hfile
    · exact hnode
    · exact (isFileAt_eq_true.mp hfile).2
  · have hroot : goal ≠ [] := by
      rintro rfl
      rw [get?, if_pos rfl, Option.some.injEq] at hgoal
      exact hold hgoal.symm
    rw [if_neg hsame]
    refine ⟨rfl, get?_put_same _ _ hroot, ?_⟩
    intro location hplace hother
    rw [get?_put_other _ _ hother, get?_erase_other _ hplace]

end FileSystem

namespace AtomicWrite

open FileSystem

variable {fs : FileSystem} {p temporary : Path} {text : Text}

/-- The temporary file is beside the file. -/
theorem temporary?_eq_some (h : temporary? p = some temporary) :
    ∃ name, temporary = ⟨p.anchor, p.names.dropLast ++ [name]⟩ := by
  unfold temporary? Path.withSuffix? at h
  split at h
  · contradiction
  · cases h
    exact ⟨_, rfl⟩

/-- The steps of a write whose temporary file cannot be made. -/
theorem writeText_eq_error {failure : FileSystem.Failure}
    (htemporary : temporary? p = some temporary) (hcreate : fs.create temporary = .error failure)
    (hdiscard : ∀ after, fs.discard temporary = .ok after → after = fs) :
    ∃ cause, writeText fs p text = (fs, .error cause) := by
  cases hremoved : fs.discard temporary with
  | error e =>
    refine ⟨.file e, ?_⟩
    simp [writeText, start?, htemporary, Write.run, Write.advance, hcreate, hremoved,
      Write.failure?]
  | ok after =>
    refine ⟨.file failure, ?_⟩
    simp [writeText, start?, htemporary, Write.run, Write.advance, hcreate, hremoved,
      hdiscard after hremoved, Write.failure?]

/-- The steps of a write that nothing hinders. -/
theorem writeText_eq_ok {opened after : FileSystem} {number : Nat} {bytes : Bytes}
    (htemporary : temporary? p = some temporary)
    (hcreate : fs.create temporary = .ok (opened, number)) (hbytes : Utf8.encode text = .ok bytes)
    (hreplace : (opened.overwrite number bytes).replace temporary p = .ok after) :
    writeText fs p text = (after, .ok ()) := by
  simp [writeText, start?, htemporary, Write.run, Write.advance, hcreate, hbytes, hreplace,
    Write.failure?]

/-- The write of a text to a file beside whose name no link has the name of the temporary file. If
the temporary file can be made, the file holds the text, and otherwise nothing has changed. -/
theorem writeText_spec {location : Location} {number : Nat} {content bytes : Bytes}
    (htakes : nameFailure? p.text = none)
    (hfile : fs.lookup true p = .ok (.found location (.file number content)))
    (hbytes : Utf8.encode text = .ok bytes) (htemporary : temporary? p = some temporary)
    (hlink : ∀ place target, fs.lookup false temporary ≠ .ok (.found place (.link target))) :
    (∃ failure cause, fs.create temporary = .error failure ∧
      writeText fs p text = (fs, .error cause)) ∨
    ∃ made after, fs.create temporary = .ok made ∧ writeText fs p text = (after, .ok ()) ∧
      after.read p = .ok bytes := by
  obtain ⟨hlong, left, directory, name, hp, hname, hpass, node, hget, hnode⟩ :=
    exists_namedIn_of_file hfile
  obtain ⟨beside, rfl⟩ := temporary?_eq_some htemporary
  have hbeside := hp.beside beside
  cases hcreate : fs.create ⟨p.anchor, p.names.dropLast ++ [beside]⟩ with
  | error failure =>
    obtain ⟨cause, hcause⟩ := writeText_eq_error htemporary hcreate
      fun after => discard_of_create_error hbeside hlink hcreate
    exact .inl ⟨failure, cause, rfl, hcause⟩
  | ok made =>
    obtain ⟨opened, number⟩ := made
    obtain ⟨htakes', hlong', hname', hopened, hempty⟩ := create_spec hbeside hlink hcreate
    have hwritten := get?_overwrite_empty hempty bytes
    have hextends : fs.Extends (opened.overwrite number bytes) := hopened.trans (.edit _ _ _)
    have hp' := hextends.namedIn hp
    obtain ⟨old, hold, hold'⟩ := hextends.not_directory hget hnode
    obtain ⟨after, hreplace, hcurrent, hgoal, hkeeps⟩ := replace_spec
      ⟨htakes', (hextends.namedIn hbeside).lookup_of_isEntry hlong' hname'⟩ hwritten
      ⟨htakes, hp'.lookup_of_isEntry hlong hname⟩ hold hold'
    refine .inr ⟨_, after, rfl, writeText_eq_ok htemporary hcreate hbytes hreplace, ?_⟩
    -- The way to the directory goes through neither name: a file is at one of them, and what was
    -- at the other led to a file.
    have hafter : NamedIn after p left directory name := by
      refine hp.frame (hcurrent.trans hextends.current) ?_
      intro location hlocation
      have hkept := hextends.passable hlocation
      rw [← hkept]
      apply hkeeps
      · rintro rfl
        exact hlocation.not_file number bytes (hkept ▸ hwritten)
      · rintro rfl
        exact hpass hlocation
    exact hafter.read_eq htakes hlong hname hgoal

end AtomicWrite
end GameArchive
