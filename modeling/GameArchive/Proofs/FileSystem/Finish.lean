import GameArchive.Proofs.FileSystem.Write

/-!
# Writes that succeed

The name of the temporary file is longer than that of the file beside it, so the system that takes
the one takes the other too. Once the temporary file is made and the text can be encoded, nothing
is in the way of a write that finds its way clear.
-/

namespace GameArchive

/-! ## Longer texts -/

theorem Text.join_concat_append (separator : Text) (before : List Text) (last ending : Text) :
    Text.join separator (before ++ [last ++ ending]) =
      Text.join separator (before ++ [last]) ++ ending := by
  induction before with
  | nil => rfl
  | cons first before ih =>
    cases before with
    | nil => simp [Text.join]
    | cons second before =>
      simp only [List.cons_append] at ih
      simp [Text.join, ih]

theorem Path.text_append (anchor : Anchor) (before : List Text) (name ending : Text) :
    Path.text ⟨anchor, before ++ [name ++ ending]⟩ =
      Path.text ⟨anchor, before ++ [name]⟩ ++ ending := by
  have hne (last : Text) : ¬(anchor = .relative ∧ before ++ [last] = []) := by simp
  rw [Path.text, Path.text, if_neg (hne _), if_neg (hne _), Text.join_concat_append,
    List.append_assoc]

namespace FileSystem

theorem nameFailure?_eq_none {t : Text} :
    nameFailure? t = none ↔ Utf8.nameFault? t = none ∧ 0 ∉ Utf8.encodeName t := by
  rw [nameFailure?, Utf8.zero_mem_encodeName]
  split
  · next hfault => simp [hfault]
  · next hfault => simp [hfault]

/-- The beginning of a name that is taken is taken. -/
theorem nameFailure?_of_append {s t : Text} (h : nameFailure? (s ++ t) = none) :
    nameFailure? s = none := by
  obtain ⟨hfault, hnull⟩ := nameFailure?_eq_none.mp h
  rw [Utf8.encodeName_append, List.mem_append, not_or] at hnull
  exact nameFailure?_eq_none.mpr ⟨(Utf8.nameFault?_append.mp hfault).1, hnull.1⟩

theorem length_encodeName_le (s t : Text) :
    (Utf8.encodeName s).length ≤ (Utf8.encodeName (s ++ t)).length := by
  simp [Utf8.encodeName]

theorem isLongName_of_append {s t : Text} (h : isLongName (s ++ t) = false) :
    isLongName s = false := by
  simp only [isLongName, decide_eq_false_iff_not] at h ⊢
  exact fun hs => h (Nat.lt_of_lt_of_le hs (length_encodeName_le s t))

end FileSystem

namespace AtomicWrite

open FileSystem

variable {fs opened : FileSystem} {p temporary : Path} {text : Text}

/-- No directory is at a path at which nothing but a file can be. -/
theorem IsReplaceable.not_directory (h : IsReplaceable fs p temporary) (place : Location) :
    fs.lookup false p ≠ .ok (.found place .directory) := by
  intro hfound
  obtain ⟨number, location, content, hfile⟩ := h.leads _ _ hfound
  rw [lookup_true_of_directory hfound] at hfile
  simp at hfile

/-- A path at which no directory is leads to none by its last name. -/
theorem isEntry_of_not_directory {left : Nat} {directory : Location} {name : Text}
    (hnot : ∀ place, fs.lookup false p ≠ .ok (.found place .directory))
    (hp : NamedIn fs p left directory name) (hlong : isLongPath p = false)
    (hname : isLongName name = false) :
    IsEntry name ∧ fs.get? (directory ++ [name]) ≠ some .directory := by
  have hlast : fs.lookup false p = lastPlace fs directory name := by
    rw [hp.lookup_false, hlong, if_neg Bool.false_ne_true]
  have hup : isUp name = false := Bool.eq_false_iff.mpr fun hup =>
    hnot directory.dropLast (by rw [hlast, lastPlace, if_pos hup])
  have hhere : isHere name = false := Bool.eq_false_iff.mpr fun hhere =>
    hnot directory (by rw [hlast, lastPlace, if_neg (by simp [hup]), if_pos hhere])
  have hentry : IsEntry name := ⟨hup, hhere, hname⟩
  refine ⟨hentry, fun hget => hnot (directory ++ [name]) ?_⟩
  rw [hlast, lastPlace_of_isEntry hentry, placeAt, hget]

/-- Something can be put at the path while the temporary file is open. -/
theorem IsOpen.replaceable_eq {left number : Nat} {directory : Location} {name other : Text}
    {content : Bytes} (h : IsOpen fs opened temporary left directory other number content)
    (hp : NamedIn fs p left directory name) (hlong : isLongPath p = false) (hname : IsEntry name)
    (hget : fs.get? (directory ++ [name]) ≠ some .directory) (hne : name ≠ other) :
    opened.replaceable p = .ok (directory ++ [name]) := by
  have hlookup := (hp.frame h.wrote.current fun _ hpass => h.keeps hpass).lookup_of_isEntry
    hlong hname
  obtain ⟨change, hchange⟩ := h.wrote.elsewhere
  have hopened := hchange (directory ++ [name]) (by simpa using hne)
  rw [placeAt, hopened] at hlookup
  cases hold : fs.get? (directory ++ [name]) with
  | none =>
    rw [hold] at hlookup
    exact replaceable_eq_ok.mpr (.inr hlookup)
  | some node =>
    rw [hold] at hlookup
    refine replaceable_eq_ok.mpr (.inl ⟨_, hlookup, ?_⟩)
    cases node with
    | directory => exact absurd hold hget
    | file | link => simp [Node.edited]

/-- The file and its temporary file have their names in one directory, and the system takes both
paths. -/
structure Beside (fs : FileSystem) (p temporary : Path) (left : Nat) (directory : Location)
    (name other : Text) : Prop where
  takes : nameFailure? temporary.text = none
  takes_path : nameFailure? p.text = none
  short : isLongPath p = false
  named : NamedIn fs p left directory name
  entry : IsEntry name
  not_directory : fs.get? (directory ++ [name]) ≠ some .directory
  ne : name ≠ other

/-- If the temporary file can be made, it is open beside the file. -/
theorem exists_beside
    (hlink : ∀ place target, fs.lookup false temporary ≠ .ok (.found place (.link target)))
    (hnot : ∀ place, fs.lookup false p ≠ .ok (.found place .directory))
    (htemporary : temporary? p = some temporary) {number : Nat}
    (hcreate : fs.create temporary = .ok (opened, number)) :
    ∃ left directory name other, Beside fs p temporary left directory name other ∧
      IsOpen fs opened temporary left directory other number [] := by
  obtain ⟨before, last, hp, hbeside⟩ := temporary?_spec htemporary
  obtain ⟨hanchor, _, name, hpnames, hnames⟩ := entryNames_of_temporary? htemporary
  obtain ⟨htakes, left, directory, hopen⟩ := exists_isOpen hlink hnames hcreate
  have hpath : NamedIn fs p left directory name :=
    hopen.named.of_entryNames hanchor.symm hnames hpnames
  -- All that the system asks of the path it has asked of the longer one.
  have htext : temporary.text = p.text ++ Text.ofString ".tmp" := by
    rw [hbeside, Path.text_append, ← hp]
  have htakesPath : nameFailure? p.text = none := nameFailure?_of_append (htext ▸ htakes)
  have hlong : isLongPath p = false := by
    have hshort := hopen.short
    simp only [isLongPath, decide_eq_false_iff_not, htext] at hshort ⊢
    exact fun hp => hshort (Nat.lt_of_lt_of_le hp (length_encodeName_le _ _))
  obtain ⟨hname, hget⟩ :=
    isEntry_of_not_directory hnot hpath hlong (isLongName_of_append hopen.entry.not_long)
  exact ⟨left, directory, name, _,
    ⟨htakes, htakesPath, hlong, hpath, hname, hget, ne_ending name⟩, hopen⟩

/-- The open temporary file can be put in place of the file. -/
theorem Beside.exists_replace {left number : Nat} {directory : Location} {name other : Text}
    {content : Bytes} (h : Beside fs p temporary left directory name other)
    (hopen : IsOpen fs opened temporary left directory other number content) :
    ∃ after, opened.replace temporary p = .ok after :=
  ⟨_, replace_eq_ok.mpr ⟨h.takes, h.takes_path, _, _, _, hopen.lookup,
    hopen.replaceable_eq h.named h.short h.entry h.not_directory h.ne, rfl⟩⟩

/-- A write whose file can be replaced and whose temporary file can be made puts the bytes in
place. -/
theorem exists_written (h : IsReplaceable fs p temporary)
    (htemporary : temporary? p = some temporary) {bytes : Bytes}
    (hmade : ∃ made, fs.create temporary = .ok made)
    (hbytes : Utf8.encode text = .ok bytes) :
    ∃ after, writeText fs p text = (after, .ok ()) ∧ Written fs after p temporary bytes := by
  obtain ⟨⟨opened, number⟩, hcreate⟩ := hmade
  obtain ⟨left, directory, name, other, hbeside, hopen⟩ :=
    exists_beside h.link h.not_directory htemporary hcreate
  have hwritten := hopen.edit fun content => bytes ++ content.drop bytes.length
  rw [List.drop_nil, List.append_nil] at hwritten
  obtain ⟨after, hreplace⟩ := hbeside.exists_replace hwritten
  exact ⟨after, writeText_eq_ok htemporary hcreate hbytes hreplace,
    hwritten.written h hbeside.named hbeside.ne.symm hreplace⟩

/-- After a write the next one can be made. -/
theorem Written.exists_create {after : FileSystem} {content : Bytes}
    (h : Written fs after p temporary content) (htemporary : temporary? p = some temporary)
    (htakes : nameFailure? temporary.text = none) : ∃ made, after.create temporary = .ok made := by
  obtain ⟨place, hfree⟩ := h.free
  obtain ⟨-, _, _, -, hnames⟩ := entryNames_of_temporary? htemporary
  obtain ⟨left, directory, hnamed⟩ := exists_namedIn hnames hfree
  have htrue := hnamed.lookup_true (by simp [hfree])
  rw [hfree] at htrue
  exact ⟨_, create_eq_ok.mpr ⟨htakes, .inr ⟨place, htrue, rfl⟩⟩⟩

/-- Where nothing is at either name, the way is clear. -/
theorem IsClear.of_free {fs : FileSystem} {place other : Location} (hnumbered : fs.IsNumbered)
    (hp : fs.lookup false p = .ok (.free place))
    (htemporary : fs.lookup false temporary = .ok (.free other)) : IsClear fs p temporary where
  numbered := hnumbered
  link _ _ h := by simp [htemporary] at h
  apart number h := by
    obtain ⟨place, content, hfound⟩ := h
    simp [htemporary] at hfound
  leads _ _ h := by simp [hp] at h

end AtomicWrite
end GameArchive
