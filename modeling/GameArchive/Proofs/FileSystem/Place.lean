import GameArchive.Proofs.FileSystem.Finish
import GameArchive.Proofs.FileSystem.Kind

/-!
# Changes at one place

Making a directory, removing a file and writing a file next to which nothing has the temporary name
change a file system at one place only. As long as no way leads through this place, all ways stay,
and a tree stays one.
-/

namespace GameArchive

theorem Text.exists_join_concat (separator : Text) {before : List Text} (hne : before ≠ [])
    (last : Text) :
    ∃ ending, Text.join separator (before ++ [last]) = Text.join separator before ++ ending := by
  induction before with
  | nil => contradiction
  | cons first before ih =>
    cases before with
    | nil => exact ⟨separator ++ last, by simp [Text.join]⟩
    | cons second before =>
      obtain ⟨ending, hending⟩ := ih (by simp)
      refine ⟨ending, ?_⟩
      simp only [List.cons_append] at hending
      simp [Text.join, hending]

/-- Behind the text of a path is what leads on to a child. -/
theorem Path.exists_text_child {p : Path} (hne : p.names ≠ []) (name : Text) :
    ∃ ending, (p.child name).text = p.text ++ ending := by
  obtain ⟨ending, hending⟩ := Text.exists_join_concat (Text.ofString "/") hne name
  refine ⟨ending, ?_⟩
  rw [Path.text, Path.text, if_neg (by simp [Path.child]), if_neg (by simp [hne])]
  simp only [Path.child]
  rw [hending, List.append_assoc]

namespace FileSystem

variable {fs after : FileSystem} {p : Path} {follow : Bool} {place directory : Location}
  {name : Text} {node : Option Node} {left : Nat}

/-! ## Paths and their children -/

theorem cases_of_nameFailure? {t : Text} {failure : Failure} (h : nameFailure? t = some failure) :
    failure = .embeddedNull ∨ ∃ fault, failure = .encode fault := by
  unfold nameFailure? at h
  split at h
  · cases h
    exact .inr ⟨_, rfl⟩
  · split at h
    · cases h
      exact .inl rfl
    · cases h

/-- A name that is longer than two dots is neither one dot nor two. -/
theorem isProper_of_length (h : 2 < name.length) (hname : Utf8.entryName name = name) :
    IsProper name := by
  refine ⟨?_, decide_eq_false ?_, decide_eq_false ?_, hname⟩ <;> rintro rfl <;> contradiction

theorem isLongPath_of_nil (h : p.names = []) : isLongPath p = false := by
  obtain ⟨anchor, names⟩ := p
  subst h
  cases anchor <;> decide

theorem isLongPath_child (name : Text) (h : isLongPath p = true) :
    isLongPath (p.child name) = true := by
  rcases eq_or_ne p.names [] with hnil | hne
  · rw [isLongPath_of_nil hnil] at h
    contradiction
  · obtain ⟨ending, htext⟩ := Path.exists_text_child hne name
    simp only [isLongPath, decide_eq_true_eq, htext] at h ⊢
    exact Nat.lt_of_lt_of_le h (length_encodeName_le _ _)

/-- Nothing is at the path, not even a link that leads nowhere. -/
def IsAbsent (fs : FileSystem) (p : Path) : Prop :=
  ∀ place node, fs.lookup false p ≠ .ok (.found place node)

theorem lookup_child_of_free (h : fs.lookup false p = .ok (.free place)) (follow : Bool)
    (name : Text) :
    fs.lookup follow (p.child name) =
      .error (if isLongPath (p.child name) then .nameTooLong else .noEntry) := by
  unfold lookup at h ⊢
  split at h
  · contradiction
  split
  · rfl
  obtain hnil | ⟨before, last, hnames⟩ := p.entryNames.eq_nil_or_concat
  · rw [hnil, followLinks_nil] at h
    cases h
  rw [List.concat_eq_append] at hnames
  rw [hnames] at h
  obtain ⟨n, left, middle, hlinks, hleads, hlast⟩ := exists_leads h
  have hchild : (p.child name).entryNames = before ++ [last, Utf8.entryName name] := by
    simp [Path.entryNames_child, hnames]
  have hstart : fs.startOf (p.child name) = fs.startOf p := rfl
  rw [hchild, hlinks, hstart, hleads.followLinks_append (.inr (by simp)), followLinks_cons]
  rw [followLinks_last] at hlast
  have hentry := isEntry_of_lastPlace hlast (by simp)
  rw [lastPlace_of_isEntry hentry, Except.ok.injEq, placeAt_eq_free] at hlast
  simp [hentry.not_up, hentry.not_here, hentry.not_long, hlast.2]

theorem lookup_child_of_error {e : Errno} (h : fs.lookup false p = .error e) (follow : Bool)
    (name : Text) :
    fs.lookup follow (p.child name) =
      .error (if isLongPath (p.child name) then .nameTooLong else e) := by
  unfold lookup at h ⊢
  split at h
  · next hlong => rw [if_pos (isLongPath_child name hlong), if_pos (isLongPath_child name hlong)]
  · have hstart : fs.startOf (p.child name) = fs.startOf p := rfl
    split
    · rfl
    · rw [hstart, Path.entryNames_child]
      exact followLinks_append_error h follow [Utf8.entryName name]

/-- Where nothing is at a path, nothing is behind it. -/
theorem IsAbsent.child (h : fs.IsAbsent p) (name : Text) : fs.IsAbsent (p.child name) := by
  intro place node
  cases hlookup : fs.lookup false p with
  | error e => simp [lookup_child_of_error hlookup]
  | ok found =>
    cases found with
    | free location => simp [lookup_child_of_free hlookup]
    | found location other => exact absurd hlookup (h location other)

/-! ## Ways to directories -/

/-- Names by which a directory is found lead to it. -/
theorem exists_leads_of_directory {links : Nat} {names : List Text}
    (h : followLinks fs follow links directory names = .ok (.found place .directory)) :
    ∃ n left, links = n + left ∧ Leads fs n directory names place := by
  induction links using Nat.strongRecOn generalizing directory names with
  | ind links ihLinks =>
    induction names generalizing directory with
    | nil =>
      rw [followLinks_nil] at h
      cases h
      exact ⟨0, links, (Nat.zero_add links).symm, .stay⟩
    | cons name rest ih =>
      rw [followLinks_cons] at h
      split at h
      · next hup =>
        obtain ⟨n, left, hlinks, hleads⟩ := ih h
        exact ⟨n, left, hlinks, .up hup hleads⟩
      split at h
      · next hup hhere =>
        obtain ⟨n, left, hlinks, hleads⟩ := ih h
        exact ⟨n, left, hlinks, .here (Bool.eq_false_iff.mpr hup) hhere hleads⟩
      split at h
      · contradiction
      next hup hhere hlong =>
      have hname : IsEntry name := ⟨Bool.eq_false_iff.mpr hup, Bool.eq_false_iff.mpr hhere,
        Bool.eq_false_iff.mpr hlong⟩
      cases hget : fs.get? (directory ++ [name]) with
      | none =>
        rw [hget] at h
        dsimp only at h
        split at h <;> cases h
      | some node =>
        rw [hget] at h
        cases node with
        | directory =>
          obtain ⟨n, left, hlinks, hleads⟩ := ih h
          exact ⟨n, left, hlinks, .enter hname hget hleads⟩
        | file number content =>
          dsimp only at h
          split at h <;> cases h
        | link target =>
          dsimp only at h
          split at h
          · cases h
          cases links with
          | zero => contradiction
          | succ links =>
            obtain ⟨n, left, hlinks, hleads⟩ := ihLinks links (Nat.lt_succ_self links) h
            exact ⟨n + 1, left, by omega, .link hname hget hleads⟩

/-- A name behind the path of a directory is looked up in this directory. -/
theorem exists_namedIn_child (h : fs.lookup follow p = .ok (.found directory .directory))
    (name : Text) : ∃ left, NamedIn fs (p.child name) left directory (Utf8.entryName name) := by
  unfold lookup at h
  split at h
  · contradiction
  · obtain ⟨n, left, hlinks, hleads⟩ := exists_leads_of_directory h
    exact ⟨left, n, p.entryNames, Path.entryNames_child p name, hlinks, hleads⟩

theorem Leads.get?_directory {n : Nat} {names : List Text} (h : Leads fs n directory names place)
    (htree : fs.IsTree) (hget : fs.get? directory = some .directory) :
    fs.get? place = some .directory := by
  induction h with
  | stay => exact hget
  | up _ _ ih => exact ih (htree.dropLast hget)
  | here _ _ _ ih => exact ih hget
  | enter _ hname _ ih => exact ih hname
  | link _ _ _ ih => exact ih (htree.linkStart hget _)

theorem NamedIn.get?_directory (h : NamedIn fs p left directory name) (htree : fs.IsTree) :
    fs.get? directory = some .directory := by
  obtain ⟨n, before, -, -, hleads⟩ := h
  exact hleads.get?_directory htree (htree.startOf p)

/-- A proper name in a directory is looked up unless it or the path is too long. -/
theorem NamedIn.lookup_of_isProper (h : NamedIn fs p left directory name) (hname : IsProper name) :
    fs.lookup false p = if isLongPath p = true ∨ isLongName name = true then .error .nameTooLong
      else .ok (fs.placeAt (directory ++ [name])) := by
  rw [h.lookup_false, lastPlace, hname.not_up, hname.not_here]
  cases isLongPath p <;> cases isLongName name <;> rfl

theorem NamedIn.isAbsent (h : NamedIn fs p left directory name) (hname : IsProper name)
    (hfree : fs.get? (directory ++ [name]) = none) : fs.IsAbsent p := by
  intro place node hlookup
  rw [h.lookup_of_isProper hname, placeAt, hfree] at hlookup
  split at hlookup <;> cases hlookup

/-! ## Changes at a place -/

/-- A tree whose files have numbers. -/
structure IsSound (fs : FileSystem) : Prop where
  tree : fs.IsTree
  numbered : fs.IsNumbered

/-- At a place is another node than before, or none, and nothing else has changed. -/
structure ChangedAt (fs after : FileSystem) (place : Location) (node : Option Node) : Prop where
  current : after.current = fs.current
  made : fs.made ≤ after.made
  at_place : after.get? place = node
  elsewhere : ∀ location, location ≠ place → after.get? location = fs.get? location

/-- A file is at the place, if anything. -/
def IsLeaf (fs : FileSystem) (place : Location) : Prop :=
  ∀ node, fs.get? place = some node → ∃ number content, node = .file number content

theorem isLeaf_of_none (h : fs.get? place = none) : fs.IsLeaf place := by
  simp [IsLeaf, h]

/-- The file with the number is at no other place. -/
def IsAlone (fs : FileSystem) (place : Location) (number : Nat) : Prop :=
  ∀ location content, location ≠ place → fs.get? location ≠ some (.file number content)

/-- A number that has not been given out is the number of no file. -/
theorem isAlone_made (hnumbered : fs.IsNumbered) (place : Location) : fs.IsAlone place fs.made :=
  fun _ _ _ hget => Nat.lt_irrefl _ (hnumbered _ _ _ hget)

theorem IsLeaf.not_passable (h : fs.IsLeaf place) : ¬Passable fs place := by
  intro hpass
  obtain ⟨node, hget⟩ := hpass.exists_node
  obtain ⟨number, content, rfl⟩ := h node hget
  exact hpass.not_file number content hget

namespace ChangedAt

theorem put (fs : FileSystem) (hplace : place ≠ []) (node : Node) :
    fs.ChangedAt (fs.put place node) place (some node) :=
  ⟨rfl, Nat.le_refl _, get?_put_same fs node hplace, fun _ => get?_put_other fs node⟩

theorem erase (fs : FileSystem) (hplace : place ≠ []) : fs.ChangedAt (fs.erase place) place none :=
  ⟨rfl, Nat.le_refl _, get?_erase_same fs hplace, fun _ => get?_erase_other fs⟩

/-- A file that was not under another name is not there now. -/
theorem not_isFileAt (h : fs.ChangedAt after place node) {number : Nat}
    (halone : fs.IsAlone place number) {location : Location} (hne : location ≠ place)
    (content : Bytes) : after.isFileAt location (.file number content) = false := by
  rw [Bool.eq_false_iff]
  intro hfile
  have hget := (isFileAt_eq_true.mp hfile).2
  rw [h.elsewhere _ hne] at hget
  exact halone location content hne hget

theorem namedIn (h : fs.ChangedAt after place node) (hleaf : fs.IsLeaf place)
    (hp : NamedIn fs p left directory name) : NamedIn after p left directory name := by
  refine hp.frame h.current fun location hpass => h.elsewhere location ?_
  rintro rfl
  exact hleaf.not_passable hpass

/-- A directory is still found where it was. -/
theorem lookup_directory (h : fs.ChangedAt after place node) (hleaf : fs.IsLeaf place)
    (hlookup : fs.lookup follow p = .ok (.found directory .directory)) :
    after.lookup follow p = .ok (.found directory .directory) := by
  refine lookup_frame h.current (fun location other hget hfile => ?_) hlookup
  rw [h.elsewhere location, hget]
  rintro rfl
  obtain ⟨number, content, rfl⟩ := hleaf other hget
  cases hfile number content rfl

/-- A sound file system stays sound if what is put in a directory has a proper name and, if it is a
file, a number that has been given out. -/
theorem isSound (h : fs.ChangedAt after (directory ++ [name]) node) (hsound : fs.IsSound)
    (hdirectory : fs.get? directory = some .directory) (hname : IsProper name)
    (hleaf : fs.IsLeaf (directory ++ [name]))
    (hnode : ∀ number content, node = some (.file number content) → number < after.made) :
    after.IsSound := by
  have hstays : ∀ location, fs.get? location = some .directory →
      after.get? location = some .directory := by
    intro location hget
    rw [h.elsewhere location, hget]
    rintro rfl
    obtain ⟨number, content, heq⟩ := hleaf _ hget
    cases heq
  refine ⟨⟨fun location other found hget => ?_, fun location other found hget => ?_, ?_⟩, ?_⟩
  · apply hstays
    by_cases hplace : location ++ [other] = directory ++ [name]
    · rw [(List.append_inj' hplace rfl).1, hdirectory]
    · rw [h.elsewhere _ hplace] at hget
      exact hsound.tree.above _ _ _ hget
  · by_cases hplace : location ++ [other] = directory ++ [name]
    · obtain rfl : other = name := by simpa using (List.append_inj' hplace rfl).2
      exact hname
    · rw [h.elsewhere _ hplace] at hget
      exact hsound.tree.named _ _ _ hget
  · rw [h.current]
    exact hstays _ hsound.tree.current
  · intro location number content hget
    by_cases hplace : location = directory ++ [name]
    · rw [hplace, h.at_place] at hget
      exact hnode number content hget
    · rw [h.elsewhere _ hplace] at hget
      exact Nat.lt_of_lt_of_le (hsound.numbered _ _ _ hget) h.made

end ChangedAt

/-! ## Contents that change -/

theorem isSound_edit (h : fs.IsSound) (number : Nat) (change : Bytes → Bytes) :
    (fs.edit number change).IsSound := by
  have hdirectory : ∀ location, fs.get? location = some .directory →
      (fs.edit number change).get? location = some .directory := by
    intro location hget
    rw [get?_edit, hget]
    rfl
  refine ⟨⟨fun location name node hget => ?_, fun location name node hget => ?_, ?_⟩,
    isNumbered_edit h.numbered number change⟩
  · rw [get?_edit, Option.map_eq_some_iff] at hget
    obtain ⟨old, hold, -⟩ := hget
    exact hdirectory _ (h.tree.above _ _ _ hold)
  · rw [get?_edit, Option.map_eq_some_iff] at hget
    obtain ⟨old, hold, -⟩ := hget
    exact h.tree.named _ _ _ hold
  · exact hdirectory _ h.tree.current

/-- A change to the content of other files changes nothing at a place. -/
theorem get?_edit_of_apart (fs : FileSystem) (number : Nat) (change : Bytes → Bytes)
    (h : ∀ content, fs.get? place ≠ some (.file number content)) :
    (fs.edit number change).get? place = fs.get? place := by
  rw [get?_edit]
  cases hget : fs.get? place with
  | none => rfl
  | some node =>
    cases node with
    | file n content =>
      have hn : n ≠ number := by
        rintro rfl
        exact h content hget
      simp [Node.edited, hn]
    | _ => rfl

end FileSystem

namespace AtomicWrite

open FileSystem

variable {fs opened after : FileSystem} {p temporary : Path} {directory : Location}
  {name other text : Text} {left number : Nat} {content : Bytes}

/-! ## Writes -/

theorem temporary?_child (p : Path) (hname : name ≠ []) :
    temporary? (p.child name) = some (p.child (name ++ Text.ofString ".tmp")) := by
  have hlast : (p.child name).name = name := by simp [Path.name, Path.child]
  rw [temporary?, Path.withSuffix?, if_neg (by rwa [hlast]), ← List.append_assoc, Path.stem,
    Path.suffix, cutName_append, hlast]
  simp [Path.child]

/-- If no other file has its number, the open temporary file is all that has changed. -/
theorem IsOpen.changedAt_of_isAlone
    (h : IsOpen fs opened temporary left directory other number content)
    (halone : fs.IsAlone (directory ++ [other]) number) :
    fs.ChangedAt opened (directory ++ [other]) (some (.file number content)) := by
  refine ⟨h.wrote.current, h.wrote.made, h.wrote.file, fun location hne => ?_⟩
  obtain ⟨change, hchange⟩ := h.wrote.elsewhere
  rw [hchange location hne, ← get?_edit]
  exact get?_edit_of_apart fs number change fun bytes => halone location bytes hne

/-- If nothing was at the temporary name, an open temporary file is the only thing that is new. -/
theorem IsOpen.changedAt (h : IsOpen fs opened temporary left directory other number content)
    (hnumbered : fs.IsNumbered) (hfree : fs.get? (directory ++ [other]) = none) :
    number = fs.made ∧ fs.made < opened.made ∧
      fs.ChangedAt opened (directory ++ [other]) (some (.file number content)) := by
  obtain ⟨-, hnumber, hmade⟩ | ⟨old, hold⟩ := h.wrote.before
  · exact ⟨hnumber, hmade, h.changedAt_of_isAlone (hnumber ▸ isAlone_made hnumbered _)⟩
  · simp [hfree] at hold

/-- Without it everything is as before. -/
theorem IsOpen.changedAt_erase (h : IsOpen fs opened temporary left directory other number content)
    (hnumbered : fs.IsNumbered) (hfree : fs.get? (directory ++ [other]) = none) (place : Location) :
    fs.ChangedAt (opened.erase (directory ++ [other])) place (fs.get? place) := by
  obtain ⟨-, -, hopened⟩ := h.changedAt hnumbered hfree
  have herased : opened.ChangedAt (opened.erase (directory ++ [other]))
      (directory ++ [other]) none := .erase opened (by simp)
  have hsame : ∀ location,
      (opened.erase (directory ++ [other])).get? location = fs.get? location := by
    intro location
    by_cases hlocation : location = directory ++ [other]
    · rw [hlocation, herased.at_place, hfree]
    · rw [herased.elsewhere _ hlocation, hopened.elsewhere _ hlocation]
  exact ⟨hopened.current, hopened.made, hsame place, fun location _ => hsame location⟩

/-- Once it has been moved, all that is new is a file in its place. -/
theorem IsOpen.changedAt_replace {bytes : Bytes}
    (h : IsOpen fs opened temporary left directory other number bytes)
    (hp : NamedIn fs p left directory name) (hne : other ≠ name) (hnumbered : fs.IsNumbered)
    (hfree : fs.get? (directory ++ [other]) = none)
    (hreplace : opened.replace temporary p = .ok after) :
    nameFailure? p.text = none ∧ isLongPath p = false ∧ IsEntry name ∧ fs.made < after.made ∧
      fs.ChangedAt after (directory ++ [name]) (some (.file fs.made bytes)) := by
  obtain ⟨rfl, hmade, hchanged⟩ := h.changedAt hnumbered hfree
  have hplaces : directory ++ [name] ≠ directory ++ [other] := by simpa using hne.symm
  obtain ⟨htakes, hlong, hname, -, hmoved⟩ := h.moved hp hne
    (fun _ _ => hchanged.not_isFileAt (isAlone_made hnumbered _) hplaces bytes) hreplace
  refine ⟨htakes, hlong, hname, hmoved.made ▸ hmade, hmoved.current.trans hchanged.current,
    hmoved.made ▸ hchanged.made, hmoved.at_goal, ?_⟩
  intro location hlocation
  by_cases hother : location = directory ++ [other]
  · rw [hother, hmoved.at_place, hfree]
  · rw [hmoved.elsewhere _ hother hlocation]
    exact hchanged.elsewhere _ hother

/-- A write of a file finds its way clear where nothing is at the temporary name. -/
theorem isClear_of_leaf (hnumbered : fs.IsNumbered) (hp : NamedIn fs p left directory name)
    (hname : IsProper name) (hleaf : fs.IsLeaf (directory ++ [name]))
    (htemporary : NamedIn fs temporary left directory other) (hother : IsProper other)
    (hfree : fs.get? (directory ++ [other]) = none) : IsClear fs p temporary where
  numbered := hnumbered
  link place target := htemporary.isAbsent hother hfree place (.link target)
  apart number hat := by
    obtain ⟨place, content, hlookup⟩ := hat
    exact absurd hlookup (htemporary.isAbsent hother hfree place _)
  leads place node hlookup := by
    have hfound := hlookup
    rw [hp.lookup_of_isProper hname] at hfound
    split at hfound
    · contradiction
    rw [Except.ok.injEq, placeAt_eq_found] at hfound
    obtain ⟨number, content, rfl⟩ := hleaf node hfound.2
    refine ⟨number, place, content, ?_⟩
    rw [hp.lookup_true (by simp [hlookup]), hlookup]

/-- What a write of a file changes when nothing is at its temporary name: nothing if it fails, and
otherwise there is a new file with the bytes. -/
theorem writeText_changes (hnumbered : fs.IsNumbered) (htemporary : temporary? p = some temporary)
    (hp : NamedIn fs p left directory name) (hname : IsProper name)
    (hleaf : fs.IsLeaf (directory ++ [name]))
    (hfree : fs.get? (directory ++ [name ++ Text.ofString ".tmp"]) = none) (text : Text) :
    (∃ after failure, writeText fs p text = (after, .error failure) ∧
      fs.ChangedAt after (directory ++ [name]) (fs.get? (directory ++ [name]))) ∨
    ∃ after bytes, writeText fs p text = (after, .ok ()) ∧ Utf8.encode text = .ok bytes ∧
      nameFailure? p.text = none ∧ isLongPath p = false ∧ IsEntry name ∧ fs.made < after.made ∧
      fs.ChangedAt after (directory ++ [name]) (some (.file fs.made bytes)) := by
  obtain ⟨hanchor, before, last, hpnames, hnames⟩ := entryNames_of_temporary? htemporary
  obtain rfl : last = name := by
    obtain ⟨_, _, hother, -⟩ := id hp
    simpa using (List.append_inj' (hpnames.symm.trans hother) rfl).2
  have hnamed := hp.of_entryNames hanchor hpnames hnames
  have hlength : 2 < (last ++ Text.ofString ".tmp").length := by simp [Text.ofString]
  have hspelled : Utf8.entryName (last ++ Text.ofString ".tmp") = last ++ Text.ofString ".tmp" := by
    rw [entryName_ending, hname.entryName_eq]
  have hclear := isClear_of_leaf hnumbered hp hname hleaf hnamed
    (isProper_of_length hlength hspelled) hfree
  cases hcreate : fs.create temporary with
  | error e =>
    obtain ⟨failure, hwrite⟩ := writeText_eq_error htemporary hcreate fun after hdiscard =>
      discard_of_create_error hnamed hclear.link hcreate hdiscard
    exact .inl ⟨fs, failure, hwrite, rfl, Nat.le_refl _, rfl, fun _ _ => rfl⟩
  | ok made =>
  obtain ⟨opened, number⟩ := made
  obtain ⟨htakes, hlong, hentry, hwrote⟩ := wrote_of_create hnamed hclear.link hcreate
  have hopen : IsOpen fs opened temporary left directory _ number [] :=
    ⟨hnamed, hlong, hentry, hwrote⟩
  cases hbytes : Utf8.encode text with
  | error fault =>
    have hwrite := writeText_eq_undone htemporary hcreate
      (.inl ⟨fault, hbytes, rfl, hopen.discard_eq htakes⟩)
    exact .inl ⟨_, _, hwrite, hopen.changedAt_erase hnumbered hfree _⟩
  | ok bytes =>
  have hwritten := hopen.edit fun content => bytes ++ content.drop bytes.length
  rw [List.drop_nil, List.append_nil] at hwritten
  cases hreplace : (opened.overwrite number bytes).replace temporary p with
  | error e =>
    have hwrite := writeText_eq_undone htemporary hcreate
      (.inr ⟨bytes, e, hbytes, rfl, hreplace, hwritten.discard_eq htakes⟩)
    exact .inl ⟨_, _, hwrite, hwritten.changedAt_erase hnumbered hfree _⟩
  | ok after =>
    obtain ⟨htakesPath, hlongPath, hlast, hmade, hchanged⟩ :=
      hwritten.changedAt_replace hp (by simp [Text.ofString]) hnumbered hfree hreplace
    exact .inr ⟨after, bytes, writeText_eq_ok htemporary hcreate hbytes hreplace, rfl, htakesPath,
      hlongPath, hlast, hmade, hchanged⟩

end AtomicWrite
end GameArchive
