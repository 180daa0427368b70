import GameArchive.Proofs.Package.Runs
import GameArchive.Proofs.Package.Shelf

/-!
# Translations as a map

Each action on a translation does to the directory of the translations what it does to the map for
which the directory stands, and one that fails leaves the map as it was. So after any run the
translations are those that have been saved last and not been removed. Codes with the same bytes are
one code. Only where the system refuses the path of a file is the answer another one than that of a
map.
-/

namespace GameArchive

open Json (Everywhere IsRecoverable)
open Log.Journal (Logs)

namespace Package
namespace Dictionary

open AtomicWrite (temporary?_child)
open FileSystem (IsProper isLongName isLongPath nameFailure?)
open Operation

variable {paths : Paths} {s after : Session} {code : Text} {key : Bytes} {value : Option Json}
  {v : Json} {table : Bytes → Option Json}

/-! ## Sessions that stand for maps -/

/-- The session of an archive at its paths. The file of the log, if there is one, has a number that
has been given out. -/
structure IsLocated (paths : Paths) (s : Session) : Prop where
  known : s.package.paths = some paths
  proper : ∀ name ∈ paths.root.entryNames, IsProper name
  sound : s.files.IsSound
  log : ∀ known number, s.journal.outputs = some known → known.file = some number →
    number < s.files.made

/-- Files may be changed and made. -/
theorem IsLocated.change (h : IsLocated paths s) {files : FileSystem} (hsound : files.IsSound)
    (hmade : s.files.made ≤ files.made) : IsLocated paths { s with files := files } where
  known := h.known
  proper := h.proper
  sound := hsound
  log known number hknown hfile := Nat.lt_of_lt_of_le (h.log known number hknown hfile) hmade

/-- The translations of the archive stand for a map. -/
structure Holds (paths : Paths) (s : Session) (table : Bytes → Option Json) : Prop
    extends IsLocated paths s where
  translations : StandsFor s.journal.outputs s.files paths.lang table

namespace Holds

/-- Lines of the log change nothing. -/
theorem quiet (h : Holds paths s table) (hquiet : Quiet s after) : Holds paths after table := by
  have hfiles : ∀ files, Logs s.journal.outputs s.files files → files.IsSound ∧
      files.made = s.files.made ∧ StandsFor s.journal.outputs files paths.lang table := by
    intro files hlogs
    induction hlogs with
    | none => exact ⟨h.sound, rfl, h.translations⟩
    | more _ hlogged ih =>
      obtain ⟨hsound, hmade, hstands⟩ := ih
      cases hlogged with
      | nothing => exact ⟨hsound, hmade, hstands⟩
      | line bytes hknown hfile =>
        exact ⟨FileSystem.isSound_edit hsound _ _, hmade, hstands.edit hknown hfile _⟩
  obtain ⟨hsound, hmade, hstands⟩ := hfiles after.files hquiet.files
  refine ⟨⟨hquiet.package ▸ h.known, h.proper, hsound, ?_⟩, ?_⟩
  · rw [hquiet.outputs, hmade]
    exact h.log
  · rwa [hquiet.outputs]

variable {directory : Location} {files : FileSystem} {node : Option Node}

/-- What is changed at the place of a file changes the map at its code. A file that is put there is
new. -/
theorem changedAt (h : Holds paths s table)
    (hshelf : Shelf s.journal.outputs s.files paths.lang directory table)
    (hchange : s.files.ChangedAt files (directory ++ [entryOf (Utf8.encodeName code)]) node)
    (hkept : IsKept paths.lang (Utf8.encodeName code) value node)
    (hnumber : ∀ number content, node = some (.file number content) →
      node = s.files.get? (directory ++ [entryOf (Utf8.encodeName code)]) ∨
        s.files.made ≤ number ∧ number < files.made) :
    Holds paths { s with files := files }
      (Function.update table (Utf8.encodeName code) value) where
  toIsLocated := by
    obtain ⟨left, hnamed⟩ := hshelf.exists_namedIn code
    refine h.change (hchange.isSound h.sound (hnamed.get?_directory h.sound.tree)
      (isProper_entryOf _) (hshelf.isLeaf _) fun number content hnode => ?_) hchange.made
    rcases hnumber number content hnode with hsame | hnew
    · rw [hnode] at hsame
      exact Nat.lt_of_lt_of_le (h.sound.numbered _ _ _ hsame.symm) hchange.made
    · exact hnew.2
  translations := by
    refine .shelf (hshelf.changedAt hchange hkept fun known number hknown hfile content hnode => ?_)
    rcases hnumber number content hnode with hsame | hnew
    · rw [hnode] at hsame
      exact hshelf.log known number hknown hfile _ content hsame.symm
    · have hlt := h.log known number hknown hfile
      omega

end Holds

/-! ## Actions -/

theorem proper_lang (h : ∀ name ∈ paths.root.entryNames, IsProper name) :
    ∀ name ∈ paths.lang.entryNames, IsProper name := by
  have hresources : IsProper (Utf8.entryName (Text.ofString "resources")) := by decide
  have hlang : IsProper (Utf8.entryName (Text.ofString "lang")) := by decide
  intro name hname
  simp only [Paths.lang, Paths.resources, Path.entryNames_child, List.mem_append,
    List.mem_singleton] at hname
  rcases hname with (hname | rfl) | rfl
  · exact h name hname
  · exact hresources
  · exact hlang

/-- The directory of the translations is there, or it cannot be made; the translations are the
same. -/
theorem Holds.ensureDirectory (h : Holds paths s table) :
    (∃ failure files, ensureDirectory paths.lang s = .error failure { s with files := files } ∧
      Holds paths { s with files := files } table) ∨
    ∃ files directory, ensureDirectory paths.lang s = .ok () { s with files := files } ∧
      Holds paths { s with files := files } table ∧
      Shelf s.journal.outputs files paths.lang directory table := by
  rw [ensureDirectory_eq, FileSystem.ensureDirectory]
  cases h.translations with
  | shelf hshelf =>
    have hpresent : ¬s.files.IsAbsent paths.lang := fun habsent => habsent _ _ hshelf.lookup
    obtain ⟨outcome, hresult, -⟩ :=
      FileSystem.makeDirectories_of_present hpresent paths.lang.names.length
    rw [hresult]
    cases outcome with
    | error failure => exact .inl ⟨_, _, rfl, h⟩
    | ok => exact .inr ⟨_, _, rfl, h, hshelf⟩
  | absent habsent hnone =>
    have hmaking := FileSystem.making_makeDirectories h.sound (proper_lang h.proper) habsent
      paths.lang.names.length
    generalize FileSystem.makeDirectories _ s.files paths.lang = result at hmaking ⊢
    cases hmaking with
    | failed hsound hmade hstill =>
      exact .inl ⟨_, _, rfl, h.change hsound hmade.ge, .absent hstill hnone⟩
    | made hsound hmade hlookup hempty =>
      have hshelf : Shelf s.journal.outputs _ paths.lang _ table := .of_empty hlookup hempty hnone
      exact .inr ⟨_, _, rfl, ⟨h.change hsound hmade.ge, .shelf hshelf⟩, hshelf⟩

/-- A value that is written to the file of a language is stored there, or nothing has changed. -/
theorem Holds.writeJson (h : Holds paths s table) {directory : Location}
    (hshelf : Shelf s.journal.outputs s.files paths.lang directory table)
    (hvalue : Everywhere IsRecoverable v) :
    (∃ failure after, writeJson (paths.lang.child (fileName code)) v s = .error failure after ∧
      Holds paths after table) ∨
    ∃ after, writeJson (paths.lang.child (fileName code)) v s = .ok () after ∧
      Holds paths after (Function.update table (Utf8.encodeName code) (some v)) := by
  unfold Operation.writeJson
  cases hlong : v.hasLongInteger with
  | true =>
    rw [if_pos rfl]
    exact .inl ⟨_, _, rfl, h⟩
  | false =>
  rw [if_neg Bool.false_ne_true, writeText_eq]
  obtain ⟨left, hnamed⟩ := hshelf.exists_namedIn code
  have hne : fileName code ≠ [] := List.ne_nil_of_length_pos (by rw [length_fileName]; omega)
  obtain ⟨files, failure, hwrite, hchange⟩ |
      ⟨files, bytes, hwrite, hbytes, htakes, hpath, hname, hmade, hchange⟩ :=
    AtomicWrite.writeText_changes h.sound.numbered (temporary?_child paths.lang hne) hnamed
      (isProper_entryOf _) (hshelf.isLeaf _) (hshelf.temporary_free _) v.indented
  · have hafter := h.changedAt hshelf hchange (hshelf.kept _) fun _ _ _ => .inl rfl
    rw [Function.update_eq_self] at hafter
    rw [hwrite]
    exact .inl ⟨_, _, rfl, hafter⟩
  · obtain ⟨hencodable, rfl⟩ := Utf8.encode_eq_ok.mp hbytes
    have hstores := Json.Stores.of_indented (everywhere_isReadable hvalue hlong)
      ((Json.isEncodable_write Json.isBlank_indentedLayout.isEncodable).mp hencodable)
    have hlong := hname.not_long
    rw [← entryName_fileName, FileSystem.isLongName_entryName] at hlong
    have htaken : IsTaken paths.lang code := ⟨htakes, hpath, hlong⟩
    have hkept : IsKept paths.lang (Utf8.encodeName code) (some v)
        (some (.file s.files.made (Utf8.encodeAny v.indented))) :=
      ⟨htaken.congr (Utf8.encodeName_decodeName _) (Utf8.nameFault?_decodeName _), _, _, _, rfl,
        hstores⟩
    rw [hwrite]
    refine .inr ⟨_, rfl, h.changedAt hshelf hchange hkept ?_⟩
    intro number content hnode
    cases hnode
    exact .inr ⟨Nat.le_refl _, hmade⟩

/-- A save stores the value, or it fails and stores nothing. -/
theorem Holds.save (h : Holds paths s table) (hplain : IsPlain code)
    (hvalue : Everywhere IsRecoverable v) :
    (∃ failure after, saveTranslation code v s = .error failure after ∧ Holds paths after table) ∨
    ∃ after, saveTranslation code v s = .ok () after ∧
      Holds paths after (Function.update table (Utf8.encodeName code) (some v)) := by
  rw [saveTranslation, bind_of_ok (knownPaths_eq h.known), translationFile_eq hplain]
  obtain ⟨failure, files, hmade, hafter⟩ | ⟨files, directory, hmade, hafter, hshelf⟩ :=
    h.ensureDirectory
  · exact .inl ⟨_, _, bind_of_error hmade _, hafter⟩
  · rw [bind_of_ok hmade]
    exact hafter.writeJson hshelf hvalue

/-! ## Files that are not there -/

/-- The system refuses to look for the file of a language: the path or the name is too long, or it
does not come to the directory of the translations. -/
inductive Refuses (fs : FileSystem) (lang : Path) (code : Text) : Errno → Prop where
  | long : isLongPath (lang.child (fileName code)) = true ∨ isLongName (fileName code) = true →
      Refuses fs lang code .nameTooLong
  | blocked {e : Errno} : e ≠ .noEntry → fs.lookup false lang = .error e → Refuses fs lang code e

theorem Refuses.ne_noEntry {fs : FileSystem} {lang : Path} {e : Errno}
    (h : Refuses fs lang code e) : e ≠ .noEntry := by
  cases h with
  | long => simp
  | blocked hne => exact hne

/-- If the file of a language is not found since the lookup fails, a directory above it is missing or
the system refuses to look. -/
theorem Holds.refuses_of_error (h : Holds paths s table) {e : Errno}
    (hfails : s.files.lookup false (paths.lang.child (fileName code)) = .error e) :
    e = .noEntry ∨ Refuses s.files paths.lang code e := by
  cases h.translations with
  | shelf hshelf =>
    obtain ⟨left, hnamed⟩ := hshelf.exists_namedIn code
    rw [hnamed.lookup_of_isProper (isProper_entryOf _), ← entryName_fileName,
      FileSystem.isLongName_entryName] at hfails
    split at hfails
    · next hlong =>
      cases hfails
      exact .inr (.long hlong)
    · cases hfails
  | absent habsent _ =>
    obtain ⟨other, hreason, hlookup⟩ : ∃ other,
        (other = .noEntry ∨ Refuses s.files paths.lang code other) ∧
          s.files.lookup false (paths.lang.child (fileName code)) = .error
            (if isLongPath (paths.lang.child (fileName code)) then .nameTooLong else other) := by
      cases hlang : s.files.lookup false paths.lang with
      | error other =>
        refine ⟨other, ?_, FileSystem.lookup_child_of_error hlang false _⟩
        by_cases hother : other = .noEntry
        · exact .inl hother
        · exact .inr (.blocked hother hlang)
      | ok found =>
        cases found with
        | found place node => exact absurd hlang (habsent place node)
        | free place => exact ⟨.noEntry, .inl rfl, FileSystem.lookup_child_of_free hlang false _⟩
    obtain rfl : e = _ := Except.error.inj (hfails.symm.trans hlookup)
    split
    · next hlong => exact .inr (.long (.inl hlong))
    · exact hreason

/-- The file of a language that the map does not have is not found. -/
theorem Holds.node?_of_none (h : Holds paths s table)
    (hnone : table (Utf8.encodeName code) = none) :
    ∃ e, (e = .noEntry ∨ Refuses s.files paths.lang code e) ∧
      ∀ follow, s.files.node? follow (paths.lang.child (fileName code)) = .error e := by
  have habsent : s.files.IsAbsent (paths.lang.child (fileName code)) := by
    cases h.translations with
    | shelf hshelf =>
      obtain ⟨left, hnamed⟩ := hshelf.exists_namedIn code
      exact hnamed.isAbsent (isProper_entryOf _) (hshelf.get?_eq_none hnone)
    | absent habsent _ => exact habsent.child (fileName code)
  obtain hnode | ⟨e, hlookup, hnode⟩ := habsent.node?_eq
  · exact ⟨.noEntry, .inl rfl, hnode⟩
  · exact ⟨e, h.refuses_of_error hlookup, hnode⟩

theorem read_of_node?_error {fs : FileSystem} {p : Path} {e : Errno}
    (htakes : nameFailure? p.text = none) (h : fs.node? true p = .error e) :
    fs.read p = .error (.file ⟨e, p, none⟩) := by
  rw [FileSystem.read, FileSystem.taking, htakes, h]

theorem unlink_of_node?_error {fs : FileSystem} {p : Path} {e : Errno}
    (htakes : nameFailure? p.text = none) (h : fs.node? false p = .error e) :
    fs.unlink p = .error (.file ⟨e, p, none⟩) := by
  rw [FileSystem.unlink, FileSystem.taking, htakes]
  rw [FileSystem.node?] at h
  cases hlookup : fs.lookup false p with
  | error other =>
    rw [hlookup] at h
    cases h
    rfl
  | ok found =>
    cases found with
    | found place node =>
      rw [hlookup] at h
      cases h
    | free place =>
      rw [hlookup] at h
      cases h
      rfl

/-! ## Answers -/

/-- What is asked for a translation is answered from its file, and at most a line is logged. -/
theorem translation_eq (h : s.package.paths = some paths) (code : Text) :
    ∃ logged, Quiet s logged ∧ translation code s =
      match translationIn s.files (translationFile paths code) with
      | .table v => .ok v s
      | .missing => .ok .null s
      | .broken _ => .ok .null logged
      | .failure failure => .error failure s := by
  rw [translation, bind_of_ok (knownPaths_eq h)]
  cases hin : translationIn s.files (translationFile paths code) with
  | broken problem =>
    obtain ⟨logged, hlog, hquiet, -⟩ := exists_log .warning translationLogger
      ("Failed to read translation '" ++ (translationFile paths code).text ++ "': " ++ problem) s
    refine ⟨logged, hquiet, ?_⟩
    rw [get_bind]
    dsimp only
    rw [hin]
    exact bind_of_ok hlog _
  | table v | missing | failure failure =>
    refine ⟨s, .refl s, ?_⟩
    rw [get_bind]
    dsimp only
    rw [hin]
    rfl

/-- Where the map has a value, there is a directory. -/
theorem Holds.exists_shelf (h : Holds paths s table) (hvalue : table key = some v) :
    ∃ directory, Shelf s.journal.outputs s.files paths.lang directory table := by
  cases h.translations with
  | absent _ hnone =>
    rw [hnone] at hvalue
    cases hvalue
  | shelf hshelf => exact ⟨_, hshelf⟩

theorem Holds.translation_of_some (h : Holds paths s table) (hplain : IsPlain code)
    (hvalue : valueOf table code = some v) : translation code s = .ok v s := by
  obtain ⟨directory, hshelf⟩ := h.exists_shelf (valueOf_eq_some.mp hvalue).2
  obtain ⟨bytes, t, hread, hstores⟩ := hshelf.exists_read hvalue
  obtain ⟨logged, -, htranslation⟩ := translation_eq h.known code
  have hlines : t.unifyNewlines = t :=
    Text.unifyNewlines_eq_self hstores.carriageReturn_not_mem
  rw [htranslation, translationFile_eq hplain]
  simp only [translationIn, hread, hstores.decode, hlines, hstores.parse]

theorem Holds.translation_of_none (h : Holds paths s table) (hplain : IsPlain code)
    (hnone : valueOf table code = none) :
    (∃ after, Quiet s after ∧ translation code s = .ok .null after) ∨
    ∃ e, Refuses s.files paths.lang code e ∧
      translation code s = .error (.file ⟨e, translationFile paths code, none⟩) s := by
  obtain ⟨logged, hquiet, htranslation⟩ := translation_eq h.known code
  rw [htranslation, translationFile_eq hplain]
  cases htakes : nameFailure? (paths.lang.child (fileName code)).text with
  | some failure =>
    have hread : s.files.read (paths.lang.child (fileName code)) = .error failure := by
      rw [FileSystem.read, FileSystem.taking, htakes]
    left
    obtain rfl | ⟨fault, rfl⟩ := FileSystem.cases_of_nameFailure? htakes
    · exact ⟨logged, hquiet, by simp only [translationIn, hread]⟩
    · exact ⟨logged, hquiet, by simp only [translationIn, hread]⟩
  | none =>
    obtain ⟨e, hreason, hnode⟩ := h.node?_of_none (table_eq_none hnone htakes)
    have hread := read_of_node?_error htakes (hnode true)
    rcases hreason with rfl | hrefuses
    · exact .inl ⟨s, .refl s, by simp only [translationIn, hread]⟩
    · refine .inr ⟨e, hrefuses, ?_⟩
      have hne := hrefuses.ne_noEntry
      cases e with
      | noEntry => contradiction
      | _ => simp only [translationIn, hread]; rfl

/-- Removing the file of a language that the map has removes the language from the map. -/
theorem Holds.remove_of_some (h : Holds paths s table) (hplain : IsPlain code)
    (hvalue : valueOf table code = some v) :
    ∃ after, removeTranslation code s = .ok () after ∧
      Holds paths after (Function.update table (Utf8.encodeName code) none) := by
  rw [removeTranslation, bind_of_ok (knownPaths_eq h.known), translationFile_eq hplain, change_eq]
  obtain ⟨directory, hshelf⟩ := h.exists_shelf (valueOf_eq_some.mp hvalue).2
  obtain ⟨left, hnamed⟩ := hshelf.exists_namedIn code
  obtain ⟨htaken, hentry, number, bytes, t, -, hget⟩ := hshelf.exists_entry hvalue
  have hlookup := hnamed.lookup_of_isEntry htaken.path hentry
  rw [FileSystem.placeAt, hget] at hlookup
  have hunlink := FileSystem.unlink_eq_ok.mpr ⟨htaken.takes, _, _, hlookup, by simp, rfl⟩
  have hchange : s.files.ChangedAt
      (s.files.erase (directory ++ [entryOf (Utf8.encodeName code)]))
      (directory ++ [entryOf (Utf8.encodeName code)]) none := .erase s.files (by simp)
  rw [hunlink]
  exact ⟨_, rfl, h.changedAt hshelf hchange rfl (by simp)⟩

theorem Holds.remove_of_none (h : Holds paths s table) (hplain : IsPlain code)
    (hnone : valueOf table code = none) :
    ∃ failure, removeTranslation code s = .error failure s ∧
      (failure = .file ⟨.noEntry, translationFile paths code, none⟩ ∨
        (∃ e, Refuses s.files paths.lang code e ∧
          failure = .file ⟨e, translationFile paths code, none⟩) ∨
        ∃ cause, nameFailure? (translationFile paths code).text = some cause ∧
          failure = cause.cause) := by
  rw [removeTranslation, bind_of_ok (knownPaths_eq h.known), translationFile_eq hplain, change_eq]
  cases htakes : nameFailure? (paths.lang.child (fileName code)).text with
  | some cause =>
    refine ⟨cause.cause, ?_, .inr (.inr ⟨cause, rfl, rfl⟩)⟩
    rw [FileSystem.unlink, FileSystem.taking, htakes]
  | none =>
    obtain ⟨e, hreason, hnode⟩ := h.node?_of_none (table_eq_none hnone htakes)
    rw [unlink_of_node?_error htakes (hnode false)]
    refine ⟨_, rfl, ?_⟩
    rcases hreason with rfl | hrefuses
    · exact .inl rfl
    · exact .inr (.inl ⟨e, hrefuses, rfl⟩)

/-! ## The listing -/

/-- Without a directory that the system takes, the map is empty. -/
theorem Holds.eq_none_of_not_directory (h : Holds paths s table)
    (hbase : s.files.isDirectory paths.lang = .ok false) (key : Bytes) : table key = none := by
  cases hvalue : table key with
  | none => rfl
  | some v =>
    obtain ⟨directory, hshelf⟩ := h.exists_shelf hvalue
    obtain ⟨htaken, -⟩ := hshelf.exists_file hvalue
    have hne : paths.lang.names ≠ [] := by simp [Paths.lang, Path.child]
    obtain ⟨ending, htext⟩ := Path.exists_text_child hne (fileName (Utf8.decodeName key))
    have htakes := htaken.takes
    rw [htext] at htakes
    have hdirectory := FileSystem.isDirectory_eq_ok_true.mpr
      ⟨FileSystem.nameFailure?_of_append htakes, directory,
        FileSystem.lookup_true_of_directory hshelf.lookup⟩
    rw [hbase] at hdirectory
    cases hdirectory

/-- The listing of the translations names the codes of the map, where the settings can be loaded and
the system says what is at the directory. -/
theorem Holds.exists_listing (h : Holds paths s table) {settings : Settings} {loaded : Session}
    (hsettings : Configuration.current s = .ok settings loaded)
    (hanswers : ∀ failure, s.files.isDirectory paths.lang ≠ .error failure) :
    ∃ entries after, Package.translations s = .ok entries after ∧ Lists entries table := by
  rw [Package.translations, bind_of_ok (knownPaths_eq h.known)]
  cases hbase : s.files.isDirectory paths.lang with
  | error failure => exact absurd hbase (hanswers failure)
  | ok answer =>
  cases answer with
  | true =>
    have htree := h.sound.tree
    have hendings : Listing.endings? (Settings.texts [Text.ofString "json"]) =
        .ok (some [Text.ofString "json"]) := by cbv
    obtain ⟨htakes, -⟩ := FileSystem.isDirectory_eq_ok_true.mp hbase
    cases h.translations with
    | absent habsent _ => exact absurd hbase habsent.not_directory
    | shelf hshelf =>
      obtain ⟨after, -, hfiles⟩ := Listing.files_eq hbase hendings hsettings rfl
      have hloaded := Configuration.quietly_current s settings loaded hsettings
      obtain ⟨hfinish, hcomplete⟩ := Listing.finish_start
        ⟨some [Text.ofString "json"], settings.allowSymlinks⟩ htree hbase hloaded.files.edited
      have hnone := hfinish.mpr (hshelf.isFlat htakes).answers
      obtain ⟨found, hfound⟩ := hcomplete hnone
      rw [hfiles, hnone]
      exact ⟨_, after, rfl, hshelf.lists htakes htree hfound⟩
  | false =>
    obtain ⟨after, -, hrest⟩ := Listing.rest_spec (fun _ => .done) s
    have hfiles : Listing.files paths.lang (Settings.texts [Text.ofString "json"]) s =
        .ok [] after := (bind_of_ok (Listing.openAt_of_false _ hbase) _).trans hrest
    rw [hfiles]
    exact ⟨_, after, rfl, lists_nil (h.eq_none_of_not_directory hbase)⟩

/-! ## Runs -/

/-- What is done with the translations of an archive. -/
inductive Action where
  | save (code : Text) (value : Json)
  | get (code : Text)
  | remove (code : Text)

namespace Action

def perform : Action → Operation Unit
  | save code value => saveTranslation code value
  | get code => discard (translation code)
  | remove code => removeTranslation code

/-- The code is a plain file name, and a value that is given can be recovered from its text. -/
def IsAllowed : Action → Prop
  | save code value => IsPlain code ∧ Everywhere IsRecoverable value
  | get code | remove code => IsPlain code

end Action

/-- The value of each code that has been saved last and not been removed since, by the bytes of the
code and the actions that have succeeded, the latest first. -/
def stored : List Action → Bytes → Option Json
  | [] => fun _ => none
  | .save code value :: earlier =>
    Function.update (stored earlier) (Utf8.encodeName code) (some value)
  | .get _ :: earlier => stored earlier
  | .remove code :: earlier => Function.update (stored earlier) (Utf8.encodeName code) none

/-- The session after actions in some order. Those that succeed are listed, the latest first. -/
inductive Run (s : Session) : List Action → Session → Prop where
  | start : Run s [] s
  | done {history : List Action} {middle after : Session} {action : Action} :
      Run s history middle → action.IsAllowed → action.perform middle = .ok () after →
      Run s (action :: history) after
  | failed {history : List Action} {middle after : Session} {action : Action} {failure : Failure} :
      Run s history middle → action.IsAllowed → action.perform middle = .error failure after →
      Run s history after

variable {action : Action} {history : List Action} {failure : Failure}

/-- What is asked for a translation changes nothing but the log. -/
theorem quiet_of_translation (h : s.package.paths = some paths) :
    (∀ v, translation code s = .ok v after → Quiet s after) ∧
      ∀ failure, translation code s = .error failure after → Quiet s after := by
  obtain ⟨logged, hquiet, htranslation⟩ := translation_eq h code
  rw [htranslation]
  constructor
  · intro v hresult
    split at hresult <;> cases hresult
    · exact .refl s
    · exact .refl s
    · exact hquiet
  · intro failure hresult
    split at hresult <;> cases hresult
    exact .refl s

/-- An action that succeeds does to the map what it does to the history, and one that fails leaves
the map as it is. -/
theorem Holds.perform (h : Holds paths s (stored history)) (hallowed : action.IsAllowed) :
    (action.perform s = .ok () after → Holds paths after (stored (action :: history))) ∧
      ∀ failure, action.perform s = .error failure after → Holds paths after (stored history) := by
  cases action with
  | save code value =>
    obtain ⟨hplain, hvalue⟩ := hallowed
    obtain ⟨failure, other, hfails, hafter⟩ | ⟨other, hsaves, hafter⟩ := h.save hplain hvalue
    · simp only [Action.perform, hfails]
      refine ⟨by simp, ?_⟩
      rintro failure ⟨⟩
      exact hafter
    · simp only [Action.perform, hsaves]
      refine ⟨?_, by simp⟩
      rintro ⟨⟩
      exact hafter
  | get code =>
    refine ⟨fun hresult => ?_, fun failure hresult => ?_⟩
    · obtain ⟨v, hv⟩ := discard_eq_ok.mp hresult
      exact h.quiet ((quiet_of_translation h.known).1 v hv)
    · exact h.quiet ((quiet_of_translation h.known).2 failure (discard_eq_error.mp hresult))
  | remove code =>
    cases hvalue : valueOf (stored history) code with
    | some v =>
      obtain ⟨other, hremoves, hafter⟩ := h.remove_of_some hallowed hvalue
      simp only [Action.perform, hremoves]
      refine ⟨?_, by simp⟩
      rintro ⟨⟩
      exact hafter
    | none =>
      obtain ⟨failure, hfails, -⟩ := h.remove_of_none hallowed hvalue
      simp only [Action.perform, hfails]
      refine ⟨by simp, ?_⟩
      rintro failure ⟨⟩
      exact h

/-- After any run the translations stand for the map of its history. -/
theorem Run.holds (h : Holds paths s fun _ => none) (hrun : Run s history after) :
    Holds paths after (stored history) := by
  induction hrun with
  | start => exact h
  | done _ hallowed hresult ih => exact (ih.perform hallowed).1 hresult
  | failed _ hallowed hresult ih => exact (ih.perform hallowed).2 _ hresult

/-- The archive has no translations: nothing is at their directory, or it is a directory with nothing
in it. -/
structure IsFresh (paths : Paths) (s : Session) : Prop extends IsLocated paths s where
  empty : s.files.IsAbsent paths.lang ∨ ∃ directory,
    s.files.lookup false paths.lang = .ok (.found directory .directory) ∧
      ∀ name, s.files.get? (directory ++ [name]) = none

theorem IsFresh.holds (h : IsFresh paths s) : Holds paths s fun _ => none where
  toIsLocated := h.toIsLocated
  translations := by
    obtain habsent | ⟨directory, hlookup, hempty⟩ := h.empty
    · exact .absent habsent fun _ => rfl
    · exact .shelf (.of_empty hlookup hempty fun _ => rfl)

/-- The operations on translations answer as those on a map do. A code for which the map has no
value may instead have a path that the system does not take or refuses to look at, which is the
answer then; and a listing needs the settings and an answer to what is at the directory. -/
structure AnswersAs (paths : Paths) (s : Session) (table : Bytes → Option Json) : Prop where
  get_of_some : ∀ code v, IsPlain code → valueOf table code = some v → translation code s = .ok v s
  get_of_none : ∀ code, IsPlain code → valueOf table code = none →
    (∃ after, Quiet s after ∧ translation code s = .ok .null after) ∨
      ∃ e, Refuses s.files paths.lang code e ∧
        translation code s = .error (.file ⟨e, translationFile paths code, none⟩) s
  remove_of_some : ∀ code v, IsPlain code → valueOf table code = some v →
    ∃ after, removeTranslation code s = .ok () after
  remove_of_none : ∀ code, IsPlain code → valueOf table code = none →
    ∃ failure, removeTranslation code s = .error failure s ∧
      (failure = .file ⟨.noEntry, translationFile paths code, none⟩ ∨
        (∃ e, Refuses s.files paths.lang code e ∧
          failure = .file ⟨e, translationFile paths code, none⟩) ∨
        ∃ cause, nameFailure? (translationFile paths code).text = some cause ∧
          failure = cause.cause)
  list : ∀ settings loaded, Configuration.current s = .ok settings loaded →
    (∀ failure, s.files.isDirectory paths.lang ≠ .error failure) →
      ∃ entries after, Package.translations s = .ok entries after ∧ Lists entries table

theorem Holds.answersAs (h : Holds paths s table) : AnswersAs paths s table where
  get_of_some _ _ hplain := h.translation_of_some hplain
  get_of_none _ hplain := h.translation_of_none hplain
  remove_of_some _ _ hplain hvalue := by
    obtain ⟨after, hremoves, -⟩ := h.remove_of_some hplain hvalue
    exact ⟨after, hremoves⟩
  remove_of_none _ hplain := h.remove_of_none hplain
  list _ _ := h.exists_listing

/-- After any run the translations are answered as a map from codes to the values that have been
saved last and not been removed. -/
theorem Run.answers_as_map (h : IsFresh paths s) (hrun : Run s history after) :
    AnswersAs paths after (stored history) :=
  (hrun.holds h.holds).answersAs

/-! ## Fixed codes -/

theorem isFresh_of_start {files : FileSystem}
    (hproper : ∀ name ∈ paths.root.entryNames, IsProper name)
    (hsound : files.IsSound) (hempty : files.IsAbsent paths.lang ∨ ∃ directory,
      files.lookup false paths.lang = .ok (.found directory .directory) ∧
        files.children directory = []) (environment : Option Text) :
    IsFresh paths
      { Session.start files with package := ⟨some paths, none⟩, environment := environment } where
  known := rfl
  proper := hproper
  sound := hsound
  log known number hknown := by cases hknown
  empty := by
    refine hempty.imp (fun habsent => habsent) ?_
    rintro ⟨directory, hlookup, hnone⟩
    refine ⟨directory, hlookup, fun name => ?_⟩
    cases hget : files.get? (directory ++ [name]) with
    | none => exact hget
    | some node =>
      have hname := FileSystem.mem_children.mpr ⟨node, hget⟩
      rw [hnone] at hname
      cases hname

/-- The paths of an archive at the root. -/
def topPaths : Paths := ⟨⟨.root, []⟩⟩

/-- The session of this archive, in the empty directory of its translations. -/
def topSession (environment : Option Text) : Session :=
  { Session.start (.empty [Text.ofString "resources", Text.ofString "lang"]) with
    package := ⟨some topPaths, none⟩, environment := environment }

theorem isFresh_topSession (environment : Option Text) :
    IsFresh topPaths (topSession environment) := by
  have hdirectories : ∀ entry ∈
      (FileSystem.empty [Text.ofString "resources", Text.ofString "lang"]).entries,
      entry.2 = .directory := by decide +kernel
  refine isFresh_of_start (by simp [topPaths, Path.entryNames]) ⟨?_, ?_⟩ (.inr ?_) environment
  · exact FileSystem.isTree_of_entries (by decide +kernel) (by decide +kernel)
  · refine FileSystem.isNumbered_of_entries fun entry hentry number content hfile => ?_
    rw [hdirectories entry hentry] at hfile
    cases hfile
  · have hsort : Text.sort [] = [] := Text.sort_eq_of_perm (.refl _) .nil
    exact ⟨[Text.ofString "resources", Text.ofString "lang"], rfl, hsort⟩

/-- A translation that has been saved can be had until it is removed. -/
theorem answers_as_map_removed :
    ∃ saved removed,
      saveTranslation "en" nestedValue (topSession none) = .ok () saved ∧
      translation "en" saved = .ok nestedValue saved ∧
      removeTranslation "en" saved = .ok () removed ∧
      ∃ failure, removeTranslation "en" removed = .error failure removed := by
  have hplain : IsPlain "en" := ⟨by decide, by decide⟩
  have hvalue : Everywhere IsRecoverable nestedValue :=
    isReadable_nestedValue.imp fun _ h => h.isRecoverable
  have hanswers : Answers (saveTranslation "en" nestedValue (topSession none)) = true := by
    decide +kernel
  cases hsaved : saveTranslation "en" nestedValue (topSession none) with
  | error failure after => simp [hsaved, Answers] at hanswers
  | ok _ saved =>
    have hrun : Run (topSession none) [.save "en" nestedValue] saved :=
      .done .start ⟨hplain, hvalue⟩ hsaved
    have hmap := Run.answers_as_map (isFresh_topSession none) hrun
    obtain ⟨removed, hremoved⟩ := hmap.remove_of_some "en" nestedValue hplain rfl
    have hrun' : Run (topSession none) [.remove "en", .save "en" nestedValue] removed :=
      .done hrun hplain hremoved
    obtain ⟨failure, hfails, -⟩ :=
      (Run.answers_as_map (isFresh_topSession none) hrun').remove_of_none "en" hplain rfl
    exact ⟨saved, removed, rfl, hmap.get_of_some "en" nestedValue hplain rfl, hremoved, failure,
      hfails⟩

/-- An archive at the root whose resources are a file. -/
def blockedFiles : FileSystem where
  entries := [([Text.ofString "resources"], .file 0 [])]
  current := []
  made := 1
  distinct := by decide

def blockedSession : Session :=
  { Session.start blockedFiles with package := ⟨some topPaths, none⟩ }

/-- The paths of an archive at a path that is so long that those of its resources are too long. -/
def deepPaths : Paths := ⟨⟨.root, List.replicate 18 (List.replicate 226 (CodePoint.ofChar 'x'))⟩⟩

def deepSession : Session :=
  { Session.start (.empty []) with package := ⟨some deepPaths, none⟩ }

def longCode : Text := List.replicate 300 (CodePoint.ofChar 'x')

/-- A code that is no name in bytes. -/
def brokenCode : Text := [CodePoint.ofNat 0xd800]

/-- A code, and another one that has the bytes of it. -/
def accentCode : Text := [CodePoint.ofNat 0xe9]

def accentBytes : Text := [CodePoint.ofNat 0xdcc3, CodePoint.ofNat 0xdca9]

/-- Once a value is saved for the one code, what is asked for the other is not answered by null. -/
def Affects (code other : Text) (s : Session) : Bool :=
  match saveTranslation code (.bool true) s with
  | .error .. => false
  | .ok _ saved =>
    match translation other saved with
    | .error .. | .ok .null _ => false
    | .ok .. => true

/-- An operation fails as something is missing. -/
def Lacks {α : Type} : EStateM.Result Failure Session α → Bool
  | .error (.file ⟨.noEntry, _, _⟩) _ => true
  | _ => false

theorem isFresh_blockedSession : IsFresh topPaths blockedSession := by
  refine isFresh_of_start (by simp [topPaths, Path.entryNames]) ⟨?_, ?_⟩ (.inl ?_) none
  · exact FileSystem.isTree_of_entries (by decide +kernel) (by decide +kernel)
  · refine FileSystem.isNumbered_of_entries fun entry hentry number content hfile => ?_
    obtain rfl := List.mem_singleton.mp hentry
    cases hfile
    decide
  · intro place node hlookup
    have hblocked : blockedFiles.lookup false topPaths.lang = .error .notDirectory := rfl
    rw [hblocked] at hlookup
    cases hlookup

theorem isFresh_deepSession : IsFresh deepPaths deepSession := by
  have hlong : isLongPath deepPaths.lang = true := by decide +kernel
  refine isFresh_of_start (fun name hname => ?_) ⟨?_, ?_⟩ (.inl ?_) none
  · rw [Path.entryNames, deepPaths, List.map_replicate] at hname
    rw [List.eq_of_mem_replicate hname]
    decide +kernel
  · exact FileSystem.isTree_of_entries (fun _ h => absurd h List.not_mem_nil) rfl
  · exact FileSystem.isNumbered_of_entries fun _ h => absurd h List.not_mem_nil
  · intro place node hlookup
    rw [FileSystem.lookup, if_pos hlong] at hlookup
    cases hlookup

/-- Without any translation, what is asked for a code that is too long is not answered by null, nor
if the resources are a file. Removing a code that is too long, or that is no name in bytes, does not
fail because a file is missing. A save of one code is one of all codes that have its bytes. The
listing fails where the settings file is missing, or the path of the directory is too long. -/
theorem not_answered_as_map :
    (IsFresh topPaths (topSession none) ∧ IsPlain longCode ∧
      Answers (translation longCode (topSession none)) = false ∧
      Lacks (removeTranslation longCode (topSession none)) = false ∧
      IsPlain brokenCode ∧ Lacks (removeTranslation brokenCode (topSession none)) = false ∧
      IsPlain accentCode ∧ IsPlain accentBytes ∧ accentBytes ≠ accentCode ∧
      Affects accentCode accentBytes (topSession none) = true) ∧
    (IsFresh topPaths blockedSession ∧ IsPlain "en" ∧
      Answers (translation "en" blockedSession) = false) ∧
    (IsFresh topPaths (topSession (some "none.json5")) ∧
      Answers (translations (topSession (some "none.json5"))) = false) ∧
    IsFresh deepPaths deepSession ∧ Answers (translations deepSession) = false := by
  have hlong : IsPlain longCode := ⟨by decide +kernel, by decide +kernel⟩
  have hbroken : IsPlain brokenCode := ⟨by decide, by decide⟩
  have haccent : IsPlain accentCode := ⟨by decide, by decide⟩
  have hbytes : IsPlain accentBytes := ⟨by decide, by decide⟩
  have hplain : IsPlain "en" := ⟨by decide, by decide⟩
  refine ⟨⟨isFresh_topSession none, hlong, ?_, ?_, hbroken, ?_, haccent, hbytes, ?_, ?_⟩,
    ⟨isFresh_blockedSession, hplain, ?_⟩, ⟨isFresh_topSession _, ?_⟩, isFresh_deepSession, ?_⟩
  all_goals decide +kernel

end Dictionary
end Package
end GameArchive
