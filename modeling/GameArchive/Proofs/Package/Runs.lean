import GameArchive.Package.Basic
import GameArchive.Proofs.Manifest.Reading

/-!
# Runs on an archive

The manifest in memory is replaced before it is written, so a save that fails leaves the two apart.
Whatever is read, saved and populated, and in whatever order it succeeds and fails, memory and file
agree again after the next success, and a failure leaves the file as it was.
-/

namespace GameArchive

open Json (Everywhere HasDistinctNames IsReadable ReadsBack)
open Manifest (Holds storedPaths storedSession)

/-- What is asked of all values in memory: no name comes twice, and numbers are read back. -/
structure Json.IsRecoverable (j : Json) : Prop where
  names : HasDistinctNames j
  float : ReadsBack j

theorem Json.IsReadable.isRecoverable {j : Json} (h : IsReadable j) : IsRecoverable j :=
  ⟨h.names, h.float⟩

open Json (IsRecoverable)

namespace Package

open Operation

variable {paths : Paths} {s t after : Session} {m : Manifest}

/-- What is done with an archive. -/
inductive Action where
  | read
  | save (members : Members)
  | populate (options : Manifest.Options)

namespace Action

def perform : Action → Operation Manifest
  | read => readManifest
  | save members => saveManifest members
  | populate options => populateManifest options

/-- The values that are given. -/
def values : Action → List Json
  | read => []
  | save members => [.object members]
  | populate options => [options.shortName, options.title]

end Action

/-- The session after an operation, whether it failed or not. -/
def sessionOf {α : Type} : EStateM.Result Failure Session α → Session
  | .ok _ after => after
  | .error _ after => after

/-- An archive at its paths: saves are unhindered and the log is kept elsewhere, the manifest in
memory, if any, is one of an object, and the numbers in it and in the file can be read back. -/
structure Ready (paths : Paths) (s : Session) : Prop where
  known : s.package.paths = some paths
  unhindered : Unhindered s paths.manifest paths.temporary
  log : LogElsewhere s paths.manifest
  file : ∀ bytes members, s.files.read paths.manifest = .ok bytes → Holds bytes members →
    Everywhere ReadsBack (.object members)
  manifest : ∀ m, s.package.manifest = some m →
    m.IsPlain ∧ Everywhere IsRecoverable (.object m.members)

/-- The file holds the manifest in memory. -/
structure Saved (paths : Paths) (s after : Session) (m : Manifest) : Prop where
  ready : Ready paths after
  manifest : after.package.manifest = some m
  held : ∃ bytes members data, after.files.read paths.manifest = .ok bytes ∧
    Holds bytes members ∧ m.data = .ok data ∧ Members.Same members data
  left : NoneLeft s after paths.temporary

/-- The file is as it was. -/
structure Unchanged (paths : Paths) (s after : Session) : Prop where
  ready : Ready paths after
  read : ∀ bytes,
    after.files.read paths.manifest = .ok bytes ↔ s.files.read paths.manifest = .ok bytes
  left : NoneLeft s after paths.temporary

/-- What an operation comes to. -/
def Settled (paths : Paths) (s : Session) : EStateM.Result Failure Session Manifest → Prop
  | .ok m after => Saved paths s after m
  | .error _ after => Unchanged paths s after

/-! ## What is kept -/

theorem Ready.unchanged (h : Ready paths s)
    (hkept : Kept s after paths.manifest paths.temporary)
    (hknown : after.package.paths = some paths)
    (hmanifest : ∀ m, after.package.manifest = some m →
      m.IsPlain ∧ Everywhere IsRecoverable (.object m.members)) : Unchanged paths s after where
  ready := {
    known := hknown
    unhindered := hkept.unhindered
    log := hkept.log h.log
    file := fun bytes members hread => h.file bytes members ((hkept.read bytes).mp hread)
    manifest := hmanifest }
  read := hkept.read
  left := hkept.left

/-- An identifier that has been given out hinders nothing. -/
theorem Ready.identified (h : Ready paths s) :
    Ready paths { s with identifiers := s.identifiers + 1 } := by
  have hkept : Kept s { s with identifiers := s.identifiers + 1 } paths.manifest paths.temporary :=
    h.unhindered.kept rfl rfl
  exact (h.unchanged hkept h.known h.manifest).ready

/-- What is asked of the values of an object is asked of those of its manifest too. -/
theorem everywhere_members_ofMembers {members : Members}
    (h : Everywhere IsRecoverable (.object members)) :
    Everywhere IsRecoverable (.object (Manifest.ofMembers members).members) := by
  have hnames : members.names.Nodup := h.self.names
  refine Json.everywhere_object.mpr ⟨⟨?_, trivial⟩, fun entry hentry => ?_⟩
  · exact Manifest.nodup_names_members (Manifest.isPlain_ofMembers hnames)
  · exact (Json.everywhere_object.mp h).2 entry ((Manifest.mem_members_ofMembers hnames).mp hentry)

theorem everywhere_isReadable {j : Json} (h : Everywhere IsRecoverable j)
    (hshort : j.hasLongInteger = false) : Everywhere IsReadable j := fun v hv =>
  ⟨(h v hv).names, Json.hasLongInteger_eq_false.mp hshort v hv, (h v hv).float⟩

theorem saved_of_stored {bytes : Bytes} (h : Stored s after paths.manifest paths.temporary bytes)
    (hpackage : after.package = ⟨some paths, some m⟩) (hplain : m.IsPlain)
    (hmembers : Everywhere IsReadable (.object m.members))
    (hbytes : Utf8.encode (Manifest.fileText m.members) = .ok bytes) : Saved paths s after m := by
  have hholds := Manifest.holds_fileText hmembers hbytes
  refine ⟨⟨by rw [hpackage], h.unhindered, h.log, ?_, ?_⟩, by rw [hpackage],
    ⟨bytes, _, _, h.read, hholds, Manifest.data_of_isPlain hplain, fun _ => rfl⟩, h.left⟩
  · intro other members hread hother
    obtain rfl : bytes = other := Except.ok.inj (h.read.symm.trans hread)
    obtain rfl := hholds.unique hother
    exact hmembers.imp fun _ hv => hv.float
  · intro other hother
    obtain rfl : m = other := by simpa [hpackage] using hother
    exact ⟨hplain, hmembers.imp fun _ hv => hv.isRecoverable⟩

/-! ## Reading -/

theorem readManifest_of_error {failure : Failure} (hknown : s.package.paths = some paths)
    (h : Manifest.read paths.manifest s = .error failure after) :
    readManifest s = .error failure after := by
  rw [readManifest, bind_of_ok (knownPaths_eq hknown)]
  exact bind_of_error h _

/-- A manifest that has been read is the one in memory. -/
theorem readManifest_of_ok (hknown : s.package.paths = some paths)
    (h : Manifest.read paths.manifest s = .ok m t) :
    ∃ after, readManifest s = .ok m after ∧ after.files = t.files ∧
      after.journal.outputs = t.journal.outputs ∧
      after.package = ⟨t.package.paths, some m⟩ := by
  refine ⟨{ t with
    package := { t.package with manifest := some m }
    journal := t.journal.set "packageId" (idOf m) }, ?_, rfl, rfl, rfl⟩
  rw [readManifest, bind_of_ok (knownPaths_eq hknown)]
  exact bind_of_ok h _

/-- A read that fails where nothing has changed. -/
theorem readManifest_settled_of_error (h : Ready paths s) {failure : Failure}
    (hread : Manifest.read paths.manifest s = .error failure after)
    (hkept : Kept s after paths.manifest paths.temporary) (hpackage : after.package = s.package) :
    Settled paths s (readManifest s) ∧
      ∀ failure after, readManifest s = .error failure after →
        after.package.manifest = s.package.manifest := by
  rw [readManifest_of_error h.known hread]
  refine ⟨h.unchanged hkept (by rw [hpackage, h.known]) ?_, ?_⟩
  · rw [hpackage]
    exact h.manifest
  · intro failure after herror
    cases herror
    rw [hpackage]

/-- A read either makes memory and file agree or changes neither of them. -/
theorem readManifest_settled (h : Ready paths s) :
    Settled paths s (readManifest s) ∧
      ∀ failure after, readManifest s = .error failure after →
        after.package.manifest = s.package.manifest := by
  have hself : Kept s s paths.manifest paths.temporary := h.unhindered.kept rfl rfl
  cases hread : s.files.read paths.manifest with
  | error e => exact readManifest_settled_of_error h (Manifest.read_of_error hread) hself rfl
  | ok bytes =>
  have houtcome := Manifest.read_outcome h.unhindered hread
  generalize hresult : Manifest.read paths.manifest s = result at houtcome
  cases houtcome with
  | unparsed => exact readManifest_settled_of_error h hresult hself rfl
  | unnamed => exact readManifest_settled_of_error h hresult hself rfl
  | unsaved _ _ _ _ _ _ hkept hpackage =>
    exact readManifest_settled_of_error h hresult (hkept h.log) hpackage
  | @valid members hmembers _ hvalid =>
    obtain ⟨after, hafter, hfiles, houtputs, hpackage⟩ := readManifest_of_ok h.known hresult
    have hplain := Manifest.isPlain_ofMembers hmembers.nodup
    have hrecoverable : Everywhere IsRecoverable (.object members) :=
      (Manifest.everywhere_isReadable hmembers (h.file bytes members hread hmembers)).imp
        fun _ hv => hv.isRecoverable
    have hunchanged : Unchanged paths s after :=
      h.unchanged (h.unhindered.kept hfiles houtputs) (by rw [hpackage, h.known]) fun m hm => by
        obtain rfl : Manifest.ofMembers members = m := by simpa [hpackage] using hm
        exact ⟨hplain, everywhere_members_ofMembers hrecoverable⟩
    have hsame : Members.Same members (Manifest.ofMembers members).members := fun name =>
      (Manifest.same_members_ofMembers hmembers.nodup name).symm
    rw [hafter]
    refine ⟨⟨hunchanged.ready, by rw [hpackage], ?_, hunchanged.left⟩, fun _ _ herror => by
      contradiction⟩
    exact ⟨bytes, members, _, (hunchanged.read bytes).mpr hread, hmembers,
      Manifest.data_of_isPlain hplain, hsame⟩
  | @healed written members id t hmembers _ _ _ _ hbytes hstored hpackage =>
    obtain ⟨after, hafter, hfiles, houtputs, hafterPackage⟩ := readManifest_of_ok h.known hresult
    have hreadable := Manifest.everywhere_isReadable_withId
      (Manifest.everywhere_isReadable hmembers (h.file bytes members hread hmembers)) id
    rw [hafter]
    refine ⟨saved_of_stored (hstored.kept (hstored.unhindered.kept hfiles houtputs)) ?_
      (Manifest.isPlain_withId hmembers.nodup id) hreadable hbytes, fun _ _ herror => by
        contradiction⟩
    rw [hafterPackage, hpackage, h.known]

/-! ## Saving -/

theorem setManifest_eq (m : Manifest) (s : Session) :
    setManifest m s = .ok () { s with package := { s.package with manifest := some m } } := rfl

theorem save_of_error {failure : Failure} (h : s.package.paths = some paths) :
    save (.error failure) s = .error failure s := by
  rw [save, bind_of_ok (knownPaths_eq h)]
  rfl

/-- The manifest in memory is replaced, and then it is written. -/
theorem save_of_ok (h : s.package.paths = some paths) (m : Manifest) :
    save (.ok m) s = (Manifest.writeMembers paths.manifest m.members >>= fun _ => pure m)
      { s with package := { s.package with manifest := some m } } := by
  have hsettle : settle (.ok m) s = .ok m s := rfl
  rw [save, bind_of_ok (knownPaths_eq h), bind_of_ok hsettle, bind_of_ok (setManifest_eq m s)]
  rfl

theorem save_settled (h : Ready paths s) (hplain : m.IsPlain)
    (hmembers : Everywhere IsRecoverable (.object m.members)) :
    Settled paths s (save (.ok m) s) := by
  rw [save_of_ok h.known]
  -- Whether the write succeeds or fails, it starts with the new manifest in memory.
  generalize hset : { s with package := { s.package with manifest := some m } } = t
  have hkept : Kept s t paths.manifest paths.temporary := by
    rw [← hset]
    exact h.unhindered.kept rfl rfl
  have hpackage : t.package = ⟨some paths, some m⟩ := by
    rw [← hset, ← h.known]
  obtain ⟨failure, files, hwrite, hwritten, -⟩ |
      ⟨journal, files, bytes, hwrite, hshort, hbytes, hstored⟩ :=
    Manifest.writeMembers_spec hkept.unhindered m.members
  · rw [bind_of_error hwrite]
    refine h.unchanged (hkept.trans hwritten) (by rw [hpackage]) fun other hother => ?_
    obtain rfl : m = other := by simpa [hpackage] using hother
    exact ⟨hplain, hmembers⟩
  · rw [bind_of_ok hwrite]
    exact saved_of_stored (.of_left hkept.left hstored) hpackage hplain
      (everywhere_isReadable hmembers hshort) hbytes

theorem saveManifest_settled (h : Ready paths s) {members : Members}
    (hmembers : Everywhere IsRecoverable (.object members)) :
    Settled paths s (saveManifest members s) := by
  have hnames : members.names.Nodup := hmembers.self.names
  rw [saveManifest]
  obtain ⟨-, htable⟩ | ⟨name, -, -, htable⟩ := Manifest.ofTable?_putAll hnames
  · rw [htable]
    exact save_settled h (Manifest.isPlain_ofMembers hnames) (everywhere_members_ofMembers hmembers)
  · rw [htable, save_of_error h.known]
    exact h.unchanged (h.unhindered.kept rfl rfl) h.known h.manifest

/-! ## Populating -/

/-- A property of all values that are asked for, of texts that can be encoded, and of the arrays and
objects among the defaults holds of all defaults. -/
theorem everywhere_defaults {P : Json → Prop} {id : Text} {options : Manifest.Options}
    (hstring : ∀ t, Utf8.IsEncodable t → P (.string t)) (hstudio : P Manifest.defaultStudio)
    (horientations : P Manifest.defaultOrientations) (hid : Utf8.IsEncodable id)
    (h : ∀ value ∈ (Action.populate options).values, Everywhere P value) :
    ∀ entry ∈ Manifest.defaults id options, Everywhere P entry.2 := by
  have hstrings : ∀ t, Utf8.IsEncodable t → Everywhere P (.string t) := fun t ht =>
    (Json.everywhere_of_scalar (by simp) (by simp)).mpr (hstring t ht)
  intro entry hentry
  simp only [Manifest.defaults, List.mem_cons, List.not_mem_nil, or_false] at hentry
  obtain rfl | rfl | rfl | rfl | rfl := hentry
  · exact hstrings id hid
  · exact h _ (by simp [Action.values])
  · exact h _ (by simp [Action.values])
  · refine Json.everywhere_object.mpr ⟨hstudio, fun entry hentry => ?_⟩
    simp only [List.mem_cons, List.not_mem_nil, or_false] at hentry
    obtain rfl | rfl | rfl := hentry <;> exact hstrings _ (Utf8.isEncodable_ofString _)
  · refine Json.everywhere_array.mpr ⟨horientations, fun item hitem => ?_⟩
    simp only [List.mem_cons, List.not_mem_nil, or_false] at hitem
    obtain rfl | rfl := hitem <;> exact hstrings _ (Utf8.isEncodable_ofString _)

theorem everywhere_isRecoverable_string (t : Text) : Everywhere IsRecoverable (.string t) :=
  (Json.everywhere_of_scalar (by simp) (by simp)).mpr ⟨trivial, trivial⟩

/-- Defaults never make an object with a name that comes twice. -/
theorem everywhere_isRecoverable_applyDefaults {existing : Members} {id : Text}
    (hid : Utf8.IsEncodable id) {options : Manifest.Options}
    (h : ∀ value ∈ (Action.populate options).values, Everywhere IsRecoverable value)
    (hexisting : ∀ entry ∈ existing, Everywhere IsRecoverable entry.2) :
    Everywhere IsRecoverable
      (.object (Manifest.applyDefaults existing (Manifest.defaults id options))) := by
  refine Json.everywhere_object.mpr ⟨⟨?_, trivial⟩, fun entry hentry => ?_⟩
  · exact Members.nodup_putAll (Manifest.nodup_names_defaults id options) existing
  · obtain hentry | hentry := Members.mem_putAll hentry
    · have hstudio : IsRecoverable Manifest.defaultStudio := by
        refine ⟨?_, trivial⟩
        change (Members.names _).Nodup
        decide
      exact everywhere_defaults (fun _ _ => ⟨trivial, trivial⟩) hstudio ⟨trivial, trivial⟩ hid h
        entry hentry
    · exact hexisting entry hentry

theorem newIdentifier_eq (s : Session) :
    newIdentifier s = .ok (Identifier.ofNumber (s.identifiers + 1))
      { s with identifiers := s.identifiers + 1 } := rfl

/-- The members in memory, none where there is no manifest. -/
def inMemory (p : Package) : Members :=
  match p.manifest with
  | some m => m.members
  | none => []

/-- The defaults are put under what is in memory, and all of it is saved. -/
theorem populateManifest_eq (hdata : ∀ m, s.package.manifest = some m → m.data = .ok m.members)
    (options : Manifest.Options) :
    populateManifest options s =
      saveManifest (Manifest.applyDefaults s.package.inMemory
        (Manifest.defaults (Identifier.ofNumber (s.identifiers + 1)) options))
        { s with identifiers := s.identifiers + 1 } := by
  have hpackage : package s = .ok s.package s := rfl
  rw [populateManifest, bind_of_ok hpackage, inMemory]
  cases hmanifest : s.package.manifest with
  | none =>
    have hnothing : (pure [] : Operation Members) s = .ok [] s := rfl
    dsimp only
    rw [bind_of_ok hnothing, bind_of_ok (newIdentifier_eq s)]
  | some m =>
    have hsettle : settle (m.data.mapError .access) s = .ok m.members s := by
      rw [hdata m hmanifest]
      rfl
    dsimp only
    rw [bind_of_ok hsettle, bind_of_ok (newIdentifier_eq s)]

theorem Ready.inMemory (h : Ready paths s) :
    ∀ entry ∈ s.package.inMemory, Everywhere IsRecoverable entry.2 := by
  unfold Package.inMemory
  cases hmanifest : s.package.manifest with
  | none => simp
  | some m => exact (Json.everywhere_object.mp (h.manifest m hmanifest).2).2

theorem Ready.populateManifest_eq (h : Ready paths s) (options : Manifest.Options) :
    populateManifest options s =
      saveManifest (Manifest.applyDefaults s.package.inMemory
        (Manifest.defaults (Identifier.ofNumber (s.identifiers + 1)) options))
        { s with identifiers := s.identifiers + 1 } :=
  Package.populateManifest_eq (fun m hm => Manifest.data_of_isPlain (h.manifest m hm).1) options

theorem populateManifest_settled (h : Ready paths s) {options : Manifest.Options}
    (hvalues : ∀ value ∈ (Action.populate options).values, Everywhere IsRecoverable value) :
    Settled paths s (populateManifest options s) := by
  have hsettled := saveManifest_settled h.identified
    (everywhere_isRecoverable_applyDefaults (Manifest.isEncodable_ofNumber (s.identifiers + 1))
      hvalues h.inMemory)
  rw [h.populateManifest_eq]
  revert hsettled
  generalize saveManifest _ _ = result
  cases result with
  | ok m after => exact fun hsaved => ⟨hsaved.ready, hsaved.manifest, hsaved.held, hsaved.left⟩
  | error failure after => exact fun hfailed => ⟨hfailed.ready, hfailed.read, hfailed.left⟩

/-! ## Runs -/

/-- Every action either saves what is in memory or leaves the file as it was. -/
theorem perform_settled (h : Ready paths s) {action : Action}
    (hvalues : ∀ value ∈ action.values, Everywhere IsRecoverable value) :
    Settled paths s (action.perform s) := by
  cases action with
  | read => exact (readManifest_settled h).1
  | save members => exact saveManifest_settled h (hvalues _ List.mem_cons_self)
  | populate options => exact populateManifest_settled h hvalues

theorem Settled.ready {result : EStateM.Result Failure Session Manifest}
    (h : Settled paths s result) : Ready paths (sessionOf result) := by
  cases result with
  | ok m after => exact Saved.ready h
  | error failure after => exact Unchanged.ready h

/-- The session after actions, between which any files may be changed from outside as long as the
archive stays ready. -/
inductive Run (paths : Paths) (s : Session) : List Action → Session → Prop where
  | start : Run paths s [] s
  | action {actions : List Action} {t : Session} (action : Action) : Run paths s actions t →
      (∀ value ∈ action.values, Everywhere IsRecoverable value) →
      Run paths s (actions ++ [action]) (sessionOf (action.perform t))
  | outside {actions : List Action} {t : Session} {files : FileSystem} : Run paths s actions t →
      Ready paths { t with files := files } → Run paths s actions { t with files := files }

theorem Run.ready {actions : List Action} (h : Ready paths s) (hrun : Run paths s actions t) :
    Ready paths t := by
  induction hrun with
  | start => exact h
  | action action _ hvalues ih => exact (perform_settled ih hvalues).ready
  | outside _ hready => exact hready

/-- After any run, an action that answers leaves the file with the members of the manifest in
memory. One that fails leaves the file as it was, and if it is a read also the manifest in memory.
Nothing is left at the temporary name. -/
theorem Run.file_spec {actions : List Action} (h : Ready paths s) (hrun : Run paths s actions t)
    {action : Action} (hvalues : ∀ value ∈ action.values, Everywhere IsRecoverable value) :
    (∀ m after, action.perform t = .ok m after →
      after.package.manifest = some m ∧
      (∃ bytes members data, after.files.read paths.manifest = .ok bytes ∧
        Holds bytes members ∧ m.data = .ok data ∧ Members.Same members data) ∧
      NoneLeft t after paths.temporary) ∧
    (∀ failure after, action.perform t = .error failure after →
      (∀ bytes,
        after.files.read paths.manifest = .ok bytes ↔ t.files.read paths.manifest = .ok bytes) ∧
      (action = .read → after.package.manifest = t.package.manifest) ∧
      NoneLeft t after paths.temporary) := by
  have hready := hrun.ready h
  have hsettled := perform_settled hready hvalues
  constructor
  · intro m after hresult
    rw [hresult] at hsettled
    exact ⟨hsettled.manifest, hsettled.held, hsettled.left⟩
  · intro failure after hresult
    rw [hresult] at hsettled
    refine ⟨hsettled.read, ?_, hsettled.left⟩
    rintro rfl
    exact (readManifest_settled hready).2 failure after hresult

theorem ready_storedSession {bytes : Bytes} {members : Members} (h : Holds bytes members)
    (hfloats : Everywhere ReadsBack (.object members)) :
    Ready storedPaths (storedSession bytes) where
  known := rfl
  unhindered := (Manifest.isWritable_storedSession bytes).toUnhindered
  log := Manifest.logElsewhere_storedSession bytes
  file := by
    intro other members' hread hother
    rw [Manifest.read_storedSession] at hread
    obtain rfl : bytes = other := Except.ok.inj hread
    obtain rfl := h.unique hother
    exact hfloats
  manifest _ hm := nomatch hm

/-- Members that cannot be saved. -/
def unwritable : Members := [(Text.ofString "a", .string [⟨0xd800, by decide⟩])]

theorem everywhere_unwritable : Everywhere IsRecoverable (.object unwritable) := by
  refine Json.everywhere_object.mpr ⟨⟨?_, trivial⟩, fun entry hentry => ?_⟩
  · exact List.nodup_singleton _
  · obtain rfl := List.mem_singleton.mp hentry
    exact everywhere_isRecoverable_string _

/-- The bytes of an object without members. -/
def emptyObject : Bytes := Utf8.encodeAny "\x7b\x7d"

theorem holds_emptyObject : Holds emptyObject [] :=
  ⟨Text.ofString "\x7b\x7d", by decide +kernel, by rfl⟩

theorem everywhere_empty {P : Json → Prop} (h : P (.object [])) : Everywhere P (.object []) :=
  Json.everywhere_object.mpr ⟨h, by simp⟩

/-- An archive after a save that failed. -/
def failedSession : Session :=
  sessionOf ((Action.save unwritable).perform (storedSession emptyObject))

/-- An operation ends with an answer. -/
def Answers {α : Type} : EStateM.Result Failure Session α → Bool
  | .ok .. => true
  | .error .. => false

/-- After the failed save a populate fails too, and an empty object can be saved. -/
theorem Run.file_spec_failed :
    (∃ failure after, (Action.populate .default).perform failedSession = .error failure after ∧
      ∀ bytes, after.files.read storedPaths.manifest = .ok bytes ↔
        failedSession.files.read storedPaths.manifest = .ok bytes) ∧
    ∃ m after, (Action.save []).perform failedSession = .ok m after ∧
      after.package.manifest = some m ∧
      ∃ bytes members data, after.files.read storedPaths.manifest = .ok bytes ∧
        Holds bytes members ∧ m.data = .ok data ∧ Members.Same members data := by
  have hready := ready_storedSession holds_emptyObject (everywhere_empty trivial)
  have hrun : Run storedPaths (storedSession emptyObject) [.save unwritable]
      failedSession := Run.action (.save unwritable) .start fun value hvalue => by
    obtain rfl := List.mem_singleton.mp hvalue
    exact everywhere_unwritable
  constructor
  · have hvalues : ∀ value ∈ (Action.populate .default).values,
        Everywhere IsRecoverable value := by
      simp [Action.values, Manifest.Options.default, everywhere_isRecoverable_string]
    obtain ⟨-, hfails⟩ := Run.file_spec hready hrun hvalues
    have hanswers : Answers ((Action.populate .default).perform failedSession) = false := by
      decide +kernel
    cases hresult : (Action.populate .default).perform failedSession with
    | ok m after => simp [hresult, Answers] at hanswers
    | error failure after => exact ⟨failure, after, rfl, (hfails failure after hresult).1⟩
  · have hempty : Everywhere IsRecoverable (.object []) :=
      everywhere_empty ⟨List.nodup_nil, trivial⟩
    have hvalues : ∀ value ∈ (Action.save []).values, Everywhere IsRecoverable value := by
      simpa [Action.values] using hempty
    obtain ⟨hanswer, -⟩ := Run.file_spec hready hrun hvalues
    have hanswers : Answers ((Action.save []).perform failedSession) = true := by decide +kernel
    cases hresult : (Action.save []).perform failedSession with
    | ok m after =>
      obtain ⟨hmanifest, hheld, -⟩ := hanswer m after hresult
      exact ⟨m, after, rfl, hmanifest, hheld⟩
    | error failure after => simp [hresult, Answers] at hanswers

/-- The action fails, and the manifest has not the bytes that it had. -/
def Spoils (action : Action) (s : Session) : Prop :=
  ∃ failure after bytes, action.perform s = .error failure after ∧
    s.files.read storedPaths.manifest = .ok bytes ∧
      after.files.read storedPaths.manifest ≠ .ok bytes

/-- The same, to be computed. -/
def isSpoilt (action : Action) (s : Session) : Bool :=
  match action.perform s, s.files.read storedPaths.manifest with
  | .error _ after, .ok bytes =>
    match after.files.read storedPaths.manifest with
    | .ok content => content ≠ bytes
    | .error _ => true
  | _, _ => false

theorem spoils_of_isSpoilt {action : Action} (h : isSpoilt action s = true) : Spoils action s := by
  unfold isSpoilt at h
  split at h
  · next failure after bytes hresult hread =>
    refine ⟨failure, after, bytes, hresult, hread, fun hafter => ?_⟩
    simp [hafter] at h
  · contradiction

/-- A link to the manifest is at the temporary name. -/
def linkedSession : Session :=
  { storedSession emptyObject with
    files := ⟨[([Text.ofString "manifest.json"], .file 0 emptyObject),
      ([Text.ofString "manifest.json.tmp"], .link "manifest.json")], [], 1, by decide⟩ }

/-- The manifest is a link to the temporary name. -/
def reversedSession : Session :=
  { storedSession emptyObject with
    files := ⟨[([Text.ofString "manifest.json.tmp"], .file 0 emptyObject),
      ([Text.ofString "manifest.json"], .link "manifest.json.tmp")], [], 1, by decide⟩ }

/-- The log is kept in the manifest, which has no identifier and cannot be saved with one. -/
def loggingSession : Session :=
  { storedSession (Utf8.encodeAny "\x7b\"a\": \"\\ud800\"\x7d") with
    journal := { Log.Journal.empty with outputs := some ⟨.info, some 0⟩ } }

/-- The action answers, and the manifest holds no object. -/
def Garbles (action : Action) (s : Session) : Prop :=
  ∃ m after bytes, action.perform s = .ok m after ∧
    after.files.read storedPaths.manifest = .ok bytes ∧ ∀ members, ¬Holds bytes members

/-- The same, to be computed. -/
def isGarbled (action : Action) (s : Session) : Bool :=
  match action.perform s with
  | .ok _ after =>
    match after.files.read storedPaths.manifest with
    | .ok bytes =>
      match Utf8.decode bytes with
      | .ok text =>
        match Json.parse text with
        | .ok _ => false
        | .error _ => true
      | .error _ => true
    | .error _ => false
  | .error .. => false

theorem garbles_of_isGarbled {action : Action} (h : isGarbled action s = true) :
    Garbles action s := by
  unfold isGarbled at h
  split at h
  · next m after hresult =>
    split at h
    · next bytes hread =>
      refine ⟨m, after, bytes, hresult, hread, ?_⟩
      rintro members ⟨text, htext, hparse⟩
      simp [htext, hparse] at h
    · contradiction
  · contradiction

/-- The log is kept at the temporary name. -/
def tangledSession : Session :=
  { storedSession emptyObject with
    files := ⟨[([Text.ofString "manifest.json"], .file 0 emptyObject),
      ([Text.ofString "manifest.json.tmp"], .file 1 [])], [], 2, by decide⟩
    journal := { Log.Journal.empty with outputs := some ⟨.debug, some 1⟩ } }

/-- A failure does change the manifest where a link at the temporary name leads to it, where it is
itself a link to that name, and where the log is kept in it. Where the log is kept at the temporary
name, the manifest is not the object that has been saved. -/
theorem hindered_spoils :
    Spoils (.save unwritable) linkedSession ∧ Spoils (.save unwritable) reversedSession ∧
      Spoils .read loggingSession ∧ Garbles (.save []) tangledSession :=
  ⟨spoils_of_isSpoilt (by decide +kernel), spoils_of_isSpoilt (by decide +kernel),
    spoils_of_isSpoilt (by decide +kernel), garbles_of_isGarbled (by decide +kernel)⟩

end Package
end GameArchive
