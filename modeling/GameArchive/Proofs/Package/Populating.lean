import GameArchive.Proofs.FileSystem.Finish
import GameArchive.Proofs.Package.Runs

/-!
# Populating a manifest

Defaults are put under the manifest in memory, and all of it is saved: every member stays, and of
the conventional members those come in that were missing. After that none is missing, so populating
again, with whatever options, gives the same manifest, its members in the same order, and a file of
the same bytes.
-/

namespace GameArchive

open Json (Everywhere HoldsNoSurrogate IsShort HasDistinctNames ReadsBack)
open Utf8 (IsEncodable)

/-- A value that can be saved: no text in it has a surrogate, and no integer is too long. -/
structure Json.IsSavable (j : Json) : Prop where
  encodable : HoldsNoSurrogate j
  short : IsShort j

open Json (IsSavable)

namespace Manifest

variable {m : Manifest} {existing members : Members} {id : Text} {options : Options}

/-! ## Manifests in memory -/

/-- A manifest that can be written: what is kept beside the fields is no field and has distinct
names, and no value hides the operations that write it. -/
structure IsUsable (m : Manifest) : Prop where
  extras : ∀ entry ∈ m.extras, Field.ofName? entry.1 = none
  distinct : m.extras.names.Nodup
  data : m.data = .ok m.members

theorem IsPlain.isUsable (h : m.IsPlain) : m.IsUsable :=
  ⟨h.extras, h.distinct, data_of_isPlain h⟩

theorem IsUsable.nodup_names (h : m.IsUsable) : m.members.names.Nodup :=
  nodup_names_members (m := { m with hidden := [] }) ⟨rfl, h.extras, h.distinct⟩

theorem data_eq : m.data = .ok m.members ↔
    m.hidden.get? (Text.ofString "toData") = none ∧
      m.hidden.get? (Text.ofString "model_dump") = none := by
  rw [data, offers, List.findSome?_cons, List.findSome?_cons, List.findSome?_nil]
  cases m.hidden.get? (Text.ofString "toData") with
  | some value => simp [bind, Except.bind]
  | none =>
    cases m.hidden.get? (Text.ofString "model_dump") with
    | some value => simp [bind, Except.bind]
    | none => exact iff_of_true rfl ⟨rfl, rfl⟩

/-- Setting attributes keeps a manifest usable, but for the two operations that write it. -/
theorem IsUsable.set (h : m.IsUsable) {name : Text} {value : Json} {after : Manifest}
    (hset : m.set name value = .ok after) (hdata : name ≠ Text.ofString "toData")
    (hdump : name ≠ Text.ofString "model_dump") : after.IsUsable := by
  have hshown := data_eq.mp h.data
  have hhide : (m.hide name value).IsUsable := by
    refine ⟨h.extras, h.distinct, data_eq.mpr ?_⟩
    rw [hide, Members.get?_put, Members.get?_put, if_neg hdata, if_neg hdump]
    exact hshown
  unfold Manifest.set at hset
  split at hset
  · split at hset <;> cases hset
    exact hhide
  split at hset
  · cases hset
    exact hhide
  split at hset
  · cases hset
    exact ⟨h.extras, h.distinct, data_eq.mpr hshown⟩
  · next hname =>
    cases hset
    refine ⟨fun entry hentry => ?_, Members.nodup_put h.distinct name value,
      data_eq.mpr hshown⟩
    obtain hentry | rfl := Members.mem_put hentry
    · exact h.extras entry hentry
    · exact hname

/-! ## Defaults -/

theorem ofName?_ne_none_of_mem_defaults {name : Text}
    (h : name ∈ (defaults id options).names) : Field.ofName? name ≠ none := by
  rw [names_defaults] at h
  revert name
  decide

/-- A populated manifest has what was there, and the defaults for what was missing. -/
theorem get?_populated (h : existing.names.Nodup) (id : Text) (options : Options) (name : Text) :
    (ofMembers (applyDefaults existing (defaults id options))).members.get? name =
      (existing.get? name).or ((defaults id options).get? name) := by
  have hnames := Members.nodup_putAll (nodup_names_defaults id options) existing
  rw [applyDefaults, same_members_ofMembers hnames, Members.get?_putAll h]

/-- Defaults add nothing where none of them is missing, and change no order. -/
theorem ofMembers_applyDefaults (h : m.IsPlain)
    (hpresent : ∀ name ∈ (defaults id options).names, name ∈ m.members.names) :
    ofMembers (applyDefaults m.members (defaults id options)) = m := by
  have hget : ∀ name, (applyDefaults m.members (defaults id options)).get? name =
      m.members.get? name := by
    intro name
    rw [applyDefaults, Members.get?_putAll (nodup_names_members h)]
    cases hvalue : m.members.get? name with
    | some value => rfl
    | none =>
      have hmissing := mt (hpresent name) (Members.get?_eq_none.mp hvalue)
      rw [Members.get?_eq_none.mpr hmissing]
      rfl
  have hextras : (applyDefaults m.members (defaults id options)).filter
      (fun entry => (Field.ofName? entry.1).isNone) =
        m.members.filter fun entry => (Field.ofName? entry.1).isNone := by
    have hfields : (defaults id options).filter
        (fun entry => (Field.ofName? entry.1).isNone) = [] := by
      rw [List.filter_eq_nil_iff]
      intro entry hentry
      simp [ofName?_ne_none_of_mem_defaults (Members.mem_names_of_mem hentry)]
    rw [applyDefaults, Members.filter_putAll fun name => (Field.ofName? name).isNone, hfields]
    exact Members.ofList_eq_self ((List.filter_sublist.map _).nodup (nodup_names_members h))
  calc ofMembers (applyDefaults m.members (defaults id options))
      = ofMembers m.members := by
        rw [ofMembers, ofMembers]
        exact (Manifest.mk.injEq ..).mpr ⟨funext fun field => hget field.name, hextras, rfl⟩
    _ = m := ofMembers_members h

/-- What is saved of existing members and defaults can be saved if both can. -/
theorem everywhere_isSavable_populated
    (hexisting : Everywhere IsSavable (.object existing)) (hid : IsEncodable id)
    (hvalues : Everywhere IsSavable options.shortName ∧ Everywhere IsSavable options.title) :
    Everywhere IsSavable
      (.object (ofMembers (applyDefaults existing (defaults id options))).members) := by
  have hdefaults := Members.nodup_putAll (nodup_names_defaults id options) existing
  have hstudio : IsSavable defaultStudio := by
    refine ⟨fun name hname => ?_, trivial⟩
    simp only [Members.names, List.map_cons, List.map_nil, List.mem_cons, List.not_mem_nil,
      or_false] at hname
    obtain rfl | rfl | rfl := hname <;> exact Utf8.isEncodable_ofString _
  have hgiven : ∀ entry ∈ defaults id options, Everywhere IsSavable entry.2 :=
    Package.everywhere_defaults (fun _ ht => ⟨ht, trivial⟩) hstudio ⟨trivial, trivial⟩ hid
      (by simpa [Package.Action.values] using hvalues)
  have hentries : ∀ entry ∈ (ofMembers (applyDefaults existing (defaults id options))).members,
      Everywhere IsSavable entry.2 ∧ IsEncodable entry.1 := by
    intro entry hentry
    obtain hentry | hentry := Members.mem_putAll ((mem_members_ofMembers hdefaults).mp hentry)
    · refine ⟨hgiven entry hentry, ?_⟩
      have hname := Members.mem_names_of_mem hentry
      rw [names_defaults] at hname
      simp only [List.mem_cons, List.not_mem_nil, or_false] at hname
      obtain h | h | h | h | h := hname <;> exact h ▸ Field.isEncodable_name _
    · exact ⟨(Json.everywhere_object.mp hexisting).2 entry hentry,
        hexisting.self.encodable _ (Members.mem_names_of_mem hentry)⟩
  refine Json.everywhere_object.mpr ⟨⟨fun name hname => ?_, trivial⟩, fun entry hentry =>
    (hentries entry hentry).1⟩
  obtain ⟨entry, hentry, rfl⟩ := List.mem_map.mp hname
  exact (hentries entry hentry).2

end Manifest

namespace Package

open Operation
open AtomicWrite (IsReplaceable IsAt temporary?)
open Manifest (storedPaths storedSession)

variable {s after : Session} {paths : Paths} {file temporary : Path} {members : Members}

/-! ## Saves that succeed -/

/-- Nothing is in the way of a save: the file can be replaced, its temporary file can be made, and
the log is not kept at the temporary name. -/
structure CanSave (s : Session) (file temporary : Path) : Prop where
  replaceable : IsReplaceable s.files file temporary
  log : ∀ outputs number, s.journal.outputs = some outputs → outputs.file = some number →
    number < s.files.made ∧ ¬IsAt s.files temporary number
  creatable : ∃ made, s.files.create temporary = .ok made

/-- Members that can be saved are, and then others can be. -/
theorem writeMembers_of_canSave (h : CanSave s file temporary)
    (hnamed : temporary? file = some temporary)
    (hmembers : Everywhere IsSavable (.object members)) :
    ∃ journal files bytes,
      Manifest.writeMembers file members s = .ok () { s with journal := journal, files := files } ∧
      Utf8.encode (Manifest.fileText members) = .ok bytes ∧ files.read file = .ok bytes ∧
      CanSave { s with journal := journal, files := files } file temporary := by
  have hbytes := Utf8.encode_eq
    (Manifest.isEncodable_fileText.mpr (hmembers.imp fun _ hv => hv.encodable))
  have hshort := Json.hasLongInteger_eq_false.mpr (hmembers.imp fun _ hv => hv.short)
  obtain ⟨files, hwritten, hput⟩ :=
    AtomicWrite.exists_written h.replaceable hnamed h.creatable hbytes
  have hwrite := writeText_eq file (Manifest.fileText members) s
  rw [hwritten] at hwrite
  have hstored := stored_of_written hnamed h.log hput
  obtain ⟨journal, logged, hlog, houtputs, hlogged⟩ := log_eq .debug Manifest.logger
    ("Saved manifest '" ++ file.text ++ "' (" ++ Text.ofNat members.length ++ " keys)")
    { s with files := files }
  have hkept : Stored s { s with journal := journal, files := logged } file temporary _ :=
    hstored.kept (kept_of_logged hstored.unhindered hstored.log hlogged houtputs)
  obtain ⟨made, hmade⟩ := h.creatable
  obtain ⟨again, hagain⟩ :=
    hput.exists_create hnamed (FileSystem.create_eq_ok.mp hmade).1
  refine ⟨journal, logged, _, ?_, hbytes, hkept.read, hkept.unhindered.clear.isReplaceable,
    hkept.unhindered.log, hlogged.exists_create hagain⟩
  unfold Manifest.writeMembers writeJson
  rw [hshort, if_neg Bool.false_ne_true]
  exact (bind_of_ok hwrite _).trans hlog

/-- What a save leaves behind: the manifest of the members in memory, and its bytes in the file. -/
structure Holding (paths : Paths) (after : Session) (m : Manifest) (bytes : Bytes) : Prop where
  package : after.package = ⟨some paths, some m⟩
  encoded : Utf8.encode (Manifest.fileText m.members) = .ok bytes
  read : after.files.read paths.manifest = .ok bytes
  canSave : CanSave after paths.manifest paths.temporary

theorem saveManifest_of_canSave (hknown : s.package.paths = some paths)
    (h : CanSave s paths.manifest paths.temporary) (hnames : members.names.Nodup)
    (hmembers : Everywhere IsSavable (.object (Manifest.ofMembers members).members)) :
    ∃ after bytes, saveManifest members s = .ok (Manifest.ofMembers members) after ∧
      Holding paths after (Manifest.ofMembers members) bytes := by
  have hencodable : ∀ name ∈ members.names, IsEncodable name := by
    intro name hname
    obtain ⟨entry, hentry, rfl⟩ := List.mem_map.mp hname
    exact hmembers.self.encodable _ (Members.mem_names_of_mem
      ((Manifest.mem_members_ofMembers hnames).mpr hentry))
  rw [saveManifest, Manifest.ofTable?_of_encodable hnames hencodable, save_of_ok hknown]
  have hready : CanSave
      { s with package := { s.package with manifest := some (Manifest.ofMembers members) } }
      paths.manifest paths.temporary := ⟨h.replaceable, h.log, h.creatable⟩
  obtain ⟨journal, files, bytes, hwrite, hbytes, hread, hafter⟩ :=
    writeMembers_of_canSave hready paths.temporary?_manifest hmembers
  exact ⟨_, bytes, bind_of_ok hwrite _, by rw [← hknown], hbytes, hread, hafter⟩

/-! ## Populating -/

/-- What is in memory can be written and saved. -/
def KeepsSavable (p : Package) : Prop :=
  ∀ m, p.manifest = some m → m.IsUsable ∧ Everywhere IsSavable (.object m.members)

theorem KeepsSavable.inMemory {p : Package} (h : KeepsSavable p) :
    p.inMemory.names.Nodup ∧ Everywhere IsSavable (.object p.inMemory) := by
  unfold Package.inMemory
  cases hmanifest : p.manifest with
  | none =>
    exact ⟨List.nodup_nil, Json.everywhere_object.mpr ⟨⟨by simp [HoldsNoSurrogate, Members.names],
      trivial⟩, by simp⟩⟩
  | some m => exact ⟨(h m hmanifest).1.nodup_names, (h m hmanifest).2⟩

/-- A populated manifest is saved with what was in memory and the defaults that were missing. -/
theorem populateManifest_of_canSave (hknown : s.package.paths = some paths)
    (h : CanSave s paths.manifest paths.temporary) (hkept : KeepsSavable s.package)
    {options : Manifest.Options}
    (hvalues : Everywhere IsSavable options.shortName ∧ Everywhere IsSavable options.title) :
    ∃ m after bytes, populateManifest options s = .ok m after ∧ Holding paths after m bytes ∧
      m.IsPlain ∧ Everywhere IsSavable (.object m.members) ∧
      ∀ name, m.members.get? name = (s.package.inMemory.get? name).or
        ((Manifest.defaults (Identifier.ofNumber (s.identifiers + 1)) options).get? name) := by
  obtain ⟨hnames, hmembers⟩ := hkept.inMemory
  have hsavable := Manifest.everywhere_isSavable_populated hmembers
    (Manifest.isEncodable_ofNumber (s.identifiers + 1)) hvalues
  have hpopulated := Members.nodup_putAll
    (Manifest.nodup_names_defaults (Identifier.ofNumber (s.identifiers + 1)) options)
    s.package.inMemory
  have hready : CanSave { s with identifiers := s.identifiers + 1 } paths.manifest
      paths.temporary := ⟨h.replaceable, h.log, h.creatable⟩
  obtain ⟨after, bytes, hsave, hholding⟩ := saveManifest_of_canSave
    (s := { s with identifiers := s.identifiers + 1 }) hknown hready hpopulated hsavable
  refine ⟨_, after, bytes, ?_, hholding, Manifest.isPlain_ofMembers hpopulated, hsavable,
    Manifest.get?_populated hnames _ options⟩
  rw [populateManifest_eq fun m hm => (hkept m hm).1.data]
  exact hsave

/-- Where no default is missing, the manifest in memory is saved as it is. -/
theorem populateManifest_of_present {m : Manifest} (hpackage : s.package = ⟨some paths, some m⟩)
    (h : CanSave s paths.manifest paths.temporary) (hplain : m.IsPlain)
    (hmembers : Everywhere IsSavable (.object m.members)) {options : Manifest.Options}
    (hpresent : ∀ name ∈
      (Manifest.defaults (Identifier.ofNumber (s.identifiers + 1)) options).names,
      name ∈ m.members.names) :
    ∃ after bytes, populateManifest options s = .ok m after ∧ Holding paths after m bytes := by
  have hdata : ∀ other, s.package.manifest = some other → other.data = .ok other.members := by
    rw [hpackage]
    rintro other ⟨⟩
    exact Manifest.data_of_isPlain hplain
  have hsame := Manifest.ofMembers_applyDefaults hplain hpresent
  have hinMemory : s.package.inMemory = m.members := by rw [hpackage, Package.inMemory]
  have hready : CanSave { s with identifiers := s.identifiers + 1 } paths.manifest
      paths.temporary := ⟨h.replaceable, h.log, h.creatable⟩
  have hsave := saveManifest_of_canSave (s := { s with identifiers := s.identifiers + 1 })
    (by rw [hpackage]) hready (Members.nodup_putAll (Manifest.nodup_names_defaults
      (Identifier.ofNumber (s.identifiers + 1)) options) m.members) (by
        rw [← Manifest.applyDefaults, hsame]
        exact hmembers)
  rw [← Manifest.applyDefaults, hsame] at hsave
  rw [populateManifest_eq hdata, hinMemory]
  exact hsave

/-- Populating saves every member that was in memory and, of the conventional ones, those that were
missing. Populating again, with any options, answers the same manifest and leaves the same bytes in
the file. -/
theorem populateManifest_twice (hknown : s.package.paths = some paths)
    (h : CanSave s paths.manifest paths.temporary) (hkept : KeepsSavable s.package)
    {options : Manifest.Options}
    (hvalues : Everywhere IsSavable options.shortName ∧ Everywhere IsSavable options.title)
    (others : Manifest.Options) :
    ∃ m after bytes, populateManifest options s = .ok m after ∧
      after.package.manifest = some m ∧ m.data = .ok m.members ∧
      Utf8.encode (Manifest.fileText m.members) = .ok bytes ∧
      after.files.read paths.manifest = .ok bytes ∧
      (Everywhere HasDistinctNames (.object m.members) →
        Everywhere ReadsBack (.object m.members) → Manifest.Holds bytes m.members) ∧
      (∀ name, m.members.get? name = (s.package.inMemory.get? name).or
        ((Manifest.defaults (Identifier.ofNumber (s.identifiers + 1)) options).get? name)) ∧
      ∃ again, populateManifest others after = .ok m again ∧
        again.package.manifest = some m ∧ again.files.read paths.manifest = .ok bytes := by
  obtain ⟨m, after, bytes, hpopulate, hholding, hplain, hmembers, hget⟩ :=
    populateManifest_of_canSave hknown h hkept hvalues
  have hpresent : ∀ name ∈
      (Manifest.defaults (Identifier.ofNumber (after.identifiers + 1)) others).names,
      name ∈ m.members.names := by
    intro name hname
    by_contra hmissing
    rw [← Members.get?_eq_none, hget, Option.or_eq_none_iff, Members.get?_eq_none,
      Members.get?_eq_none] at hmissing
    exact hmissing.2 hname
  obtain ⟨again, bytes', hagain, hholding'⟩ :=
    populateManifest_of_present hholding.package hholding.canSave hplain hmembers hpresent
  obtain rfl : bytes = bytes' := Except.ok.inj (hholding.encoded.symm.trans hholding'.encoded)
  refine ⟨m, after, bytes, hpopulate, by rw [hholding.package], Manifest.data_of_isPlain hplain,
    hholding.encoded, hholding.read, fun hdistinct hfloats => ?_, hget, again, hagain,
    by rw [hholding'.package], hholding'.read⟩
  exact Manifest.holds_fileText
    (fun v hv => ⟨hdistinct v hv, (hmembers v hv).short, hfloats v hv⟩) hholding.encoded

/-- A manifest with a title that is null and a member of its own. -/
def sparseManifest : Manifest :=
  .ofMembers [(Field.title.name, .null), (Text.ofString "a", .int 1)]

def sparseSession : Session :=
  { storedSession emptyObject with package := ⟨some storedPaths, some sparseManifest⟩ }

theorem canSave_storedSession (bytes : Bytes) :
    CanSave (storedSession bytes) storedPaths.manifest storedPaths.temporary :=
  have h := Manifest.isWritable_storedSession bytes
  ⟨h.clear.isReplaceable, h.log, h.creatable⟩

theorem keepsSavable_sparseSession : KeepsSavable sparseSession.package := by
  have hdistinct : Members.names [(Field.title.name, Json.null), (Text.ofString "a", .int 1)]
      |>.Nodup := by decide
  have hmembers : sparseManifest.members =
      [(Field.title.name, .null), (Text.ofString "a", .int 1)] := rfl
  rintro m ⟨⟩
  refine ⟨(Manifest.isPlain_ofMembers hdistinct).isUsable, ?_⟩
  rw [hmembers]
  refine Json.everywhere_object.mpr ⟨⟨fun name hname => ?_, trivial⟩, fun entry hentry => ?_⟩
  · simp only [Members.names, List.map_cons, List.map_nil, List.mem_cons, List.not_mem_nil,
      or_false] at hname
    obtain rfl | rfl := hname
    · exact Field.isEncodable_name .title
    · exact Utf8.isEncodable_ofString "a"
  · simp only [List.mem_cons, List.not_mem_nil, or_false] at hentry
    obtain rfl | rfl := hentry
    · exact (Json.everywhere_of_scalar (by simp) (by simp)).mpr ⟨trivial, trivial⟩
    · have hshort : (Text.ofNat 1).length ≤ Json.Reader.digitLimit := by decide
      exact (Json.everywhere_of_scalar (by simp) (by simp)).mpr ⟨trivial, hshort⟩

def sparseOptions : Manifest.Options := ⟨.string "b", .string "c"⟩

/-- A title that is null stays, and so does the short name when it is asked for another one. -/
theorem populateManifest_twice_sparse :
    ∃ m after again, populateManifest sparseOptions sparseSession = .ok m after ∧
      m.members.get? Field.title.name = some .null ∧
      m.members.get? Field.shortName.name = some (.string "b") ∧
      m.members.get? (Text.ofString "a") = some (.int 1) ∧
      populateManifest ⟨.null, .null⟩ after = .ok m again := by
  have hstring : ∀ s : String, Everywhere IsSavable (.string (Text.ofString s)) := fun s =>
    (Json.everywhere_of_scalar (by simp) (by simp)).mpr ⟨Utf8.isEncodable_ofString s, trivial⟩
  have hvalues : Everywhere IsSavable sparseOptions.shortName ∧
      Everywhere IsSavable sparseOptions.title := ⟨hstring "b", hstring "c"⟩
  obtain ⟨h, hlog, hcreatable⟩ := canSave_storedSession emptyObject
  obtain ⟨m, after, -, hfirst, -, -, -, -, -, hget, again, hsecond, -⟩ :=
    populateManifest_twice (s := sparseSession) rfl ⟨h, hlog, hcreatable⟩
      keepsSavable_sparseSession hvalues ⟨.null, .null⟩
  exact ⟨m, after, again, hfirst, hget _, hget _, hget _, hsecond⟩

/-- Populating answers twice, and the file is not the same after the second time. -/
def Drifts (s : Session) : Prop :=
  ∃ m after n again, populateManifest .default s = .ok m after ∧
    populateManifest .default after = .ok n again ∧
    again.files.read storedPaths.manifest ≠ after.files.read storedPaths.manifest

/-- The same, to be computed. -/
def isDrifting (s : Session) : Bool :=
  match populateManifest .default s with
  | .ok _ after =>
    match populateManifest .default after with
    | .ok _ again =>
      again.files.read storedPaths.manifest ≠ after.files.read storedPaths.manifest
    | .error .. => false
  | .error .. => false

theorem drifts_of_isDrifting (h : isDrifting s = true) : Drifts s := by
  unfold isDrifting at h
  split at h
  · next m after hfirst =>
    split at h
    · next n again hsecond => exact ⟨m, after, n, again, hfirst, hsecond, by simpa using h⟩
    · contradiction
  · contradiction

/-- A value hides the operation that writes the manifest. -/
def shadowedSession : Session :=
  { storedSession emptyObject with
    package := ⟨some storedPaths, some (sparseManifest.hide "toData" (.int 5))⟩ }

/-- An integer of 4301 digits is in memory. -/
def longSession : Session :=
  { storedSession emptyObject with
    package := ⟨some storedPaths,
      some (sparseManifest.setField .studio (.int (Int.ofNat (Nat.pow 10 4300))))⟩ }

/-- The file does not stay the same where a link at the temporary name leads to it and where the log
is kept at that name. Where the manifest in memory cannot be written, nothing is populated. -/
theorem hindered_drifts :
    Drifts linkedSession ∧ Drifts tangledSession ∧
      Answers (populateManifest .default shadowedSession) = false ∧
      Answers (populateManifest .default longSession) = false :=
  ⟨drifts_of_isDrifting (by decide +kernel), drifts_of_isDrifting (by decide +kernel),
    by decide +kernel, by decide +kernel⟩

end Package
end GameArchive
