import GameArchive.Proofs.Manifest.Store

/-!
# What a read answers

A file with the text of an object is read as a manifest of the members of the object, which gets a
valid identifier if it has none and then is what the file holds, so that another read answers the
same. The one thing in the way of a read is a surrogate: in a name always, in a value only if there
is something to save.
-/

namespace GameArchive

/-- The file that is written first when the manifest is saved. -/
def Paths.temporary (paths : Paths) : Path := paths.root.child "manifest.json.tmp"

theorem Paths.temporary?_manifest (paths : Paths) :
    AtomicWrite.temporary? paths.manifest = some paths.temporary := by
  have hname : paths.manifest.name = Paths.manifestName := by
    simp [Paths.manifest, Path.child, Path.name]
  have hcut : (Path.cutName Paths.manifestName).1 ++
      ((Path.cutName Paths.manifestName).2 ++ Text.ofString ".tmp") =
        Text.ofString "manifest.json.tmp" := by decide +kernel
  rw [AtomicWrite.temporary?, Path.withSuffix?, Path.stem, Path.suffix, hname, hcut,
    if_neg (by decide)]
  simp [Paths.manifest, Path.child, Paths.temporary]

namespace Manifest

open Utf8 (IsEncodable)
open Json (Everywhere HoldsNoSurrogate IsReadable ReadsBack)

variable {s : Session} {file temporary : Path} {bytes : Bytes} {members : Members}

/-- The file can be written: its temporary file can be made, and saves are unhindered. -/
structure IsWritable (s : Session) (file temporary : Path) : Prop
    extends Unhindered s file temporary where
  creatable : ∃ made, s.files.create temporary = .ok made

/-- The paths of an archive in the topmost directory. -/
def storedPaths : Paths := ⟨⟨.root, []⟩⟩

/-- A session with an archive of one file, a manifest that holds these bytes. -/
def storedSession (bytes : Bytes) : Session :=
  { Session.start ⟨[([Paths.manifestName], .file 0 bytes)], [], 1, by simp⟩ with
    package := ⟨some storedPaths, none⟩ }

theorem read_storedSession (bytes : Bytes) :
    (storedSession bytes).files.read storedPaths.manifest = .ok bytes := rfl

theorem lookup_storedSession (bytes : Bytes) (follow : Bool) :
    (storedSession bytes).files.lookup follow storedPaths.temporary =
      .ok (.free [Text.ofString "manifest.json.tmp"]) := rfl

theorem isWritable_storedSession (bytes : Bytes) :
    IsWritable (storedSession bytes) storedPaths.manifest storedPaths.temporary where
  named := storedPaths.temporary?_manifest
  clear := {
    numbered := FileSystem.isNumbered_of_entries (by simp [storedSession, Session.start])
    link := by simp [lookup_storedSession]
    apart := by
      rintro number ⟨place, content, hfound⟩
      simp [lookup_storedSession] at hfound
    leads := fun _ _ _ => ⟨0, [Paths.manifestName], bytes, rfl⟩ }
  log _ _ houtputs := nomatch houtputs
  creatable := ⟨_, rfl⟩

theorem logElsewhere_storedSession (bytes : Bytes) :
    LogElsewhere (storedSession bytes) storedPaths.manifest := fun _ _ houtputs => nomatch houtputs

/-- All members can be saved and read back, if their numbers can. -/
theorem holds_fileText (h : Everywhere IsReadable (.object members))
    (hbytes : Utf8.encode (fileText members) = .ok bytes) : Holds bytes members := by
  obtain ⟨hencodable, rfl⟩ := Utf8.encode_eq_ok.mp hbytes
  exact ⟨fileText members, Utf8.decode_encodeAny hencodable, Json.parse_indented h⟩

theorem everywhere_isReadable (h : Holds bytes members)
    (hfloats : Everywhere ReadsBack (.object members)) :
    Everywhere IsReadable (.object members) := fun v hv =>
  ⟨(h.everywhere v hv).1, (h.everywhere v hv).2, hfloats v hv⟩

theorem everywhere_isReadable_withId (h : Everywhere IsReadable (.object members)) (id : Text) :
    Everywhere IsReadable (.object (withId members id).members) := by
  have hnames : members.names.Nodup := h.self.names
  refine (everywhere_withId hnames ?_ ⟨trivial, trivial, trivial⟩).mpr fun entry hentry _ => ?_
  · exact ⟨nodup_names_members (isPlain_withId hnames id), trivial, trivial⟩
  · exact (Json.everywhere_object.mp h).2 entry hentry

/-- A manifest with a valid identifier that a file holds is read without any change. -/
theorem read_of_holds {m : Manifest} (hread : s.files.read file = .ok bytes)
    (hplain : m.IsPlain) (hholds : Holds bytes m.members)
    (hnames : ∀ name ∈ m.members.names, IsEncodable name) (hvalid : m.hasValidId = true) :
    Manifest.read file s = .ok m s := by
  rw [read_eq hread, ofBytes_of_holds hholds,
    ofTable?_of_encodable (nodup_names_members hplain) hnames, ofMembers_members hplain]
  exact heal_of_valid hvalid

/-- What is read has a valid identifier and the members of the object in the file, but for the
identifier where that was not valid. Then the file holds all members that are answered, and
otherwise nothing has changed. Another read answers the same and changes nothing. -/
theorem read_heals (h : IsWritable s file temporary) (hread : s.files.read file = .ok bytes)
    (hmembers : Holds bytes members)
    (hencodable : Everywhere HoldsNoSurrogate (.object members))
    (hfloats : Everywhere ReadsBack (.object members)) :
    ∃ m after data, Manifest.read file s = .ok m after ∧ m.hasValidId = true ∧
      m.data = .ok data ∧
      (isValidId ((members.get? Field.appId.name).getD .null) = true →
        Members.Same data members ∧ after = s) ∧
      (isValidId ((members.get? Field.appId.name).getD .null) = false →
        (∀ name ≠ Field.appId.name, Members.get? data name = members.get? name) ∧
          ∃ written, Utf8.encode (fileText data) = .ok written ∧
            after.files.read file = .ok written) ∧
      Manifest.read file after = .ok m after := by
  have houtcome := read_outcome h.toUnhindered hread
  generalize hresult : Manifest.read file s = result at houtcome
  cases houtcome with
  | unparsed hnone => exact absurd hmembers (hnone members)
  | unnamed hmembers' hname hsurrogate =>
    obtain rfl := hmembers.unique hmembers'
    exact absurd (hencodable.self _ hname) hsurrogate
  | valid hmembers' hnames hvalid =>
    obtain rfl := hmembers.unique hmembers'
    have hplain := isPlain_ofMembers hmembers.nodup
    refine ⟨_, s, _, rfl, hvalid, data_of_isPlain hplain, fun _ => ⟨?_, rfl⟩, fun hnot => ?_,
      hresult⟩
    · exact same_members_ofMembers hmembers.nodup
    · exact absurd (hvalid.symm.trans hnot) (by simp)
  | unsaved hmembers' hnames hvalid hid hwhy =>
    obtain rfl := hmembers.unique hmembers'
    obtain hunmade | ⟨fault, hfault, -⟩ := hwhy
    · obtain ⟨made, hmade⟩ := h.creatable
      exact absurd hmade (hunmade made)
    · have htext := (isEncodable_fileText_withId hmembers.nodup hnames hid).mpr
        fun entry hentry _ => (Json.everywhere_object.mp hencodable).2 entry hentry
      exact absurd htext (Utf8.not_isEncodable_of_encode hfault)
  | @healed written _ id after hmembers' hnames hvalid hne hid hbytes hstored =>
    obtain rfl := hmembers.unique hmembers'
    have hplain := isPlain_withId hmembers.nodup id
    have hreadable := everywhere_isReadable_withId (everywhere_isReadable hmembers hfloats) id
    refine ⟨_, after, _, rfl, hasValidId_withId hne, data_of_isPlain hplain, fun hnot => ?_,
      fun _ => ⟨fun name hname => ?_, written, hbytes, hstored.read⟩, ?_⟩
    · exact absurd (hvalid.symm.trans hnot) (by simp)
    · rw [withId, get?_members_setField (isPlain_ofMembers hmembers.nodup), if_neg hname]
      exact same_members_ofMembers hmembers.nodup name
    · refine read_of_holds hstored.read hplain (holds_fileText hreadable hbytes) ?_
        (hasValidId_withId hne)
      exact (isEncodable_fileText.mp (Utf8.encode_eq_ok.mp hbytes).1).self

/-- A fraction survives when the archive gets an identifier. -/
theorem read_heals_fraction :
    ∃ m after data, Manifest.read storedPaths.manifest
        (storedSession (Utf8.encodeAny "\x7b\"title\": 1.5\x7d")) = .ok m after ∧
      m.hasValidId = true ∧ m.data = .ok data ∧
      Members.get? data Field.title.name = some (.float (.finite false 6755399441055744 (-52))) ∧
      Manifest.read storedPaths.manifest after = .ok m after := by
  have hmembers : Holds (Utf8.encodeAny "\x7b\"title\": 1.5\x7d")
      [(Field.title.name, .float (.finite false 6755399441055744 (-52)))] :=
    ⟨Text.ofString "\x7b\"title\": 1.5\x7d", by decide +kernel, by rfl⟩
  have hencodable : Everywhere HoldsNoSurrogate
      (.object [(Field.title.name, .float (.finite false 6755399441055744 (-52)))]) := by
    simp only [Json.everywhere_object, List.mem_singleton, forall_eq]
    refine ⟨?_, (Json.everywhere_of_scalar (by simp) (by simp)).mpr trivial⟩
    intro name hname
    obtain rfl := List.mem_singleton.mp hname
    exact Field.isEncodable_name .title
  have hfloats : Everywhere ReadsBack
      (.object [(Field.title.name, .float (.finite false 6755399441055744 (-52)))]) := by
    simp only [Json.everywhere_object, List.mem_singleton, forall_eq]
    exact ⟨trivial, (Json.everywhere_of_scalar (by simp) (by simp)).mpr fun _ => by rfl⟩
  obtain ⟨m, after, data, hread, hvalid, hdata, -, hhealed, hagain⟩ :=
    read_heals (isWritable_storedSession _) (read_storedSession _) hmembers hencodable hfloats
  obtain ⟨hsame, -⟩ := hhealed (by decide +kernel)
  exact ⟨m, after, data, hread, hvalid, hdata, hsame _ (by decide), hagain⟩

/-- The members can be read: no surrogate is in a name, and none in a value that would have to be
saved with a new identifier. -/
def IsLegible (members : Members) : Prop :=
  (∀ name ∈ members.names, IsEncodable name) ∧
    (isValidId ((members.get? Field.appId.name).getD .null) = true ∨
      ∀ entry ∈ members, entry.1 ≠ Field.appId.name → Everywhere HoldsNoSurrogate entry.2)

/-- Why a read of these bytes fails. -/
inductive Illegible (file : Path) (bytes : Bytes) : Failure → Prop where
  | unparsed {contents : Text} {fault : ManifestFault} : (∀ members, ¬Holds bytes members) →
      Illegible file bytes (.manifest file contents fault)
  | unnamed {members : Members} {name : Text} : Holds bytes members → name ∈ members.names →
      ¬IsEncodable name →
      Illegible file bytes (.validation model [.about [] .stringUnicode (.string name)])
  | unsaved {members : Members} {fault : Utf8.EncodeFault} : Holds bytes members →
      (∀ name ∈ members.names, IsEncodable name) → ¬IsLegible members →
      Illegible file bytes (.encode fault)

/-- A read answers a manifest with a valid identifier if the file holds members that can be read,
and otherwise fails for the reason that there is, with the file as it was. -/
theorem read_spec (h : IsWritable s file temporary) (hread : s.files.read file = .ok bytes) :
    ((∃ members, Holds bytes members ∧ IsLegible members) →
      ∃ m after, Manifest.read file s = .ok m after ∧ m.hasValidId = true) ∧
    ((¬∃ members, Holds bytes members ∧ IsLegible members) →
      ∃ failure after, Manifest.read file s = .error failure after ∧
        Illegible file bytes failure ∧ NoneLeft s after temporary ∧
        (LogElsewhere s file → after.files.read file = .ok bytes)) := by
  have houtcome := read_outcome h.toUnhindered hread
  generalize Manifest.read file s = result at houtcome
  cases houtcome with
  | unparsed hnone =>
    refine ⟨?_, fun _ => ⟨_, s, rfl, .unparsed hnone, .refl s temporary, fun _ => hread⟩⟩
    rintro ⟨members, hmembers, -⟩
    exact absurd hmembers (hnone members)
  | unnamed hmembers hname hsurrogate =>
    refine ⟨?_, fun _ => ⟨_, s, rfl, .unnamed hmembers hname hsurrogate, .refl s temporary,
      fun _ => hread⟩⟩
    rintro ⟨other, hother, hnames, -⟩
    obtain rfl := hmembers.unique hother
    exact absurd (hnames _ hname) hsurrogate
  | valid hmembers hnames hvalid =>
    exact ⟨fun _ => ⟨_, s, rfl, hvalid⟩, fun hnot => absurd ⟨_, hmembers, hnames, .inl hvalid⟩ hnot⟩
  | @unsaved members id failure after hmembers hnames hvalid hid hwhy hleft hkept =>
    obtain hunmade | ⟨fault, hfault, rfl⟩ := hwhy
    · obtain ⟨made, hmade⟩ := h.creatable
      exact absurd hmade (hunmade made)
    have hnot : ¬IsLegible members := by
      rintro ⟨-, hid' | hvalues⟩
      · exact absurd (hvalid.symm.trans hid') (by simp)
      · have htext := (isEncodable_fileText_withId hmembers.nodup hnames hid).mpr hvalues
        exact absurd htext (Utf8.not_isEncodable_of_encode hfault)
    refine ⟨?_, fun _ => ⟨_, after, rfl, .unsaved hmembers hnames hnot, hleft,
      fun hlog => ((hkept hlog).read bytes).mpr hread⟩⟩
    rintro ⟨other, hother, hlegible⟩
    obtain rfl := hmembers.unique hother
    exact absurd hlegible hnot
  | @healed written members id after hmembers hnames hvalid hne hid hbytes hstored =>
    refine ⟨fun _ => ⟨_, after, rfl, hasValidId_withId hne⟩, fun hnot => absurd ?_ hnot⟩
    have hvalues := (isEncodable_fileText_withId hmembers.nodup hnames hid).mp
      (Utf8.encode_eq_ok.mp hbytes).1
    exact ⟨members, hmembers, hnames, .inr hvalues⟩

/-- A surrogate in the title, and no identifier: the text of the file is one of an object, and still
the read fails with an error that speaks of no manifest. -/
theorem read_spec_surrogate :
    ∃ members failure after,
      Holds (Utf8.encodeAny "\x7b\"title\": \"\\ud800\"\x7d") members ∧
      Manifest.read storedPaths.manifest
          (storedSession (Utf8.encodeAny "\x7b\"title\": \"\\ud800\"\x7d")) =
        .error failure after ∧
      (∃ fault, failure = .encode fault) ∧
      after.files.read storedPaths.manifest =
        .ok (Utf8.encodeAny "\x7b\"title\": \"\\ud800\"\x7d") := by
  have hmembers : Holds (Utf8.encodeAny "\x7b\"title\": \"\\ud800\"\x7d")
      [(Field.title.name, .string [⟨0xd800, by decide⟩])] :=
    ⟨Text.ofString "\x7b\"title\": \"\\ud800\"\x7d", by decide +kernel, by rfl⟩
  have hnot : ¬∃ members, Holds (Utf8.encodeAny "\x7b\"title\": \"\\ud800\"\x7d") members ∧
      IsLegible members := by
    rintro ⟨members, hother, -, hvalid | hvalues⟩
    · obtain rfl := hmembers.unique hother
      exact absurd hvalid (by decide +kernel)
    · obtain rfl := hmembers.unique hother
      have htitle : IsEncodable [⟨0xd800, by decide⟩] :=
        (hvalues _ List.mem_cons_self (by decide)).self
      exact absurd htitle (by decide)
  obtain ⟨failure, after, hread, hwhy, -, hkept⟩ :=
    (read_spec (isWritable_storedSession _) (read_storedSession _)).2 hnot
  refine ⟨_, failure, after, hmembers, hread, ?_, hkept (logElsewhere_storedSession _)⟩
  cases hwhy with
  | unparsed hnone => exact absurd hmembers (hnone _)
  | unnamed hother hname hsurrogate =>
    obtain rfl := hmembers.unique hother
    obtain rfl := List.mem_singleton.mp hname
    exact absurd (Field.isEncodable_name .title) hsurrogate
  | unsaved => exact ⟨_, rfl⟩

end Manifest
end GameArchive
