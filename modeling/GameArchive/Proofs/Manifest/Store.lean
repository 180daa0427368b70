import GameArchive.Proofs.Manifest.Members
import GameArchive.Proofs.Manifest.Saving

/-!
# Reading a manifest

What the bytes of a manifest file hold decides how a read ends. A read that ends with a manifest
answers the members of the object in the file, with a new identifier where there was no valid one,
and then the file holds the manifest that is answered. A read that fails leaves the file as it is.
-/

namespace GameArchive

open Operation
open Utf8 (IsEncodable)

namespace Table

/-- The table that has the names of members for keys. -/
def ofMembers (members : Members) : Table := members.map fun entry => (.string entry.1, entry.2)

theorem put_ofMembers (members : Members) (name : Text) (value : Json) :
    Table.put (.string name) value (ofMembers members) = ofMembers (members.put name value) := by
  induction members with
  | nil => rfl
  | cons entry members ih =>
    have hsame : (Scalar.string entry.1).same (.string name) = decide (entry.1 = name) := by
      simp [Scalar.same, Scalar.integer?]
    rw [ofMembers] at ih
    rw [ofMembers, List.map_cons, Table.put, hsame, Members.put]
    by_cases hname : entry.1 = name
    · simp [hname, ofMembers]
    · simp [hname, ih, ofMembers]

theorem putAll_ofMembers (members later : Members) :
    Table.putAll (ofMembers members) later = ofMembers (members.putAll later) := by
  induction later generalizing members with
  | nil => rfl
  | cons entry later ih =>
    exact (congrArg (Table.putAll · later) (put_ofMembers ..)).trans (ih _)

/-- An object makes the table of its members. -/
theorem putAll_nil {members : Members} (h : members.names.Nodup) :
    Table.putAll [] members = ofMembers members := by
  have hall := putAll_ofMembers [] members
  rwa [show Members.putAll [] members = members from Members.ofList_eq_self h] at hall

theorem members_ofMembers (members : Members) : (ofMembers members).members = members := by
  rw [ofMembers, Table.members, List.map_map]
  exact (List.map_congr_left fun _ _ => rfl).trans (List.map_id members)

end Table

namespace Manifest

variable {s after : Session} {file temporary : Path} {bytes : Bytes} {members : Members}

theorem not_isEncodable_iff {t : Text} : t.any (·.isSurrogate) = true ↔ ¬IsEncodable t := by
  simp [IsEncodable]

theorem unwritableKey?_ofMembers (members : Members) :
    unwritableKey? (Table.ofMembers members) =
      members.names.find? fun name => name.any (·.isSurrogate) := by
  induction members with
  | nil => rfl
  | cons entry members ih =>
    rw [unwritableKey?, Table.ofMembers] at ih
    rw [unwritableKey?, Table.ofMembers, List.map_cons, List.findSome?_cons, Members.names,
      List.map_cons, List.find?_cons]
    dsimp only
    cases hname : entry.1.any (·.isSurrogate) with
    | true => rfl
    | false => simpa [Members.names] using ih

theorem filterMap_keyIssue?_ofMembers (members : Members) :
    (Table.ofMembers members).filterMap keyIssue? = [] := by
  rw [List.filterMap_eq_nil_iff]
  intro entry hentry
  obtain ⟨member, -, rfl⟩ := List.mem_map.mp hentry
  rfl

/-- An object makes a manifest, unless there is a surrogate in one of its names. -/
theorem ofTable?_putAll (h : members.names.Nodup) :
    (∀ name ∈ members.names, IsEncodable name) ∧
        ofTable? (Table.putAll [] members) = .ok (ofMembers members) ∨
      ∃ name ∈ members.names, ¬IsEncodable name ∧ ofTable? (Table.putAll [] members) =
        .error (.validation model [.about [] .stringUnicode (.string name)]) := by
  rw [Table.putAll_nil h, ofTable?, unwritableKey?_ofMembers]
  cases hfind : members.names.find? fun name => name.any (·.isSurrogate) with
  | some name =>
    refine .inr ⟨name, List.mem_of_find?_eq_some hfind, ?_, rfl⟩
    have hsome := List.find?_some (p := fun name : Text => name.any (·.isSurrogate)) hfind
    exact not_isEncodable_iff.mp hsome
  | none =>
    refine .inl ⟨fun name hname => ?_, ?_⟩
    · have hnot := List.find?_eq_none.mp hfind name hname
      exact not_not.mp (mt not_isEncodable_iff.mpr hnot)
    · simp only [filterMap_keyIssue?_ofMembers, Table.members_ofMembers]

theorem ofTable?_of_encodable (h : members.names.Nodup)
    (hencodable : ∀ name ∈ members.names, IsEncodable name) :
    ofTable? (Table.putAll [] members) = .ok (ofMembers members) := by
  obtain ⟨-, htable⟩ | ⟨name, hname, hsurrogate, -⟩ := ofTable?_putAll h
  · exact htable
  · exact absurd (hencodable name hname) hsurrogate

/-- The bytes are the text of an object with these members. -/
def Holds (bytes : Bytes) (members : Members) : Prop :=
  ∃ text, Utf8.decode bytes = .ok text ∧ Json.parse text = .ok (.object members)

theorem Holds.unique {other : Members} (h : Holds bytes members) (hother : Holds bytes other) :
    members = other := by
  obtain ⟨text, htext, hparse⟩ := h
  obtain ⟨text', htext', hparse'⟩ := hother
  rw [htext, Except.ok.injEq] at htext'
  subst htext'
  rw [hparse, Except.ok.injEq] at hparse'
  exact Json.object.inj hparse'

theorem Holds.everywhere (h : Holds bytes members) :
    Json.Everywhere (fun v => v.HasDistinctNames ∧ v.IsShort) (.object members) := by
  obtain ⟨text, -, hparse⟩ := h
  exact Json.everywhere_of_parse hparse

theorem Holds.nodup (h : Holds bytes members) : members.names.Nodup := h.everywhere.self.1

theorem ofBytes_of_holds (h : Holds bytes members) (file : Path) :
    ofBytes file bytes = ofTable? (Table.putAll [] members) := by
  obtain ⟨text, htext, hparse⟩ := h
  simp only [ofBytes, htext, hparse]

/-- Bytes that are the text of no object are refused with what they hold. -/
theorem ofBytes_of_not_holds (h : ∀ members, ¬Holds bytes members) (file : Path) :
    ∃ contents fault, ofBytes file bytes = .error (.manifest file contents fault) := by
  unfold ofBytes
  split
  · exact ⟨_, _, rfl⟩
  next text htext =>
  split
  · exact ⟨_, _, rfl⟩
  · next members hparse => exact absurd ⟨text, htext, hparse⟩ (h members)
  · exact ⟨_, _, rfl⟩

theorem read_eq (hread : s.files.read file = .ok bytes) :
    Manifest.read file s =
      match ofBytes file bytes with
      | .ok m => heal file m s
      | .error failure => .error failure s := by
  rw [Manifest.read, bind_of_ok (ask_eq_of_ok hread)]
  cases ofBytes file bytes <;> rfl

/-- A file that cannot be read leaves everything as it is. -/
theorem read_of_error {e : FileSystem.Failure} (hread : s.files.read file = .error e) :
    Manifest.read file s = .error e.cause s := by
  exact bind_of_error (ask_eq_of_error hread) _

theorem heal_of_valid {m : Manifest} (h : m.hasValidId = true) : heal file m s = .ok m s := by
  rw [heal, if_pos h]
  rfl

/-! ## New identifiers -/

theorem ofNumber_ne_nil (n : Nat) : Identifier.ofNumber n ≠ [] := by
  simp [Identifier.ofNumber, Identifier.layOut, Text.join, Text.ofString]

theorem isEncodable_ofNumber (n : Nat) : IsEncodable (Identifier.ofNumber n) := by
  simp [Identifier.ofNumber, Identifier.layOut, Text.join, Utf8.isEncodable_ofHex]

/-- The manifest of an object, with an identifier. -/
def withId (members : Members) (id : Text) : Manifest :=
  (ofMembers members).setField .appId (.string id)

theorem isPlain_withId (h : members.names.Nodup) (id : Text) : (withId members id).IsPlain :=
  (isPlain_ofMembers h).setField _ _

theorem hasValidId_withId {id : Text} (h : id ≠ []) : (withId members id).hasValidId = true := by
  have hid : (withId members id).field .appId = .string id := rfl
  rw [hasValidId, hid, isValidId]
  simpa using h

/-- A property of all values is one of the identifier and of all other members. -/
theorem everywhere_withId {P : Json → Prop} (h : members.names.Nodup) {id : Text}
    (hself : P (.object (withId members id).members)) (hid : P (.string id)) :
    Json.Everywhere P (.object (withId members id).members) ↔
      ∀ entry ∈ members, entry.1 ≠ Field.appId.name → Json.Everywhere P entry.2 := by
  have hmem : ∀ entry, entry ∈ (withId members id).members ↔
      entry = (Field.appId.name, .string id) ∨ entry.1 ≠ Field.appId.name ∧ entry ∈ members := by
    intro entry
    rw [withId, mem_members_setField (isPlain_ofMembers h), mem_members_ofMembers h]
  rw [Json.everywhere_object]
  simp only [hself, true_and, hmem]
  constructor
  · intro hall entry hentry hname
    exact hall entry (.inr ⟨hname, hentry⟩)
  · rintro hall entry (rfl | ⟨hname, hentry⟩)
    · exact (Json.everywhere_of_scalar (by simp) (by simp)).mpr hid
    · exact hall entry hentry hname

theorem isShort_withId (h : Holds bytes members) (id : Text) :
    (Json.object (withId members id).members).hasLongInteger = false := by
  rw [Json.hasLongInteger_eq_false, everywhere_withId h.nodup trivial trivial]
  intro entry hentry _
  exact (Json.everywhere_object.mp (Json.everywhere_and.mp h.everywhere).2).2 entry hentry

theorem isEncodable_fileText {members : Members} :
    IsEncodable (fileText members) ↔ Json.Everywhere Json.HoldsNoSurrogate (.object members) :=
  Json.isEncodable_write Json.isBlank_indentedLayout.isEncodable

/-- A manifest with a new identifier can be encoded if there is no surrogate in a name or in the
value of another member. -/
theorem isEncodable_fileText_withId (h : members.names.Nodup)
    (hnames : ∀ name ∈ members.names, IsEncodable name) {id : Text} (hid : IsEncodable id) :
    IsEncodable (fileText (withId members id).members) ↔
      ∀ entry ∈ members, entry.1 ≠ Field.appId.name →
        Json.Everywhere Json.HoldsNoSurrogate entry.2 := by
  rw [isEncodable_fileText, everywhere_withId h _ hid]
  intro name hname
  obtain ⟨entry, hentry, rfl⟩ := List.mem_map.mp hname
  obtain rfl | ⟨-, hentry⟩ := (mem_members_setField (isPlain_ofMembers h) _ _).mp hentry
  · exact Field.isEncodable_name .appId
  · exact hnames _ (Members.mem_names_of_mem ((mem_members_ofMembers h).mp hentry))

/-- A manifest without a valid identifier gets a new one, and all members are saved. -/
theorem heal_of_not_valid (h : (ofMembers members).hasValidId = false) (s : Session)
    (file : Path) :
    ∃ id identifiers journal files, id ≠ [] ∧ IsEncodable id ∧
      journal.outputs = s.journal.outputs ∧ Log.Journal.Logged s.journal.outputs s.files files ∧
      heal file (ofMembers members) s =
        (write file (withId members id) >>= fun _ => pure (withId members id))
          { s with identifiers := identifiers, journal := journal, files := files } := by
  obtain ⟨journal, files, hlog, houtputs, hlogged⟩ := log_eq .warning logger
    ("Manifest '" ++ file.text ++ "' had no valid appID, assigned '" ++
      Identifier.ofNumber (s.identifiers + 1) ++ "'")
    { s with identifiers := s.identifiers + 1 }
  have hnew : newIdentifier s = .ok (Identifier.ofNumber (s.identifiers + 1))
      { s with identifiers := s.identifiers + 1 } := rfl
  refine ⟨Identifier.ofNumber (s.identifiers + 1), s.identifiers + 1, journal, files,
    ofNumber_ne_nil _, isEncodable_ofNumber _, houtputs, hlogged, ?_⟩
  rw [heal, h, if_neg Bool.false_ne_true, bind_of_ok hnew]
  exact bind_of_ok hlog _

/-! ## Every outcome of a read -/

/-- How a read ends of a file that has these bytes. -/
inductive ReadOutcome (s : Session) (file temporary : Path) (bytes : Bytes) :
    EStateM.Result Failure Session Manifest → Prop where
  /-- The bytes are the text of no object. -/
  | unparsed {contents : Text} {fault : ManifestFault} : (∀ members, ¬Holds bytes members) →
      ReadOutcome s file temporary bytes (.error (.manifest file contents fault) s)
  /-- A surrogate is in a name of the object. -/
  | unnamed {members : Members} {name : Text} : Holds bytes members → name ∈ members.names →
      ¬IsEncodable name → ReadOutcome s file temporary bytes
        (.error (.validation model [.about [] .stringUnicode (.string name)]) s)
  | valid {members : Members} : Holds bytes members → (∀ name ∈ members.names, IsEncodable name) →
      (ofMembers members).hasValidId = true →
      ReadOutcome s file temporary bytes (.ok (ofMembers members) s)
  /-- There is no valid identifier, and the object with a new one is not saved. -/
  | unsaved {members : Members} {id : Text} {failure : Failure} {after : Session} :
      Holds bytes members → (∀ name ∈ members.names, IsEncodable name) →
      (ofMembers members).hasValidId = false → IsEncodable id →
      (∀ made, s.files.create temporary ≠ .ok made) ∨
        (∃ fault, Utf8.encode (fileText (withId members id).members) = .error fault ∧
          failure = .encode fault) →
      NoneLeft s after temporary →
      (LogElsewhere s file → Kept s after file temporary) → after.package = s.package →
      ReadOutcome s file temporary bytes (.error failure after)
  /-- There is no valid identifier, and the object with a new one is saved. -/
  | healed {written : Bytes} {members : Members} {id : Text} {after : Session} :
      Holds bytes members → (∀ name ∈ members.names, IsEncodable name) →
      (ofMembers members).hasValidId = false → id ≠ [] → IsEncodable id →
      Utf8.encode (fileText (withId members id).members) = .ok written →
      Stored s after file temporary written → after.package = s.package →
      ReadOutcome s file temporary bytes (.ok (withId members id) after)

theorem heal_outcome (h : Unhindered s file temporary) (hread : s.files.read file = .ok bytes)
    (hmembers : Holds bytes members) (hnames : ∀ name ∈ members.names, IsEncodable name)
    (hvalid : (ofMembers members).hasValidId = false) :
    ReadOutcome s file temporary bytes (heal file (ofMembers members) s) := by
  obtain ⟨id, identifiers, journal, files, hne, hid, houtputs, hlogged, hheal⟩ :=
    heal_of_not_valid hvalid s file
  rw [hheal]
  -- The warning is logged first, so the save starts from files in which the log is longer.
  generalize hwarned : { s with
    identifiers := identifiers, journal := journal, files := files } = warned
  have hwarnedFiles : Log.Journal.Logged s.journal.outputs s.files warned.files := by
    rw [← hwarned]
    exact hlogged
  have hwarnedOutputs : warned.journal.outputs = s.journal.outputs := by
    rw [← hwarned]
    exact houtputs
  have hpackage : warned.package = s.package := by rw [← hwarned]
  obtain ⟨hunhindered, hleft⟩ := unhindered_of_logged h hwarnedFiles hwarnedOutputs
  obtain ⟨failure, files, hwrite, hkept, hwhy⟩ |
      ⟨journal, files, written, hwrite, -, hencode, hstored⟩ :=
    writeMembers_spec hunhindered (withId members id).members
  · have hresult := bind_of_error hwrite fun _ => pure (withId members id)
    rw [show write file (withId members id) = writeMembers file _ from rfl, hresult]
    refine .unsaved hmembers hnames hvalid hid ?_ (hleft.trans hkept.left) (fun hlog => ?_)
      hpackage
    · cases hwhy with
      | long hlong => rw [isShort_withId hmembers] at hlong; contradiction
      | hindered hwhy =>
        cases hwhy with
        | refused hfault => exact .inr ⟨_, hfault, rfl⟩
        | unmade hcreate =>
          refine .inl fun made hmade => ?_
          obtain ⟨made', hmade'⟩ := hwarnedFiles.exists_create hmade
          rw [hcreate] at hmade'
          contradiction
        | unplaced hunread =>
          obtain ⟨content, hcontent⟩ := hwarnedFiles.exists_read hread
          exact absurd hcontent (hunread content)
    · exact (kept_of_logged h hlog hwarnedFiles hwarnedOutputs).trans hkept
  · have hresult := bind_of_ok hwrite fun _ => pure (withId members id)
    rw [show write file (withId members id) = writeMembers file _ from rfl, hresult]
    exact .healed hmembers hnames hvalid hne hid hencode (.of_left hleft hstored) hpackage

/-- Every read of a file that can be read ends in one of these ways. -/
theorem read_outcome (h : Unhindered s file temporary) (hread : s.files.read file = .ok bytes) :
    ReadOutcome s file temporary bytes (Manifest.read file s) := by
  rw [read_eq hread]
  by_cases hholds : ∃ members, Holds bytes members
  · obtain ⟨members, hmembers⟩ := hholds
    rw [ofBytes_of_holds hmembers]
    obtain ⟨hnames, htable⟩ | ⟨name, hname, hsurrogate, htable⟩ := ofTable?_putAll hmembers.nodup
    · rw [htable]
      dsimp only
      cases hvalid : (ofMembers members).hasValidId with
      | true =>
        rw [heal_of_valid hvalid]
        exact .valid hmembers hnames hvalid
      | false => exact heal_outcome h hread hmembers hnames hvalid
    · rw [htable]
      exact .unnamed hmembers hname hsurrogate
  · obtain ⟨contents, fault, hbytes⟩ := ofBytes_of_not_holds (not_exists.mp hholds) file
    rw [hbytes]
    exact .unparsed (not_exists.mp hholds)

end Manifest
end GameArchive
