import GameArchive.Manifest.Store
import GameArchive.Proofs.FileSystem.Write
import GameArchive.Proofs.Json.Encodable
import GameArchive.Proofs.Session

/-!
# Saving a manifest

A save either stores the bytes of the whole object or keeps the bytes that were there. It is
unhindered if the way to the file is clear and the log is kept neither in the file nor at its
temporary name; a session in which saves are unhindered stays one, whatever is saved and logged.
-/

namespace GameArchive

open AtomicWrite (temporary? IsClear LeadsTo IsAt)
open Log.Journal (Logged)
open Operation

variable {s middle after : Session} {file temporary : Path}

/-- Saves to the file are unhindered by links, by other names of the file and by the log. -/
structure Unhindered (s : Session) (file temporary : Path) : Prop where
  named : temporary? file = some temporary
  clear : IsClear s.files file temporary
  log : ∀ outputs number, s.journal.outputs = some outputs → outputs.file = some number →
    number < s.files.made ∧ ¬IsAt s.files temporary number

/-- The log of a session is not kept in the file. -/
def LogElsewhere (s : Session) (file : Path) : Prop :=
  ∀ outputs number, s.journal.outputs = some outputs → outputs.file = some number →
    ¬LeadsTo s.files file number

/-- Nothing is at the temporary name that was not there before. -/
def NoneLeft (s after : Session) (temporary : Path) : Prop :=
  ∀ place node, after.files.lookup false temporary = .ok (.found place node) →
    s.files.lookup false temporary = .ok (.found place node)

/-- The file has the bytes that it had, if any. -/
structure Kept (s after : Session) (file temporary : Path) : Prop where
  unhindered : Unhindered after file temporary
  log : LogElsewhere s file → LogElsewhere after file
  read : ∀ bytes, after.files.read file = .ok bytes ↔ s.files.read file = .ok bytes
  left : NoneLeft s after temporary

/-- The file has these bytes. -/
structure Stored (s after : Session) (file temporary : Path) (bytes : Bytes) : Prop where
  unhindered : Unhindered after file temporary
  log : LogElsewhere after file
  read : after.files.read file = .ok bytes
  left : NoneLeft s after temporary

theorem NoneLeft.refl (s : Session) (temporary : Path) : NoneLeft s s temporary :=
  fun _ _ hfound => hfound

theorem NoneLeft.trans (h : NoneLeft s middle temporary)
    (hafter : NoneLeft middle after temporary) : NoneLeft s after temporary :=
  fun place node hfound => h place node (hafter place node hfound)

/-- Nothing but the files and the place of the log matters to a file. -/
theorem Unhindered.kept (h : Unhindered s file temporary) (hfiles : after.files = s.files)
    (houtputs : after.journal.outputs = s.journal.outputs) : Kept s after file temporary where
  unhindered := ⟨h.named, hfiles ▸ h.clear, by rw [hfiles, houtputs]; exact h.log⟩
  log hlog := by rwa [LogElsewhere, hfiles, houtputs]
  read bytes := by rw [hfiles]
  left := by simp [NoneLeft, hfiles]

theorem Kept.trans (h : Kept s middle file temporary) (hafter : Kept middle after file temporary) :
    Kept s after file temporary :=
  ⟨hafter.unhindered, fun hlog => hafter.log (h.log hlog),
    fun bytes => (hafter.read bytes).trans (h.read bytes), h.left.trans hafter.left⟩

theorem Stored.kept {bytes : Bytes} (h : Stored s middle file temporary bytes)
    (hafter : Kept middle after file temporary) : Stored s after file temporary bytes :=
  ⟨hafter.unhindered, hafter.log h.log, (hafter.read bytes).mpr h.read, h.left.trans hafter.left⟩

theorem Stored.of_left {bytes : Bytes} (hleft : NoneLeft s middle temporary)
    (h : Stored middle after file temporary bytes) : Stored s after file temporary bytes :=
  ⟨h.unhindered, h.log, h.read, hleft.trans h.left⟩

/-- A line of the log hinders no save. -/
theorem unhindered_of_logged (h : Unhindered s file temporary)
    (hfiles : Logged s.journal.outputs s.files after.files)
    (houtputs : after.journal.outputs = s.journal.outputs) :
    Unhindered after file temporary ∧ NoneLeft s after temporary := by
  generalize hother : after.files = files at hfiles
  cases hfiles with
  | nothing =>
    refine ⟨⟨h.named, hother ▸ h.clear, ?_⟩, by simp [NoneLeft, hother]⟩
    rw [houtputs, hother]
    exact h.log
  | @line outputs edited bytes hknown hfile =>
    obtain ⟨-, hfree⟩ := h.log outputs edited hknown hfile
    refine ⟨⟨h.named, hother ▸ h.clear.edit edited _, ?_⟩, ?_⟩
    · rw [houtputs, hother]
      intro outputs number hsome hnumber
      obtain ⟨hlt, hnot⟩ := h.log outputs number hsome hnumber
      exact ⟨hlt, mt AtomicWrite.isAt_edit.mp hnot⟩
    · intro place node hfound
      rw [hother] at hfound
      obtain ⟨old, hold, rfl⟩ := AtomicWrite.lookup_edit_eq_found.mp hfound
      cases old with
      | file number content =>
        have hne : number ≠ edited := by
          rintro rfl
          exact hfree ⟨_, _, hold⟩
        rw [hold, Node.edited, if_neg hne]
      | _ => exact hold

/-- A line of a log that is kept elsewhere leaves the file as it is. -/
theorem kept_of_logged (h : Unhindered s file temporary) (hlog : LogElsewhere s file)
    (hfiles : Logged s.journal.outputs s.files after.files)
    (houtputs : after.journal.outputs = s.journal.outputs) : Kept s after file temporary := by
  obtain ⟨hunhindered, hleft⟩ := unhindered_of_logged h hfiles houtputs
  refine ⟨hunhindered, fun _ => ?_, ?_, hleft⟩
  · rw [LogElsewhere, houtputs]
    intro outputs number hsome hnumber
    have hnot := hlog outputs number hsome hnumber
    generalize after.files = files at hfiles ⊢
    cases hfiles with
    | nothing => exact hnot
    | line => exact mt AtomicWrite.leadsTo_edit.mp hnot
  · generalize after.files = files at hfiles ⊢
    cases hfiles with
    | nothing => exact fun _ => Iff.rfl
    | line bytes hknown hfile => exact AtomicWrite.read_edit (hlog _ _ hknown hfile) _

theorem kept_of_undone (h : Unhindered s file temporary) {files : FileSystem}
    (hundone : AtomicWrite.Undone s.files files file temporary) :
    Kept s { s with files := files } file temporary where
  unhindered := by
    refine ⟨h.named, hundone.isClear h.clear, ?_⟩
    intro outputs number hsome hnumber
    obtain ⟨hlt, -⟩ := h.log outputs number hsome hnumber
    exact ⟨Nat.lt_of_lt_of_le hlt hundone.made, AtomicWrite.not_isAt_of_free hundone.free number⟩
  log hlog outputs number hsome hnumber :=
    mt (hundone.leadsTo number).mp (hlog outputs number hsome hnumber)
  read := hundone.read
  left := by
    intro place node hfound
    obtain ⟨free, hfree⟩ := hundone.free
    simp [hfree] at hfound

theorem stored_of_written (hnamed : temporary? file = some temporary)
    (hlog : ∀ outputs number, s.journal.outputs = some outputs → outputs.file = some number →
      number < s.files.made ∧ ¬IsAt s.files temporary number)
    {files : FileSystem} {bytes : Bytes}
    (hwritten : AtomicWrite.Written s.files files file temporary bytes) :
    Stored s { s with files := files } file temporary bytes where
  unhindered := by
    refine ⟨hnamed, hwritten.isClear, ?_⟩
    intro outputs number hsome hnumber
    obtain ⟨hlt, -⟩ := hlog outputs number hsome hnumber
    exact ⟨Nat.lt_of_lt_of_le hlt hwritten.made,
      AtomicWrite.not_isAt_of_free hwritten.free number⟩
  log := by
    intro outputs number hsome hnumber hleads
    obtain ⟨hlt, hnot⟩ := hlog outputs number hsome hnumber
    -- What has been written is a new file or the one that was at the temporary name.
    rcases hwritten.leadsTo hleads with hle | hat
    · omega
    · exact hnot hat
  read := hwritten.read
  left := by
    intro place node hfound
    obtain ⟨free, hfree⟩ := hwritten.free
    simp [hfree] at hfound

/-- Why a text is not stored. -/
inductive Hindered (s : Session) (file temporary : Path) (text : Text) : Failure → Prop where
  | refused {fault : Utf8.EncodeFault} : Utf8.encode text = .error fault →
      Hindered s file temporary text (.encode fault)
  | unmade {e : FileSystem.Failure} {failure : Failure} : s.files.create temporary = .error e →
      Hindered s file temporary text failure
  | unplaced {failure : Failure} : (∀ bytes, s.files.read file ≠ .ok bytes) →
      Hindered s file temporary text failure

/-- A write of a text keeps the bytes or stores others. -/
theorem writeText_spec (h : Unhindered s file temporary) (text : Text) :
    (∃ failure files, writeText file text s = .error failure { s with files := files } ∧
      Kept s { s with files := files } file temporary ∧ Hindered s file temporary text failure) ∨
    ∃ files bytes, writeText file text s = .ok () { s with files := files } ∧
      Utf8.encode text = .ok bytes ∧ Stored s { s with files := files } file temporary bytes := by
  have houtcome := AtomicWrite.writeText_outcome h.clear h.named text
  have hwrite := writeText_eq file text s
  generalize AtomicWrite.writeText s.files file text = result at houtcome hwrite
  cases houtcome with
  | unmade hcreate => exact .inl ⟨_, _, hwrite, h.kept rfl rfl, .unmade hcreate⟩
  | refused hfault hundone => exact .inl ⟨_, _, hwrite, kept_of_undone h hundone, .refused hfault⟩
  | unplaced hread hundone => exact .inl ⟨_, _, hwrite, kept_of_undone h hundone, .unplaced hread⟩
  | written hbytes hwritten =>
    exact .inr ⟨_, _, hwrite, hbytes, stored_of_written h.named h.log hwritten⟩

namespace Manifest

/-- The text of members as a manifest file holds it. -/
def fileText (members : Members) : Text := (Json.object members).indented

/-- Why members are not saved. -/
inductive Unsaved (s : Session) (file temporary : Path) (members : Members) : Failure → Prop where
  | long : (Json.object members).hasLongInteger = true →
      Unsaved s file temporary members .longNumber
  | hindered {failure : Failure} : Hindered s file temporary (fileText members) failure →
      Unsaved s file temporary members failure

/-- A save of members keeps the bytes or stores the bytes of all members. -/
theorem writeMembers_spec (h : Unhindered s file temporary) (members : Members) :
    (∃ failure files, writeMembers file members s = .error failure { s with files := files } ∧
      Kept s { s with files := files } file temporary ∧
      Unsaved s file temporary members failure) ∨
    ∃ journal files bytes,
      writeMembers file members s = .ok () { s with journal := journal, files := files } ∧
      (Json.object members).hasLongInteger = false ∧ Utf8.encode (fileText members) = .ok bytes ∧
      Stored s { s with journal := journal, files := files } file temporary bytes := by
  unfold writeMembers writeJson
  cases hlong : (Json.object members).hasLongInteger with
  | true =>
    refine .inl ⟨.longNumber, s.files, ?_, h.kept rfl rfl, .long hlong⟩
    rw [if_pos rfl]
    rfl
  | false =>
    rw [if_neg Bool.false_ne_true]
    obtain ⟨failure, files, hwrite, hkept, hwhy⟩ | ⟨files, bytes, hwrite, hbytes, hstored⟩ :=
      writeText_spec h (fileText members)
    · exact .inl ⟨failure, files, bind_of_error hwrite _, hkept, .hindered hwhy⟩
    · obtain ⟨journal, logged, hlog, houtputs, hlogged⟩ := log_eq .debug logger
        ("Saved manifest '" ++ file.text ++ "' (" ++ Text.ofNat members.length ++ " keys)")
        { s with files := files }
      refine .inr ⟨journal, logged, bytes, ?_, rfl, hbytes, ?_⟩
      · exact (bind_of_ok hwrite _).trans hlog
      · exact hstored.kept (kept_of_logged hstored.unhindered hstored.log hlogged houtputs)

end Manifest
end GameArchive
