import GameArchive.Proofs.FileSystem.Atomic
import GameArchive.Session.Basic

/-!
# What operations do to a session

One equation for each operation on files, by the functions on file systems that it runs. A message
is always taken, and of all files only the one of the log may get longer.
-/

namespace GameArchive

namespace Log
namespace Journal

/-- The files after a record has been taken: as before, or with more in the file of the log. -/
inductive Logged (outputs : Option Outputs) (files : FileSystem) : FileSystem → Prop where
  | nothing : Logged outputs files files
  | line {known : Outputs} {number : Nat} (bytes : Bytes) : outputs = some known →
      known.file = some number → Logged outputs files (files.append number bytes)

theorem logged_writeFile {outputs : Option Outputs} {known : Outputs} {number : Nat}
    (houtputs : outputs = some known) (hfile : known.file = some number) (journal : Journal)
    (files : FileSystem) (r : Record) :
    Logged outputs files (journal.writeFile files number r) := by
  unfold writeFile
  split
  · split
    · exact .line _ houtputs hfile
    · exact .nothing
  · exact .nothing

/-- What could be read before a record can be read after it. -/
theorem Logged.exists_read {outputs : Option Outputs} {files after : FileSystem}
    (h : Logged outputs files after) {p : Path} {bytes : Bytes} (hread : files.read p = .ok bytes) :
    ∃ content, after.read p = .ok content := by
  cases h with
  | nothing => exact ⟨bytes, hread⟩
  | @line _ number line _ _ =>
    obtain ⟨htakes, location, n, hlookup⟩ := FileSystem.read_eq_ok.mp hread
    have hafter := FileSystem.lookup_edit_of_file hlookup number (· ++ line)
    exact ⟨_, FileSystem.read_eq_ok.mpr ⟨htakes, location, n, hafter⟩⟩

/-- What could be made before a record can be made after it. -/
theorem Logged.exists_create {outputs : Option Outputs} {files after : FileSystem}
    (h : Logged outputs files after) {p : Path} {made : FileSystem × Nat}
    (hmade : files.create p = .ok made) : ∃ made', after.create p = .ok made' := by
  cases h with
  | nothing => exact ⟨made, hmade⟩
  | line bytes _ _ => exact FileSystem.create_edit hmade _ _

theorem outputs_set (journal : Journal) (name : Text) (value : Json) :
    (journal.set name value).outputs = journal.outputs := rfl

theorem outputs_writeConsole (journal : Journal) (line : Except FormatError Text) :
    (journal.writeConsole line).outputs = journal.outputs := by
  cases line <;> rfl

/-- A record whose message is made of no values is always taken. -/
theorem add_spec {r : Record} (hargs : r.args = []) (journal : Journal) (files : FileSystem) :
    ∃ journal' files', journal.add files r = .ok (journal', files') ∧
      journal'.outputs = journal.outputs ∧ Logged journal.outputs files files' := by
  unfold add
  split
  · refine ⟨_, _, rfl, ?_, .nothing⟩
    split
    · exact outputs_writeConsole journal _
    · rfl
  split
  · next hnone =>
    rw [keep]
    split
    · refine ⟨{ journal with warnings := journal.warnings ++ [r.template] }, files, ?_, rfl,
        .nothing⟩
      simp [Record.message, message, hargs, Except.map]
    · exact ⟨journal, files, rfl, rfl, .nothing⟩
  · next outputs houtputs =>
    split
    · exact ⟨_, _, rfl, rfl, .nothing⟩
    · refine ⟨_, _, rfl, outputs_writeConsole journal _, ?_⟩
      cases hfile : outputs.file with
      | none => exact .nothing
      | some number => exact logged_writeFile houtputs hfile journal files r

end Journal
end Log

namespace Operation

variable {α β : Type} {s : Session}

theorem bind_of_ok {x : Operation α} {a : α} {after : Session} (h : x s = .ok a after)
    (f : α → Operation β) : (x >>= f) s = f a after := by
  simp only [bind, EStateM.bind, h]

theorem bind_of_error {x : Operation α} {failure : Failure} {after : Session}
    (h : x s = .error failure after) (f : α → Operation β) :
    (x >>= f) s = .error failure after := by
  simp only [bind, EStateM.bind, h]

theorem discard_eq_ok {x : Operation α} {after : Session} :
    (discard x : Operation PUnit) s = .ok () after ↔ ∃ a, x s = .ok a after := by
  change EStateM.map _ x s = _ ↔ _
  unfold EStateM.map
  cases x s <;> simp

theorem discard_eq_error {x : Operation α} {failure : Failure} {after : Session} :
    (discard x : Operation PUnit) s = .error failure after ↔ x s = .error failure after := by
  change EStateM.map _ x s = _ ↔ _
  unfold EStateM.map
  cases x s <;> simp

theorem get_bind (f : Session → Operation β) (s : Session) : (get >>= f) s = f s s := rfl

theorem ask_eq_of_ok {question : FileSystem → Except FileSystem.Failure α} {answer : α}
    (h : question s.files = .ok answer) : ask question s = .ok answer s := by
  rw [ask, get_bind, h]
  rfl

theorem ask_eq_of_error {question : FileSystem → Except FileSystem.Failure α}
    {failure : FileSystem.Failure} (h : question s.files = .error failure) :
    ask question s = .error failure.cause s := by
  rw [ask, get_bind, h]
  rfl

theorem readText_eq {p : Path} {bytes : Bytes} {text : Text}
    (hread : s.files.read p = .ok bytes) (htext : Utf8.decode bytes = .ok text) :
    readText p s = .ok text.unifyNewlines s := by
  rw [readText, bind_of_ok (ask_eq_of_ok hread), htext]
  rfl

theorem writeText_eq (p : Path) (text : Text) (s : Session) :
    writeText p text s =
      match AtomicWrite.writeText s.files p text with
      | (files, .ok ()) => .ok () { s with files := files }
      | (files, .error failure) => .error failure.cause { s with files := files } := by
  rw [writeText, get_bind]
  obtain ⟨files, _ | _⟩ := AtomicWrite.writeText s.files p text <;> rfl

theorem ensureDirectory_eq (p : Path) (s : Session) :
    ensureDirectory p s =
      match s.files.ensureDirectory p with
      | (files, .ok ()) => .ok () { s with files := files }
      | (files, .error failure) => .error failure.cause { s with files := files } := by
  rw [ensureDirectory, get_bind]
  obtain ⟨files, _ | _⟩ := s.files.ensureDirectory p <;> rfl

theorem change_eq (how : FileSystem → Except FileSystem.Failure FileSystem) (s : Session) :
    change how s =
      match how s.files with
      | .ok files => .ok () { s with files := files }
      | .error failure => .error failure.cause s := by
  rw [change, get_bind]
  cases how s.files <;> rfl

/-- A message is always logged. -/
theorem log_eq (level : Log.Level) (logger : String) (message : Text) (s : Session) :
    ∃ journal files, log level logger message s =
        .ok () { s with journal := journal, files := files } ∧
      journal.outputs = s.journal.outputs ∧ Log.Journal.Logged s.journal.outputs s.files files := by
  obtain ⟨journal, files, hadd, houtputs, hlogged⟩ := Log.Journal.add_spec
    (r := ⟨level, Text.ofString logger, message, [], .whole 0, none, []⟩) rfl s.journal s.files
  refine ⟨journal, files, ?_, houtputs, hlogged⟩
  rw [log, logValues, get_bind]
  simp only [hadd]
  rfl

theorem knownPaths_eq {paths : Paths} (h : s.package.paths = some paths) :
    knownPaths s = .ok paths s := by
  have hpackage : package s = .ok s.package s := rfl
  rw [knownPaths, bind_of_ok hpackage, h]
  rfl

theorem setContext_eq (name : String) (value : Json) (s : Session) :
    setContext name value s = .ok () { s with journal := s.journal.set name value } := rfl

end Operation
end GameArchive
