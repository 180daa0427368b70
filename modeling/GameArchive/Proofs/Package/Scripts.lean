import GameArchive.Package.Scripts
import GameArchive.Proofs.FileSystem.Atomic
import GameArchive.Proofs.Script.Walk
import GameArchive.Proofs.Session
import GameArchive.Proofs.Text.Utf8

/-!
# Scripts that are written back

A script that cannot be parsed, and one in which a visitor changes nothing, is written back with the
text that was read. Reading makes line feeds of all line ends, so its bytes stay the same exactly if
they have no carriage return.
-/

namespace GameArchive
namespace Package

open Operation
open Log.Journal (Logged)

variable {σ : Type} {visitor : Script.Visitor σ Text}

theorem walkText_of_error {memory : σ} {code : Text} {halt : Script.Halt Text}
    (h : Script.walk visitor memory code = .error halt) (s : Session) :
    walkText visitor memory code s = .error (haltCause halt) s := by
  unfold walkText
  rw [h]
  rfl

theorem walkText_of_ok {memory : σ} {code : Text} {w : Script.Walk σ}
    (h : Script.walk visitor memory code = .ok w) (s : Session) :
    ∃ after, walkText visitor memory code s = .ok w after ∧
      Logged s.journal.outputs s.files after.files := by
  unfold walkText
  rw [h]
  cases hrefusal : w.refusal with
  | none => exact ⟨s, by simp only [hrefusal]; rfl, .nothing⟩
  | some refusal =>
    obtain ⟨journal, files, hlog, -, hlogged⟩ := log_eq .debug scriptLogger
      (Text.ofString "Passing script through unchanged: " ++ Script.parseFailure refusal) s
    refine ⟨{ s with journal := journal, files := files }, ?_, hlogged⟩
    simp only [hrefusal]
    exact bind_of_ok hlog _

theorem walkScript_eq {memory : σ} {file : Text} {s : Session} {bytes : Bytes} {text : Text}
    (hread : s.files.read (Path.ofText file) = .ok bytes) (htext : Utf8.decode bytes = .ok text) :
    walkScript visitor memory file s = walkText visitor memory text.unifyNewlines
      { s with journal := s.journal.set "script" (.string file) } := by
  unfold walkScript
  rw [bind_of_ok (setContext_eq "script" (.string file) s)]
  have hset : { s with journal := s.journal.set "script" (.string file) }.files.read
      (Path.ofText file) = .ok bytes := hread
  exact bind_of_ok (readText_eq hset htext) _

/-- What comes of a script that has been walked. -/
theorem rewriteScript_of_walk {memory : σ} {file : Text} {s walked : Session} {w : Script.Walk σ}
    (h : walkScript visitor memory file s = .ok w walked) :
    rewriteScript visitor memory file s =
      match AtomicWrite.writeText walked.files (Path.ofText file) w.code with
      | (files, .ok ()) => .ok w { walked with files := files }
      | (files, .error failure) => .error failure.cause { walked with files := files } := by
  unfold rewriteScript
  rw [bind_of_ok h]
  cases hwrite : AtomicWrite.writeText walked.files (Path.ofText file) w.code with
  | mk files outcome =>
    have hstep := writeText_eq (Path.ofText file) w.code walked
    rw [hwrite] at hstep
    cases outcome with
    | error failure => exact bind_of_error hstep _
    | ok answer => exact bind_of_ok hstep _

/-- The log of a session is kept in the file that a path leads to. -/
def KeepsLogIn (s : Session) (p : Path) : Prop :=
  ∃ location number content outputs,
    s.files.lookup true p = .ok (.found location (.file number content)) ∧
      s.journal.outputs = some outputs ∧ outputs.file = some number

/-- A line of the log changes the bytes of no other file. -/
theorem read_of_logged {s : Session} {p : Path} {bytes : Bytes} {files : FileSystem}
    (hread : s.files.read p = .ok bytes) (hlog : ¬KeepsLogIn s p)
    (hlogged : Logged s.journal.outputs s.files files) : files.read p = .ok bytes := by
  cases hlogged with
  | nothing => exact hread
  | @line outputs edited line houtputs hfile =>
    obtain ⟨htakes, location, number, hlookup⟩ := FileSystem.read_eq_ok.mp hread
    have hother : number ≠ edited := by
      rintro rfl
      exact hlog ⟨location, number, bytes, outputs, hlookup, houtputs, hfile⟩
    have hafter := FileSystem.lookup_edit_of_file hlookup edited (· ++ line)
    rw [if_neg hother] at hafter
    exact FileSystem.read_eq_ok.mpr ⟨htakes, location, number, hafter⟩

/-- No link has the name of the temporary file of a write. -/
def NoTemporaryLink (fs : FileSystem) (p : Path) : Prop :=
  ∀ temporary, AtomicWrite.temporary? p = some temporary → ∀ place target,
    fs.lookup false temporary ≠ .ok (.found place (.link target))

/-- The temporary file of a write can be made. -/
def CanMakeTemporary (fs : FileSystem) (p : Path) : Prop :=
  ∃ temporary made, AtomicWrite.temporary? p = some temporary ∧ fs.create temporary = .ok made

/-- A write to a file that is there. -/
theorem writeText_of_read {fs : FileSystem} {p : Path} {bytes written : Bytes} {text : Text}
    (hread : fs.read p = .ok bytes) (hbytes : Utf8.encode text = .ok written)
    (hlink : NoTemporaryLink fs p) :
    (¬CanMakeTemporary fs p ∧ ∃ cause, AtomicWrite.writeText fs p text = (fs, .error cause)) ∨
      ∃ after, AtomicWrite.writeText fs p text = (after, .ok ()) ∧ after.read p = .ok written := by
  obtain ⟨htakes, location, number, hlookup⟩ := FileSystem.read_eq_ok.mp hread
  cases htemporary : AtomicWrite.temporary? p with
  | none =>
    refine .inl ⟨?_, .emptyName p, ?_⟩
    · rintro ⟨temporary, made, hsome, -⟩
      simp [htemporary] at hsome
    · simp [AtomicWrite.writeText, AtomicWrite.start?, htemporary]
  | some temporary =>
    obtain ⟨failure, cause, hcreate, hwrite⟩ | ⟨made, after, hcreate, hwrite, hafter⟩ :=
      AtomicWrite.writeText_spec htakes hlookup hbytes htemporary (hlink temporary htemporary)
    · refine .inl ⟨?_, cause, hwrite⟩
      rintro ⟨other, made, hother, hmade⟩
      obtain rfl : temporary = other := by simpa [htemporary] using hother
      simp [hcreate] at hmade
    · exact .inr ⟨after, hwrite, hafter⟩

/-- A line of the log is in the way of no write. -/
theorem writable_of_logged {outputs : Option Log.Outputs} {fs files : FileSystem} {p : Path}
    {bytes : Bytes} (hread : fs.read p = .ok bytes) (hlink : NoTemporaryLink fs p)
    (hlogged : Logged outputs fs files) :
    (∃ content, files.read p = .ok content) ∧ NoTemporaryLink files p ∧
      (CanMakeTemporary fs p → CanMakeTemporary files p) := by
  refine ⟨hlogged.exists_read hread, ?_, ?_⟩
  · cases hlogged with
    | nothing => exact hlink
    | line =>
      intro temporary htemporary place target hfound
      exact hlink temporary htemporary place target (FileSystem.lookup_edit_eq_link.mp hfound)
  · rintro ⟨temporary, made, htemporary, hmade⟩
    obtain ⟨after, hafter⟩ := hlogged.exists_create hmade
    exact ⟨temporary, after, htemporary, hafter⟩

/-- A script that a walk leaves as it is. If it is written its bytes are the same exactly if they
have no carriage return; if it is not, and the log is not kept in it, they are the same always. It
is written if its text is refused or parsed and its temporary file can be made. -/
theorem rewriteScript_spec (hvisitor : visitor.NeverStops) (memory : σ) {file : Text} {s : Session}
    {bytes : Bytes} {text : Text} (hread : s.files.read (Path.ofText file) = .ok bytes)
    (htext : Utf8.decode bytes = .ok text)
    (hleaves : Script.LeavesCode visitor memory text.unifyNewlines)
    (hlink : NoTemporaryLink s.files (Path.ofText file)) :
    (∀ w after, rewriteScript visitor memory file s = .ok w after →
      (after.files.read (Path.ofText file) = .ok bytes ↔ 0x0d ∉ bytes)) ∧
    (∀ failure after, rewriteScript visitor memory file s = .error failure after →
      ¬KeepsLogIn s (Path.ofText file) → after.files.read (Path.ofText file) = .ok bytes) ∧
    (Script.IsRefusable text.unifyNewlines → CanMakeTemporary s.files (Path.ofText file) →
      ∃ w after, rewriteScript visitor memory file s = .ok w after) := by
  obtain ⟨unified, hunified, hsame⟩ := Utf8.encode_unifyNewlines htext
  have hwalkScript : walkScript visitor memory file s = _ := walkScript_eq hread htext
  cases hwalk : Script.walk visitor memory text.unifyNewlines with
  | error halt =>
    rw [walkText_of_error hwalk] at hwalkScript
    have hrewrite : rewriteScript visitor memory file s = _ := bind_of_error hwalkScript _
    rw [hrewrite]
    refine ⟨fun _ _ hok => by contradiction, ?_, ?_⟩
    · intro failure after herror _
      cases herror
      exact hread
    · intro hrefused _
      obtain ⟨w, hw⟩ := hrefused.exists_walk hvisitor memory
      simp [hwalk] at hw
  | ok w =>
    obtain ⟨walked, hwalked, hlogged⟩ := walkText_of_ok hwalk
      { s with journal := s.journal.set "script" (.string file) }
    rw [hwalked] at hwalkScript
    rw [rewriteScript_of_walk hwalkScript, hleaves.code_eq hvisitor hwalk]
    rw [Log.Journal.outputs_set] at hlogged
    obtain ⟨⟨content, hcontent⟩, hlink', hmake⟩ := writable_of_logged hread hlink hlogged
    obtain ⟨hnot, cause, hwrite⟩ | ⟨files, hwrite, hfiles⟩ :=
      writeText_of_read hcontent hunified hlink'
    · rw [hwrite]
      refine ⟨fun _ _ hok => by contradiction, ?_, ?_⟩
      · intro failure after herror hlog
        cases herror
        exact read_of_logged hread hlog hlogged
      · intro _ hcan
        exact absurd (hmake hcan) hnot
    · rw [hwrite]
      refine ⟨?_, fun _ _ herror => by contradiction, fun _ _ => ⟨_, _, rfl⟩⟩
      intro other after hok
      cases hok
      rw [← hsame]
      exact ⟨fun h => Except.ok.inj (hfiles.symm.trans h), fun h => h ▸ hfiles⟩

/-- The bytes of a line that cannot be parsed. -/
def faultyLine : Bytes := Utf8.encodeAny "a = ;"

/-- A session with one script, the faulty line and what ends it. -/
def faultySession (ending : Bytes) : Session :=
  .start (((FileSystem.empty []).putFile [Text.ofString "M.js"]).1.overwrite 0
    (faultyLine ++ ending))

theorem faultySession_writable (ending : Bytes) :
    NoTemporaryLink (faultySession ending).files (Path.ofText "M.js") ∧
      CanMakeTemporary (faultySession ending).files (Path.ofText "M.js") := by
  have htemporary : AtomicWrite.temporary? (Path.ofText "M.js") =
      some ⟨.relative, [Text.ofString "M.js.tmp"]⟩ := by decide +kernel
  have hfree : (faultySession ending).files.lookup false ⟨.relative, [Text.ofString "M.js.tmp"]⟩ =
      .ok (.free [Text.ofString "M.js.tmp"]) := rfl
  refine ⟨?_, _, _, htemporary, rfl⟩
  intro temporary hsome place target
  obtain rfl : _ = temporary := Option.some.inj (htemporary.symm.trans hsome)
  simp [hfree]

/-- The carriage return before the line feed is lost, a line feed alone is kept. -/
theorem rewriteScript_spec_faulty :
    (∃ w after, rewriteScript .idle () (Text.ofString "M.js") (faultySession [0x0d, 0x0a]) =
        .ok w after ∧
      after.files.read (Path.ofText "M.js") ≠ .ok (faultyLine ++ [0x0d, 0x0a])) ∧
    ∃ w after, rewriteScript .idle () (Text.ofString "M.js") (faultySession [0x0a]) =
        .ok w after ∧
      after.files.read (Path.ofText "M.js") = .ok (faultyLine ++ [0x0a]) := by
  constructor
  · obtain ⟨hlink, hmake⟩ := faultySession_writable [0x0d, 0x0a]
    have hread : (faultySession [0x0d, 0x0a]).files.read (Path.ofText "M.js") =
        .ok (faultyLine ++ [0x0d, 0x0a]) := by decide +kernel
    have htext : Utf8.decode (faultyLine ++ [0x0d, 0x0a]) = .ok (Text.ofString "a = ;\r\n") := by
      decide +kernel
    have hfault : (Script.Grammar.read (Mask.sanitize
        (Text.unifyNewlines (Text.ofString "a = ;\r\n")))).outcome =
          .error (.refused ⟨1, .token ";"⟩) := by decide +kernel
    obtain ⟨hwritten, -, hok⟩ := rewriteScript_spec Script.Visitor.idle_neverStops () hread htext
      (.inl ⟨_, hfault⟩) hlink
    obtain ⟨w, after, hrewrite⟩ := hok (Script.isRefusable_of_refused hfault) hmake
    exact ⟨w, after, hrewrite, mt (hwritten w after hrewrite).mp (by decide)⟩
  · obtain ⟨hlink, hmake⟩ := faultySession_writable [0x0a]
    have hread : (faultySession [0x0a]).files.read (Path.ofText "M.js") =
        .ok (faultyLine ++ [0x0a]) := by decide +kernel
    have htext : Utf8.decode (faultyLine ++ [0x0a]) = .ok (Text.ofString "a = ;\n") := by
      decide +kernel
    have hfault : (Script.Grammar.read (Mask.sanitize
        (Text.unifyNewlines (Text.ofString "a = ;\n")))).outcome =
          .error (.refused ⟨1, .token ";"⟩) := by decide +kernel
    obtain ⟨hwritten, -, hok⟩ := rewriteScript_spec Script.Visitor.idle_neverStops () hread htext
      (.inl ⟨_, hfault⟩) hlink
    obtain ⟨w, after, hrewrite⟩ := hok (Script.isRefusable_of_refused hfault) hmake
    exact ⟨w, after, hrewrite, (hwritten w after hrewrite).mpr (by decide)⟩

end Package
end GameArchive
