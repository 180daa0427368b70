import GameArchive.Session.Configuration
import GameArchive.Proofs.FileSystem.Kind
import GameArchive.Proofs.Session

/-!
# Operations that only log

An operation that reads and logs leaves the archive and the place of the log as they are, and of all
files only the one of the log gets longer. Loading the settings is one of these operations.
-/

namespace GameArchive

namespace Log.Journal

variable {outputs : Option Outputs} {files middle after : FileSystem}

/-- The files after some records have been taken. -/
inductive Logs (outputs : Option Outputs) (files : FileSystem) : FileSystem → Prop where
  | none : Logs outputs files files
  | more {middle after : FileSystem} : Logs outputs files middle → Logged outputs middle after →
      Logs outputs files after

theorem Logs.trans (h : Logs outputs files middle) (hafter : Logs outputs middle after) :
    Logs outputs files after := by
  induction hafter with
  | none => exact h
  | more _ hlogged ih => exact .more ih hlogged

theorem Logs.edited (h : Logs outputs files after) : files.Edited after := by
  induction h with
  | none => exact .same
  | more _ hlogged ih =>
    cases hlogged with
    | nothing => exact ih
    | line bytes _ _ => exact .edit _ _ ih

end Log.Journal

open Log.Journal (Logs)

/-- Nothing but the log, its context, and what is kept of the settings has changed. -/
structure Quiet (s after : Session) : Prop where
  package : after.package = s.package
  outputs : after.journal.outputs = s.journal.outputs
  files : Logs s.journal.outputs s.files after.files

theorem Quiet.refl (s : Session) : Quiet s s := ⟨rfl, rfl, .none⟩

theorem Quiet.trans {s middle after : Session} (h : Quiet s middle) (hafter : Quiet middle after) :
    Quiet s after :=
  ⟨hafter.package.trans h.package, hafter.outputs.trans h.outputs,
    h.files.trans (h.outputs ▸ hafter.files)⟩

namespace Operation

variable {α β : Type} {x : Operation α} {f : α → Operation β}

/-- Where the operation succeeds it has only logged. -/
def Quietly (x : Operation α) : Prop := ∀ s a after, x s = .ok a after → Quiet s after

theorem exists_of_bind_ok {s after : Session} {b : β} (h : (x >>= f) s = .ok b after) :
    ∃ a middle, x s = .ok a middle ∧ f a middle = .ok b after := by
  cases hx : x s with
  | ok a middle => exact ⟨a, middle, rfl, (bind_of_ok hx f).symm.trans h⟩
  | error failure middle =>
    rw [bind_of_error hx f] at h
    contradiction

theorem Quietly.bind (hx : Quietly x) (hf : ∀ a, Quietly (f a)) : Quietly (x >>= f) := by
  intro s b after h
  obtain ⟨a, middle, ha, hb⟩ := exists_of_bind_ok h
  exact (hx s a middle ha).trans (hf a middle b after hb)

theorem quietly_pure (a : α) : Quietly (pure a : Operation α) := by
  intro s b after h
  cases h
  exact .refl s

theorem quietly_throw (failure : Failure) : Quietly (throw failure : Operation α) := by
  intro s b after h
  cases h

theorem quietly_get : Quietly (get : Operation Session) := by
  intro s b after h
  cases h
  exact .refl s

theorem quietly_settle (outcome : Except Failure α) : Quietly (settle outcome) := by
  cases outcome with
  | ok a => exact quietly_pure a
  | error failure => exact quietly_throw failure

theorem quietly_ask (question : FileSystem → Except FileSystem.Failure α) :
    Quietly (ask question) :=
  quietly_get.bind fun _ => quietly_settle _

/-- What a text is read from. -/
theorem readText_eq_ok {s after : Session} {p : Path} {code : Text} :
    readText p s = .ok code after ↔ after = s ∧ ∃ bytes t, s.files.read p = .ok bytes ∧
      Utf8.decode bytes = .ok t ∧ code = t.unifyNewlines := by
  constructor
  · intro h
    cases hread : s.files.read p with
    | error failure =>
      rw [readText, bind_of_error (ask_eq_of_error hread)] at h
      cases h
    | ok bytes =>
    cases htext : Utf8.decode bytes with
    | error fault =>
      rw [readText, bind_of_ok (ask_eq_of_ok hread), htext] at h
      cases h
    | ok t =>
      rw [readText_eq hread htext] at h
      cases h
      exact ⟨rfl, bytes, t, rfl, htext, rfl⟩
  · rintro ⟨rfl, bytes, t, hread, htext, rfl⟩
    exact readText_eq hread htext

theorem quietly_readText (p : Path) : Quietly (readText p) := by
  intro s code after h
  rw [(readText_eq_ok.mp h).1]
  exact .refl s

/-- A message is logged quietly, and always. -/
theorem exists_log (level : Log.Level) (logger : String) (message : Text) (s : Session) :
    ∃ after, log level logger message s = .ok () after ∧ Quiet s after ∧
      after.settings = s.settings := by
  obtain ⟨journal, files, hlog, houtputs, hlogged⟩ := log_eq level logger message s
  exact ⟨_, hlog, ⟨rfl, houtputs, .more .none hlogged⟩, rfl⟩

theorem quietly_log (level : Log.Level) (logger : String) (message : Text) :
    Quietly (log level logger message) := by
  intro s a after h
  obtain ⟨other, hlog, hquiet, -⟩ := exists_log level logger message s
  cases hlog.symm.trans h
  exact hquiet

/-- Messages are logged quietly, and always. -/
theorem exists_forM {step : α → Operation Unit}
    (hstep : ∀ a s, ∃ after, step a s = .ok () after ∧ Quiet s after ∧ after.settings = s.settings)
    (items : List α) (s : Session) :
    ∃ after, items.forM step s = .ok () after ∧ Quiet s after ∧ after.settings = s.settings := by
  induction items generalizing s with
  | nil => exact ⟨s, rfl, .refl s, rfl⟩
  | cons a items ih =>
    obtain ⟨middle, ha, hquiet, hsettings⟩ := hstep a s
    obtain ⟨after, hrest, hquiet', hsettings'⟩ := ih middle
    exact ⟨after, (bind_of_ok ha _).trans hrest, hquiet.trans hquiet', hsettings'.trans hsettings⟩

end Operation

namespace Configuration

open Operation

theorem quietly_file? (path : Option Text) : Quietly (file? path) := by
  refine quietly_get.bind fun s => ?_
  split
  · exact quietly_pure _
  · exact quietly_pure _
  · refine (quietly_ask _).bind fun isFile => ?_
    split
    · exact quietly_pure _
    · exact quietly_pure _

theorem quietly_load (path : Option Text) : Quietly (load path) := by
  refine (quietly_file? path).bind fun file => ?_
  split
  · exact (quietly_log _ _ _).bind fun _ => quietly_pure _
  · refine (quietly_readText _).bind fun text => ?_
    split
    · exact quietly_throw _
    · exact (quietly_log _ _ _).bind fun _ => quietly_pure _

theorem quietly_current : Quietly current := by
  refine quietly_get.bind fun s => ?_
  split
  · exact quietly_pure _
  · refine (quietly_load none).bind fun settings => ?_
    refine Quietly.bind ?_ fun _ => quietly_pure _
    intro s a after h
    cases h
    exact ⟨rfl, rfl, .none⟩

/-- Settings that have been found are kept. -/
theorem settings_of_current {s after : Session} {settings : Settings}
    (h : current s = .ok settings after) : after.settings = some settings := by
  rw [current, get_bind] at h
  cases hsettings : s.settings with
  | some known =>
    rw [hsettings] at h
    cases h
    exact hsettings
  | none =>
    rw [hsettings] at h
    obtain ⟨loaded, middle, -, hinstall⟩ := exists_of_bind_ok h
    cases hinstall
    rfl

theorem current_eq {s : Session} {settings : Settings} (h : s.settings = some settings) :
    current s = .ok settings s := by
  rw [current, get_bind, h]
  rfl

end Configuration
end GameArchive
