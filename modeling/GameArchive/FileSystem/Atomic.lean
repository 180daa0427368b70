import GameArchive.FileSystem.Change

/-!
# Atomic writes

A text is written next to its file first and then moved into place, so whoever reads the file finds
the old text or the whole new one. The steps of one write are values: a write is the run of its
steps, and the steps of several writes can be run in any order.
-/

namespace GameArchive
namespace AtomicWrite

/-- Why a write fails. -/
inductive Failure where
  | file (failure : FileSystem.Failure)
  | encode (fault : Utf8.EncodeFault)
  /-- The path has no last name to put an ending on. -/
  | emptyName (path : Path)
deriving DecidableEq

/-- The path of the file that is written first. -/
def temporary? (p : Path) : Option Path := p.withSuffix? (p.suffix ++ ".tmp")

/-- What a write does next. -/
inductive Step where
  | opening
  /-- The temporary file is open. -/
  | writing (number : Nat)
  | replacing
  /-- The temporary file is removed, and the write has failed. -/
  | removing (failure : Failure)
  | done
  | failed (failure : Failure)
deriving DecidableEq

/-- One write: its file, its temporary file, its text, and the next step. -/
structure Write where
  path : Path
  temporary : Path
  text : Text
  step : Step

namespace Write

/-- The next step of a write. -/
def advance (w : Write) (fs : FileSystem) : Write × FileSystem :=
  match w.step with
  | .opening =>
    match fs.create w.temporary with
    | .ok (fs, number) => ({ w with step := .writing number }, fs)
    | .error e => ({ w with step := .removing (.file e) }, fs)
  | .writing number =>
    match Utf8.encode w.text with
    | .ok bytes => ({ w with step := .replacing }, fs.overwrite number bytes)
    | .error fault => ({ w with step := .removing (.encode fault) }, fs)
  | .replacing =>
    match fs.replace w.temporary w.path with
    | .ok fs => ({ w with step := .done }, fs)
    | .error e => ({ w with step := .removing (.file e) }, fs)
  | .removing failure =>
    match fs.discard w.temporary with
    | .ok fs => ({ w with step := .failed failure }, fs)
    | .error e => ({ w with step := .failed (.file e) }, fs)
  | .done => (w, fs)
  | .failed _ => (w, fs)

/-- All steps of a write, of which there are four at most. -/
def run (w : Write) (fs : FileSystem) : Write × FileSystem :=
  let (w, fs) := w.advance fs
  let (w, fs) := w.advance fs
  let (w, fs) := w.advance fs
  w.advance fs

/-- The failure of a write that has failed. -/
def failure? (w : Write) : Option Failure :=
  match w.step with
  | .failed failure => some failure
  | _ => none

end Write

/-- The write of a text to a path, before its first step. -/
def start? (p : Path) (text : Text) : Except Failure Write :=
  match temporary? p with
  | some temporary => .ok ⟨p, temporary, text, .opening⟩
  | none => .error (.emptyName p)

/-- Writes a text: the file system afterwards, and the failure if there is one. -/
def writeText (fs : FileSystem) (p : Path) (text : Text) : FileSystem × Except Failure Unit :=
  match start? p text with
  | .error failure => (fs, .error failure)
  | .ok w =>
    let (w, fs) := w.run fs
    match w.failure? with
    | some failure => (fs, .error failure)
    | none => (fs, .ok ())

/-- Two writes at the same time. -/
structure Race where
  files : FileSystem
  first : Write
  second : Write

namespace Race

/-- The next step of one of the two writes, the first one or the second. -/
def advance (r : Race) (isFirst : Bool) : Race :=
  if isFirst then
    let (w, fs) := r.first.advance r.files
    ⟨fs, w, r.second⟩
  else
    let (w, fs) := r.second.advance r.files
    ⟨fs, r.first, w⟩

/-- Steps of the two writes in the given order. -/
def run (r : Race) (order : List Bool) : Race := order.foldl advance r

end Race

end AtomicWrite
end GameArchive
