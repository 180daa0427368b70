import GameArchive.Proofs.FileSystem.Finish
import Mathlib.Data.Bool.Basic
import Mathlib.Data.List.Count
import Mathlib.Data.List.Infix
import Mathlib.Logic.Function.Basic

/-!
# Two writes at the same time

Two writes to one path have one temporary file between them. As long as only one of them is under
way, the path leads to what was there before or to the whole text of the write that has replaced it
last. If both have the temporary file open at once, they write to one file: the write that replaces
first puts it in place, be it empty or a mixture, the other one may still write to it there, and then
finds nothing to put in place and fails.
-/

namespace GameArchive
namespace AtomicWrite

open FileSystem

/-! ## Orders of steps

The two writes are told apart by a truth value. The latest step of a history is its first element. -/

/-- Both writes have opened the temporary file, and neither has put it in place. -/
def BothOpen (history : List Bool) : Prop := ∀ x, 0 < history.count x ∧ history.count x < 3

/-- At some time both writes have had the temporary file open. -/
def Overlap (history : List Bool) : Prop := ∃ earlier, earlier <:+ history ∧ BothOpen earlier

/-- The writes that have come to replace the file, with their third steps; the latest one first. -/
def replacers : List Bool → List Bool
  | [] => []
  | x :: earlier => if earlier.count x = 2 then x :: replacers earlier else replacers earlier

/-- What is in a file that both writes have open: the first step of a write empties it, and the second
one puts the bytes of the write over what it holds. -/
def sharedBytes (bytes : Bool → Bytes) : List Bool → Bytes
  | [] => []
  | x :: earlier =>
    if earlier.count x = 0 then []
    else if earlier.count x = 1 then
      bytes x ++ (sharedBytes bytes earlier).drop (bytes x).length
    else sharedBytes bytes earlier

section History

variable {history : List Bool} {x : Bool} {bytes : Bool → Bytes}

instance (history : List Bool) : Decidable (BothOpen history) :=
  inferInstanceAs (Decidable (∀ x, 0 < history.count x ∧ history.count x < 3))

theorem overlap_iff_tails : Overlap history ↔ ∃ earlier ∈ history.tails, BothOpen earlier := by
  simp only [Overlap, List.mem_tails]

instance (history : List Bool) : Decidable (Overlap history) :=
  decidable_of_iff _ overlap_iff_tails.symm

theorem overlap_cons : Overlap (x :: history) ↔ BothOpen (x :: history) ∨ Overlap history := by
  simp only [Overlap, List.suffix_cons_iff, or_and_right, exists_or, exists_eq_left]

theorem count_other : (x :: history).count (!x) = history.count (!x) :=
  List.count_cons_of_ne (by simp)

theorem replacers_cons_of_ne (h : history.count x ≠ 2) :
    replacers (x :: history) = replacers history := if_neg h

theorem replacers_cons (h : history.count x = 2) :
    replacers (x :: history) = x :: replacers history := if_pos h

theorem mem_replacers : x ∈ replacers history ↔ 3 ≤ history.count x := by
  induction history with
  | nil => simp [replacers]
  | cons y earlier ih =>
    by_cases hy : y = x
    · subst hy
      rw [List.count_cons_self]
      by_cases htwo : earlier.count y = 2
      · rw [replacers_cons htwo]
        simp [htwo]
      · rw [replacers_cons_of_ne htwo, ih]
        omega
    · rw [List.count_cons_of_ne hy, ← ih]
      by_cases htwo : earlier.count y = 2
      · rw [replacers_cons htwo, List.mem_cons]
        simp [Ne.symm hy]
      · rw [replacers_cons_of_ne htwo]

theorem replacers_eq_nil (h : ∀ x, history.count x < 3) : replacers history = [] := by
  rw [List.eq_nil_iff_forall_not_mem]
  intro x hx
  have hle := mem_replacers.mp hx
  have hlt := h x
  omega

theorem sharedBytes_opening (h : history.count x = 0) :
    sharedBytes bytes (x :: history) = [] := if_pos h

theorem sharedBytes_writing (h : history.count x = 1) :
    sharedBytes bytes (x :: history) =
      bytes x ++ (sharedBytes bytes history).drop (bytes x).length := by
  rw [sharedBytes, if_neg (by omega), if_pos h]

theorem sharedBytes_later (h : 2 ≤ history.count x) :
    sharedBytes bytes (x :: history) = sharedBytes bytes history := by
  rw [sharedBytes, if_neg (by omega), if_neg (by omega)]

end History

/-! ## Races -/

namespace Race

/-- Two writes of texts to one path, before their first steps. -/
def start (fs : FileSystem) (p temporary : Path) (texts : Bool → Text) : Race :=
  ⟨fs, ⟨p, temporary, texts true, .opening⟩, ⟨p, temporary, texts false, .opening⟩⟩

/-- The first write or the second. -/
def write (r : Race) (isFirst : Bool) : Write := if isFirst then r.first else r.second

/-- The race in which the writes have come to these steps. -/
def arrived (r : Race) (files : FileSystem) (steps : Bool → Step) : Race :=
  ⟨files, { r.first with step := steps true }, { r.second with step := steps false }⟩

theorem write_arrived (r : Race) (files : FileSystem) (steps : Bool → Step) (x : Bool) :
    (r.arrived files steps).write x = { r.write x with step := steps x } := by
  cases x <;> rfl

theorem advance_arrived {r : Race} {files after : FileSystem} {steps : Bool → Step} {x : Bool}
    {step : Step} (h : Write.advance { r.write x with step := steps x } files =
      ({ r.write x with step := step }, after)) :
    (r.arrived files steps).advance x = r.arrived after (Function.update steps x step) := by
  cases x with
  | true =>
    have hfirst : Write.advance { r.first with step := steps true } files =
        ({ r.first with step := step }, after) := h
    simp [advance, arrived, hfirst]
  | false =>
    have hsecond : Write.advance { r.second with step := steps false } files =
        ({ r.second with step := step }, after) := h
    simp [advance, arrived, hsecond]

end Race

/-- The step before which a write is that has made so many steps, on a file with this number. -/
def stepAfter (number : Nat) : (made : Nat) → Step
  | 0 => .opening
  | 1 => .writing number
  | 2 => .replacing
  | _ => .done

theorem stepAfter_of_three_le {number made : Nat} (h : 3 ≤ made) :
    stepAfter number made = .done := by
  obtain ⟨more, rfl⟩ := Nat.exists_eq_add_of_le h
  rw [Nat.add_comm]
  rfl

theorem stepAfter_of_idle {made : Nat} (h : made = 0 ∨ 3 ≤ made) (number other : Nat) :
    stepAfter number made = stepAfter other made := by
  rcases h with rfl | h
  · rfl
  · rw [stepAfter_of_three_le h, stepAfter_of_three_le h]

theorem update_stepAfter {history : List Bool} {steps : Bool → Step} {number : Nat}
    (h : ∀ y, steps y = stepAfter number (history.count y)) (x y : Bool) :
    Function.update steps x (stepAfter number (history.count x + 1)) y =
      stepAfter number ((x :: history).count y) := by
  by_cases hy : y = x
  · rw [hy, Function.update_self, List.count_cons_self]
  · rw [Function.update_of_ne hy, h, List.count_cons_of_ne (Ne.symm hy)]

/-! ## The temporary file of both -/

variable {fs base files : FileSystem} {p temporary : Path} {bytes : Bool → Bytes}
  {history : List Bool} {number : Nat} {x : Bool}

/-- The path leads to what was there before, or to the bytes of the write that has replaced it
last. -/
def Holds (fs : FileSystem) (p : Path) (bytes : Bool → Bytes) (files : FileSystem)
    (history : List Bool) : Prop :=
  match (replacers history).head? with
  | none => ∀ content, files.read p = .ok content ↔ fs.read p = .ok content
  | some x => files.read p = .ok (bytes x)

theorem Holds.of_eq {other : List Bool} (h : Holds fs p bytes files history)
    (hreplacers : replacers other = replacers history) : Holds fs p bytes files other := by
  rwa [Holds, hreplacers]

theorem Holds.of_read (h : Holds fs p bytes base history)
    (hread : ∀ content, files.read p = .ok content ↔ base.read p = .ok content) :
    Holds fs p bytes files history := by
  unfold Holds at h ⊢
  revert h
  cases (replacers history).head? with
  | none => exact fun h content => (hread content).trans (h content)
  | some x => exact (hread (bytes x)).mpr

/-- The temporary file is open beside the file, since the file system was `base`, and holds what the
writes have put there. -/
structure Opened (fs : FileSystem) (p temporary : Path) (bytes : Bool → Bytes)
    (base files : FileSystem) (history : List Bool) (number : Nat) : Prop where
  clear : IsClear base p temporary
  holds : Holds fs p bytes base history
  isOpen : ∃ left directory name other, Beside base p temporary left directory name other ∧
    IsOpen base files temporary left directory other number (sharedBytes bytes history)

/-- The temporary file has been put in place of the file. -/
structure Handed (p temporary : Path) (files : FileSystem) (number : Nat) (content : Bytes) :
    Prop where
  takes : nameFailure? temporary.text = none
  takes_path : nameFailure? p.text = none
  found : ∃ location, files.lookup true p = .ok (.found location (.file number content))
  free : ∃ place, files.lookup false temporary = .ok (.free place)

/-- An open temporary file changes nothing of what the path leads to. -/
theorem IsOpen.lookup_path {left : Nat} {directory location : Location} {other : Text}
    {content old : Bytes} {n : Nat}
    (h : IsOpen fs files temporary left directory other number content)
    (hclear : IsClear fs p temporary)
    (hlookup : fs.lookup true p = .ok (.found location (.file n old))) :
    files.lookup true p = .ok (.found location (.file n old)) := by
  have hn : n ≠ number := by
    rintro rfl
    exact h.not_leadsTo hclear ⟨_, _, hlookup⟩
  have herased := h.wrote.erase_lookup hn hlookup
  have hcurrent : files.current = (files.erase (directory ++ [other])).current := rfl
  refine lookup_frame hcurrent ?_ herased
  intro l node hget _
  have hne : l ≠ directory ++ [other] := by
    rintro rfl
    rw [get?_erase_same files (by simp)] at hget
    contradiction
  rwa [get?_erase_other files hne] at hget

theorem IsOpen.read_path {left : Nat} {directory : Location} {name other : Text} {content : Bytes}
    (h : IsOpen fs files temporary left directory other number content)
    (hclear : IsClear fs p temporary) (hbeside : Beside fs p temporary left directory name other)
    (old : Bytes) : files.read p = .ok old ↔ fs.read p = .ok old := by
  have hlookup := hbeside.named.lookup_of_isEntry hbeside.short hbeside.entry
  have hopened := (hbeside.named.frame h.wrote.current fun _ hpass => h.keeps hpass)
  have hopenedLookup := hopened.lookup_of_isEntry hbeside.short hbeside.entry
  have hplaces : directory ++ [name] ≠ directory ++ [other] := by simpa using hbeside.ne
  cases hget : fs.get? (directory ++ [name]) with
  | none =>
    obtain ⟨change, hchange⟩ := h.wrote.elsewhere
    have hnone : files.get? (directory ++ [name]) = none := by rw [hchange _ hplaces, hget]; rfl
    rw [placeAt, hget] at hlookup
    rw [placeAt, hnone] at hopenedLookup
    rw [read_eq_ok, read_eq_ok, hbeside.named.lookup_true (by simp [hlookup]), hlookup,
      hopened.lookup_true (by simp [hopenedLookup]), hopenedLookup]
  | some node =>
    rw [placeAt, hget] at hlookup
    obtain ⟨n, location, kept, hfile⟩ := hclear.leads _ _ hlookup
    rw [read_eq_ok, read_eq_ok, hfile, h.lookup_path hclear hfile]

namespace Opened

theorem read_path (h : Opened fs p temporary bytes base files history number) :
    Holds fs p bytes files history := by
  obtain ⟨left, directory, name, other, hbeside, hopen⟩ := h.isOpen
  exact h.holds.of_read (hopen.read_path h.clear hbeside)

/-- The other write opens the file too, and empties it. -/
theorem reopen (h : Opened fs p temporary bytes base files history number)
    (hcount : history.count x = 0) : ∃ after, files.create temporary = .ok (after, number) ∧
      Opened fs p temporary bytes base after (x :: history) number := by
  obtain ⟨left, directory, name, other, hbeside, hopen⟩ := h.isOpen
  have hfound := hopen.lookup
  have hnamed := hopen.named.frame hopen.wrote.current fun _ hpass => hopen.keeps hpass
  have htrue := hnamed.lookup_true (by simp [hfound])
  rw [hfound] at htrue
  refine ⟨_, create_eq_ok.mpr ⟨hbeside.takes, .inl ⟨_, _, _, htrue, rfl⟩⟩, h.clear,
    h.holds.of_eq (replacers_cons_of_ne (by omega)), left, directory, name, other, hbeside, ?_⟩
  rw [sharedBytes_opening hcount]
  exact hopen.edit fun _ => []

theorem overwrite (h : Opened fs p temporary bytes base files history number)
    (hcount : history.count x = 1) :
    Opened fs p temporary bytes base (files.overwrite number (bytes x)) (x :: history) number := by
  obtain ⟨left, directory, name, other, hbeside, hopen⟩ := h.isOpen
  refine ⟨h.clear, h.holds.of_eq (replacers_cons_of_ne (by omega)), left, directory, name, other,
    hbeside, ?_⟩
  rw [sharedBytes_writing hcount]
  exact hopen.edit fun content => bytes x ++ content.drop (bytes x).length

/-- The file is put in place. -/
theorem replace (h : Opened fs p temporary bytes base files history number) :
    ∃ after, files.replace temporary p = .ok after ∧
      Written base after p temporary (sharedBytes bytes history) ∧
      Handed p temporary after number (sharedBytes bytes history) := by
  obtain ⟨left, directory, name, other, hbeside, hopen⟩ := h.isOpen
  obtain ⟨after, hreplace⟩ := hbeside.exists_replace hopen
  have hwritten := hopen.written h.clear.isReplaceable hbeside.named hbeside.ne.symm hreplace
  obtain ⟨-, -, -, hfound⟩ :=
    hopen.replaced h.clear.isReplaceable hbeside.named hbeside.ne.symm hreplace
  exact ⟨after, hreplace, hwritten, hbeside.takes, hbeside.takes_path, ⟨_, hfound⟩, hwritten.free⟩

end Opened

namespace Handed

variable {content : Bytes}

theorem read (h : Handed p temporary files number content) : files.read p = .ok content := by
  obtain ⟨location, hfound⟩ := h.found
  exact read_eq_ok.mpr ⟨h.takes_path, location, number, hfound⟩

/-- The write that still has the file open writes to it in its new place. -/
theorem overwrite (h : Handed p temporary files number content) (bytes : Bytes) :
    Handed p temporary (files.overwrite number bytes) number
      (bytes ++ content.drop bytes.length) := by
  obtain ⟨location, hfound⟩ := h.found
  obtain ⟨place, hfree⟩ := h.free
  refine ⟨h.takes, h.takes_path, ⟨location, ?_⟩, ⟨place, ?_⟩⟩
  · have hedited := lookup_edit_of_file hfound number fun content =>
      bytes ++ content.drop bytes.length
    rwa [if_pos rfl] at hedited
  · rw [FileSystem.overwrite, lookup_edit, hfree]
    rfl

/-- Nothing is left to put in place, or to take away. -/
theorem replace_eq (h : Handed p temporary files number content) :
    files.replace temporary p = .error (.file ⟨.noEntry, temporary, some p⟩) := by
  obtain ⟨place, hfree⟩ := h.free
  simp [FileSystem.replace, taking, h.takes, h.takes_path, hfree]

theorem discard_eq (h : Handed p temporary files number content) :
    files.discard temporary = .ok files := by
  obtain ⟨place, hfree⟩ := h.free
  simp [FileSystem.discard, unlink, taking, h.takes, hfree]

end Handed

/-! ## Phases of a race -/

/-- Why a write fails that finds nothing to put in place. -/
def missing (p temporary : Path) : Failure := .file (.file ⟨.noEntry, temporary, some p⟩)

/-- What a history of steps has come to. -/
inductive Reached (fs : FileSystem) (p temporary : Path) (bytes : Bool → Bytes) :
    List Bool → FileSystem → (Bool → Step) → Prop where
  /-- Each write is over or has not begun. -/
  | resting {history : List Bool} {files : FileSystem} {steps : Bool → Step} :
      ¬Overlap history → (∀ x, history.count x = 0 ∨ 3 ≤ history.count x) →
      IsClear files p temporary → (∃ made, files.create temporary = .ok made) →
      Holds fs p bytes files history → (∀ x, steps x = stepAfter 0 (history.count x)) →
      Reached fs p temporary bytes history files steps
  /-- One write has the file open, which holds nothing yet or its bytes. -/
  | alone {history : List Bool} {base files : FileSystem} {steps : Bool → Step} {number : Nat}
      (x : Bool) : ¬Overlap history → 0 < history.count x → history.count x < 3 →
      history.count (!x) = 0 ∨ 3 ≤ history.count (!x) →
      sharedBytes bytes history = (if history.count x = 1 then [] else bytes x) →
      Opened fs p temporary bytes base files history number →
      (∀ y, steps y = stepAfter number (history.count y)) →
      Reached fs p temporary bytes history files steps
  | both {history : List Bool} {base files : FileSystem} {steps : Bool → Step} {number : Nat} :
      BothOpen history → Opened fs p temporary bytes base files history number →
      (∀ y, steps y = stepAfter number (history.count y)) →
      Reached fs p temporary bytes history files steps
  /-- The file is in place, and one write still has it open. -/
  | behind {history : List Bool} {files : FileSystem} {steps : Bool → Step} {number : Nat}
      (x : Bool) : Overlap history → replacers history = [!x] → 0 < history.count x →
      history.count x < 3 → Handed p temporary files number (sharedBytes bytes history) →
      (∀ y, steps y = stepAfter number (history.count y)) →
      Reached fs p temporary bytes history files steps
  /-- One write has found nothing to put in place. -/
  | failed {history : List Bool} {files : FileSystem} {steps : Bool → Step} {number : Nat}
      (x : Bool) : Overlap history → replacers history = [x, !x] →
      Handed p temporary files number (sharedBytes bytes history) → steps (!x) = .done →
      steps x = (if history.count x = 3 then .removing (missing p temporary)
        else .failed (missing p temporary)) →
      Reached fs p temporary bytes history files steps

/-- Both writes are of texts to the path, and the texts have these bytes. -/
structure Race.IsOf (r : Race) (p temporary : Path) (bytes : Bool → Bytes) : Prop where
  path : ∀ x, (r.write x).path = p
  temporary : ∀ x, (r.write x).temporary = temporary
  encode : ∀ x, Utf8.encode (r.write x).text = .ok (bytes x)

section Step

variable {r : Race} {steps : Bool → Step} {after : FileSystem} {content : Bytes}

/-! ### Single steps -/

/-- A step of a write from one point to another. -/
def Moves (r : Race) (x : Bool) (step next : Step) (files after : FileSystem) : Prop :=
  Write.advance { r.write x with step := step } files = ({ r.write x with step := next }, after)

theorem moves_done (r : Race) (x : Bool) (files : FileSystem) : Moves r x .done .done files files :=
  rfl

theorem moves_failed (r : Race) (x : Bool) (failure : Failure) (files : FileSystem) :
    Moves r x (.failed failure) (.failed failure) files files := rfl

namespace Race.IsOf

variable (hr : r.IsOf p temporary bytes) (x : Bool)

include hr

theorem moves_opening (hcreate : files.create temporary = .ok (after, number)) :
    Moves r x .opening (.writing number) files after := by
  simp [Moves, Write.advance, hr.temporary x, hcreate]

theorem moves_writing : Moves r x (.writing number) .replacing files
    (files.overwrite number (bytes x)) := by
  simp [Moves, Write.advance, hr.encode x]

theorem moves_replacing (hreplace : files.replace temporary p = .ok after) :
    Moves r x .replacing .done files after := by
  simp [Moves, Write.advance, hr.temporary x, hr.path x, hreplace]

theorem moves_missing (h : Handed p temporary files number content) :
    Moves r x .replacing (.removing (missing p temporary)) files files := by
  simp [Moves, Write.advance, hr.temporary x, hr.path x, h.replace_eq, missing]

theorem moves_removing (h : Handed p temporary files number content) (failure : Failure) :
    Moves r x (.removing failure) (.failed failure) files files := by
  simp [Moves, Write.advance, hr.temporary x, h.discard_eq]

end Race.IsOf

/-! ### Steps from phase to phase -/

/-- The next step of a write leads from what is reached to what is reached. -/
def Proceeds (fs : FileSystem) (p temporary : Path) (bytes : Bool → Bytes) (r : Race)
    (history : List Bool) (files : FileSystem) (steps : Bool → Step) (x : Bool) : Prop :=
  ∃ after step, Moves r x (steps x) step files after ∧
    Reached fs p temporary bytes (x :: history) after (Function.update steps x step)

theorem not_overlap_cons (h : ¬Overlap history) {y : Bool}
    (hy : (x :: history).count y = 0 ∨ 3 ≤ (x :: history).count y) : ¬Overlap (x :: history) := by
  rw [overlap_cons]
  rintro (hboth | hoverlap)
  · have hopen := hboth y
    omega
  · exact h hoverlap

theorem idle_other (hother : history.count (!x) = 0 ∨ 3 ≤ history.count (!x)) :
    (x :: history).count (!x) = 0 ∨ 3 ≤ (x :: history).count (!x) := by
  rwa [count_other]

/-- After the third step of a write it is over, and the other one is as before. -/
theorem idle_cons (htwo : 2 ≤ history.count x)
    (hother : history.count (!x) = 0 ∨ 3 ≤ history.count (!x)) (y : Bool) :
    (x :: history).count y = 0 ∨ 3 ≤ (x :: history).count y := by
  obtain rfl | rfl := Bool.eq_or_eq_not y x
  · rw [List.count_cons_self]
    exact .inr (by omega)
  · exact idle_other hother

/-- Steps of a write that is over change nothing. -/
theorem Opened.later (h : Opened fs p temporary bytes base files history number)
    (hcount : 3 ≤ history.count x) :
    Opened fs p temporary bytes base files (x :: history) number := by
  refine ⟨h.clear, h.holds.of_eq (replacers_cons_of_ne (by omega)), ?_⟩
  rw [sharedBytes_later (by omega)]
  exact h.isOpen

/-- The step of a write that is over, as a step to the same point. -/
theorem moves_over (hsteps : ∀ y, steps y = stepAfter number (history.count y))
    (hcount : 3 ≤ history.count x) :
    Moves r x (steps x) (stepAfter number (history.count x + 1)) files files := by
  rw [hsteps x, stepAfter_of_three_le hcount, stepAfter_of_three_le (by omega)]
  exact moves_done r x files

theorem proceeds_resting (hr : r.IsOf p temporary bytes) (htemporary : temporary? p = some temporary)
    (hoverlap : ¬Overlap history) (hcounts : ∀ x, history.count x = 0 ∨ 3 ≤ history.count x)
    (hclear : IsClear files p temporary) (hmade : ∃ made, files.create temporary = .ok made)
    (hholds : Holds fs p bytes files history) (hsteps : ∀ x, steps x = stepAfter 0 (history.count x))
    (x : Bool) : Proceeds fs p temporary bytes r history files steps x := by
  have hnot := not_overlap_cons hoverlap (idle_other (hcounts (!x)))
  have hholds' : Holds fs p bytes files (x :: history) := by
    refine hholds.of_eq (replacers_cons_of_ne ?_)
    have hcount := hcounts x
    omega
  rcases hcounts x with hzero | hthree
  · obtain ⟨⟨after, number⟩, hcreate⟩ := hmade
    obtain ⟨left, directory, name, other, hbeside, hopen⟩ :=
      exists_beside hclear.link hclear.isReplaceable.not_directory htemporary hcreate
    have hopened : Opened fs p temporary bytes files after (x :: history) number := by
      refine ⟨hclear, hholds', left, directory, name, other, hbeside, ?_⟩
      rwa [sharedBytes_opening hzero]
    have hidle : ∀ y, steps y = stepAfter number (history.count y) := by
      intro y
      rw [hsteps y, stepAfter_of_idle (hcounts y)]
    have hupdate := update_stepAfter hidle x
    rw [hzero] at hupdate
    refine ⟨after, .writing number, ?_, .alone x hnot ?_ ?_ (idle_other (hcounts (!x))) ?_ hopened
      hupdate⟩
    · rw [hsteps x, hzero]
      exact hr.moves_opening x hcreate
    · simp [hzero]
    · simp [hzero]
    · simp [sharedBytes_opening hzero, hzero]
  · exact ⟨files, _, moves_over hsteps hthree, .resting hnot
      (idle_cons (by omega) (hcounts (!x))) hclear hmade hholds' (update_stepAfter hsteps x)⟩

theorem proceeds_alone (hr : r.IsOf p temporary bytes) (htemporary : temporary? p = some temporary)
    {x : Bool} (hoverlap : ¬Overlap history) (hpos : 0 < history.count x)
    (hlt : history.count x < 3) (hother : history.count (!x) = 0 ∨ 3 ≤ history.count (!x))
    (hshared : sharedBytes bytes history = if history.count x = 1 then [] else bytes x)
    (hopened : Opened fs p temporary bytes base files history number)
    (hsteps : ∀ y, steps y = stepAfter number (history.count y)) (y : Bool) :
    Proceeds fs p temporary bytes r history files steps y := by
  have hupdate := update_stepAfter hsteps y
  obtain rfl | rfl := Bool.eq_or_eq_not y x
  · have hnot := not_overlap_cons hoverlap (idle_other hother)
    obtain hone | htwo : history.count y = 1 ∨ history.count y = 2 := by omega
    · rw [hone] at hupdate
      refine ⟨_, .replacing, ?_, .alone y hnot ?_ ?_ (idle_other hother) ?_
        (hopened.overwrite hone) hupdate⟩
      · rw [hsteps y, hone]
        exact hr.moves_writing y
      · simp
      · simp [hone]
      · simp [sharedBytes_writing hone, hshared, hone]
    · obtain ⟨after, hreplace, hwritten, hhanded⟩ := hopened.replace
      rw [hshared, if_neg (by omega)] at hwritten
      rw [htwo] at hupdate
      have hidle := idle_cons (by omega) hother
      refine ⟨after, .done, ?_, .resting hnot hidle hwritten.isClear
        (hwritten.exists_create htemporary hhanded.takes) ?_ ?_⟩
      · rw [hsteps y, htwo]
        exact hr.moves_replacing y hreplace
      · rw [Holds, replacers_cons htwo]
        exact hwritten.read
      · intro z
        rw [stepAfter_of_idle (hidle z) 0 number]
        exact hupdate z
  · rcases hother with hzero | hthree
    · obtain ⟨after, hcreate, hopened'⟩ := hopened.reopen hzero
      rw [hzero] at hupdate
      refine ⟨after, .writing number, ?_, .both ?_ hopened' hupdate⟩
      · rw [hsteps, hzero]
        exact hr.moves_opening _ hcreate
      · intro z
        obtain rfl | rfl := Bool.eq_or_eq_not z x
        · rw [List.count_cons_of_ne (by simp)]
          exact ⟨hpos, hlt⟩
        · rw [List.count_cons_self, hzero]
          exact ⟨by omega, by omega⟩
    · have hcount : ((!x) :: history).count x = history.count x :=
        List.count_cons_of_ne (by simp)
      refine ⟨files, _, moves_over hsteps hthree, .alone x ?_ ?_ ?_ ?_ ?_
        (hopened.later hthree) hupdate⟩
      · exact not_overlap_cons hoverlap (.inr (hthree.trans List.count_le_count_cons))
      · rwa [hcount]
      · rwa [hcount]
      · exact .inr (hthree.trans List.count_le_count_cons)
      · rw [sharedBytes_later (by omega), hcount, hshared]

theorem proceeds_both (hr : r.IsOf p temporary bytes) (hboth : BothOpen history)
    (hopened : Opened fs p temporary bytes base files history number)
    (hsteps : ∀ y, steps y = stepAfter number (history.count y)) (x : Bool) :
    Proceeds fs p temporary bytes r history files steps x := by
  have hupdate := update_stepAfter hsteps x
  have hcount := hboth x
  have hother := hboth (!x)
  obtain hone | htwo : history.count x = 1 ∨ history.count x = 2 := by omega
  · rw [hone] at hupdate
    refine ⟨_, .replacing, ?_, .both ?_ (hopened.overwrite hone) hupdate⟩
    · rw [hsteps x, hone]
      exact hr.moves_writing x
    · intro y
      obtain rfl | rfl := Bool.eq_or_eq_not y x
      · rw [List.count_cons_self, hone]
        exact ⟨by omega, by omega⟩
      · rwa [count_other]
  · obtain ⟨after, hreplace, -, hhanded⟩ := hopened.replace
    have hnone : replacers history = [] := replacers_eq_nil fun y => (hboth y).2
    rw [htwo] at hupdate
    refine ⟨after, .done, ?_, .behind (!x) ?_ ?_ ?_ ?_ ?_ hupdate⟩
    · rw [hsteps x, htwo]
      exact hr.moves_replacing x hreplace
    · exact overlap_cons.mpr (.inr ⟨history, List.suffix_rfl, hboth⟩)
    · rw [replacers_cons htwo, hnone, Bool.not_not]
    · rw [count_other]
      exact hother.1
    · rw [count_other]
      exact hother.2
    · rwa [sharedBytes_later (by omega)]

theorem proceeds_behind (hr : r.IsOf p temporary bytes) {x : Bool} (hoverlap : Overlap history)
    (hreplacers : replacers history = [!x]) (hpos : 0 < history.count x)
    (hlt : history.count x < 3)
    (hhanded : Handed p temporary files number (sharedBytes bytes history))
    (hsteps : ∀ y, steps y = stepAfter number (history.count y)) (y : Bool) :
    Proceeds fs p temporary bytes r history files steps y := by
  have hupdate := update_stepAfter hsteps y
  have hoverlap' : Overlap (y :: history) := overlap_cons.mpr (.inr hoverlap)
  have hthree : 3 ≤ history.count (!x) := mem_replacers.mp (by rw [hreplacers]; exact .head _)
  obtain rfl | rfl := Bool.eq_or_eq_not y x
  · obtain hone | htwo : history.count y = 1 ∨ history.count y = 2 := by omega
    · rw [hone] at hupdate
      refine ⟨files.overwrite number (bytes y), .replacing, ?_, .behind y hoverlap' ?_ ?_ ?_ ?_
        hupdate⟩
      · rw [hsteps y, hone]
        exact hr.moves_writing y
      · rw [replacers_cons_of_ne (by omega), hreplacers]
      · simp
      · simp [hone]
      · rw [sharedBytes_writing hone]
        exact hhanded.overwrite (bytes y)
    · have hhanded' : Handed p temporary files number (sharedBytes bytes (y :: history)) := by
        rwa [sharedBytes_later (by omega)]
      refine ⟨files, .removing (missing p temporary), ?_, .failed y hoverlap' ?_ hhanded' ?_ ?_⟩
      · rw [hsteps y, htwo]
        exact hr.moves_missing y hhanded
      · rw [replacers_cons htwo, hreplacers]
      · rw [Function.update_of_ne (by simp), hsteps, stepAfter_of_three_le hthree]
      · rw [Function.update_self, List.count_cons_self, htwo, if_pos rfl]
  · have hcount : ((!x) :: history).count x = history.count x := List.count_cons_of_ne (by simp)
    refine ⟨files, _, moves_over hsteps hthree, .behind x hoverlap' ?_ ?_ ?_ ?_ hupdate⟩
    · rw [replacers_cons_of_ne (by omega), hreplacers]
    · rwa [hcount]
    · rwa [hcount]
    · rwa [sharedBytes_later (by omega)]

theorem proceeds_failed (hr : r.IsOf p temporary bytes) {x : Bool} (hoverlap : Overlap history)
    (hreplacers : replacers history = [x, !x])
    (hhanded : Handed p temporary files number (sharedBytes bytes history))
    (hdone : steps (!x) = .done)
    (hfailed : steps x = if history.count x = 3 then .removing (missing p temporary)
      else .failed (missing p temporary)) (y : Bool) :
    Proceeds fs p temporary bytes r history files steps y := by
  have hoverlap' : Overlap (y :: history) := overlap_cons.mpr (.inr hoverlap)
  have hthree : ∀ z, 3 ≤ history.count z := fun z =>
    mem_replacers.mp (by simpa [hreplacers] using Bool.eq_or_eq_not z x)
  have hreplacers' : replacers (y :: history) = [x, !x] := by
    rw [replacers_cons_of_ne (by have := hthree y; omega), hreplacers]
  have hhanded' : Handed p temporary files number (sharedBytes bytes (y :: history)) := by
    rwa [sharedBytes_later (by have := hthree y; omega)]
  obtain rfl | rfl := Bool.eq_or_eq_not y x
  · refine ⟨files, .failed (missing p temporary), ?_, .failed y hoverlap' hreplacers' hhanded' ?_ ?_⟩
    · rw [hfailed]
      split
      · exact hr.moves_removing y hhanded _
      · exact moves_failed r y _ files
    · rwa [Function.update_of_ne (by simp)]
    · have hy := hthree y
      rw [Function.update_self, List.count_cons_self, if_neg (by omega)]
  · refine ⟨files, .done, ?_, .failed x hoverlap' hreplacers' hhanded' ?_ ?_⟩
    · rw [hdone]
      exact moves_done r _ files
    · rw [Function.update_self]
    · rw [Function.update_of_ne (by simp), hfailed, List.count_cons_of_ne (by simp)]

/-- What is reached is left for another phase, or the same, by every step. -/
theorem Reached.proceeds (h : Reached fs p temporary bytes history files steps)
    (hr : r.IsOf p temporary bytes) (htemporary : temporary? p = some temporary) (x : Bool) :
    Proceeds fs p temporary bytes r history files steps x := by
  cases h with
  | resting hoverlap hcounts hclear hmade hholds hsteps =>
    exact proceeds_resting hr htemporary hoverlap hcounts hclear hmade hholds hsteps x
  | alone y hoverlap hpos hlt hother hshared hopened hsteps =>
    exact proceeds_alone hr htemporary hoverlap hpos hlt hother hshared hopened hsteps x
  | both hboth hopened hsteps => exact proceeds_both hr hboth hopened hsteps x
  | behind y hoverlap hreplacers hpos hlt hhanded hsteps =>
    exact proceeds_behind hr hoverlap hreplacers hpos hlt hhanded hsteps x
  | failed y hoverlap hreplacers hhanded hdone hfailed =>
    exact proceeds_failed hr hoverlap hreplacers hhanded hdone hfailed x

end Step

/-! ## Whole races -/

theorem not_overlap_nil : ¬Overlap [] := by decide

variable {texts : Bool → Text}

theorem Race.isOf_start (hbytes : ∀ x, Utf8.encode (texts x) = .ok (bytes x)) :
    (Race.start fs p temporary texts).IsOf p temporary bytes where
  path x := by cases x <;> rfl
  temporary x := by cases x <;> rfl
  encode x := by cases x <;> exact hbytes _

/-- Every history comes to one of the phases. -/
theorem Race.exists_reached (htemporary : temporary? p = some temporary)
    (hclear : IsClear fs p temporary) (hmade : ∃ made, fs.create temporary = .ok made)
    (hbytes : ∀ x, Utf8.encode (texts x) = .ok (bytes x)) (history : List Bool) :
    ∃ files steps, (Race.start fs p temporary texts).run history.reverse =
        (Race.start fs p temporary texts).arrived files steps ∧
      Reached fs p temporary bytes history files steps := by
  induction history with
  | nil =>
    refine ⟨fs, fun _ => .opening, rfl, .resting not_overlap_nil ?_ hclear hmade ?_ ?_⟩
    · intro x
      exact .inl List.count_nil
    · exact fun _ => Iff.rfl
    · intro x
      rfl
  | cons x history ih =>
    obtain ⟨files, steps, hrun, hreached⟩ := ih
    obtain ⟨after, step, hmoves, hnext⟩ :=
      hreached.proceeds (isOf_start hbytes) htemporary x
    refine ⟨after, _, ?_, hnext⟩
    have hsnoc : (Race.start fs p temporary texts).run (x :: history).reverse =
        ((Race.start fs p temporary texts).run history.reverse).advance x := by
      rw [run, List.reverse_cons, List.foldl_append]
      rfl
    rw [hsnoc, hrun, advance_arrived hmoves]

/-- What the phases come to for the path and for the writes. -/
theorem Reached.spec {steps : Bool → Step} (h : Reached fs p temporary bytes history files steps) :
    (¬Overlap history → Holds fs p bytes files history ∧
      ∀ x, 3 ≤ history.count x → steps x = .done) ∧
    (Overlap history →
      (replacers history = [] → ∀ content, files.read p = .ok content ↔ fs.read p = .ok content) ∧
      ∀ x, (replacers history).getLast? = some x →
        files.read p = .ok (sharedBytes bytes history) ∧ steps x = .done ∧
        (3 ≤ history.count (!x) → steps (!x) = if history.count (!x) = 3
          then .removing (missing p temporary) else .failed (missing p temporary))) := by
  have hover : ∀ {number}, (∀ y, steps y = stepAfter number (history.count y)) →
      ∀ x, 3 ≤ history.count x → steps x = .done := by
    intro number hsteps x hx
    rw [hsteps x, stepAfter_of_three_le hx]
  cases h with
  | resting hoverlap hcounts hclear hmade hholds hsteps =>
    exact ⟨fun _ => ⟨hholds, hover hsteps⟩, fun h => absurd h hoverlap⟩
  | alone y hoverlap hpos hlt hother hshared hopened hsteps =>
    exact ⟨fun _ => ⟨hopened.read_path, hover hsteps⟩, fun h => absurd h hoverlap⟩
  | both hboth hopened hsteps =>
    have hnone : replacers history = [] := replacers_eq_nil fun y => (hboth y).2
    have hholds := hopened.read_path
    refine ⟨fun h => absurd ⟨history, List.suffix_rfl, hboth⟩ h, fun _ => ⟨fun _ => ?_, ?_⟩⟩
    · rwa [Holds, hnone] at hholds
    · simp [hnone]
  | behind y hoverlap hreplacers hpos hlt hhanded hsteps =>
    refine ⟨fun h => absurd hoverlap h, fun _ => ⟨by simp [hreplacers], ?_⟩⟩
    intro x hx
    obtain rfl : (!y) = x := by simpa [hreplacers] using hx
    refine ⟨hhanded.read, hover hsteps _ (mem_replacers.mp (by simp [hreplacers])), ?_⟩
    rw [Bool.not_not]
    intro hthree
    omega
  | failed y hoverlap hreplacers hhanded hdone hfailed =>
    refine ⟨fun h => absurd hoverlap h, fun _ => ⟨by simp [hreplacers], ?_⟩⟩
    intro x hx
    obtain rfl : (!y) = x := by simpa [hreplacers] using hx
    rw [Bool.not_not]
    exact ⟨hhanded.read, hdone, fun _ => hfailed⟩

/-- Two writes to one path at the same time, whose temporary file can be made and whose texts can be
encoded, in any order of their steps. As long as they have never both had the temporary file open, the
path leads to what was there before or to the whole text of the write that has replaced it last, and
no write that has made its third step has failed. Once they have, the path leads to what was there
before only until the first of them replaces it, and from then on to the file that both have written
to, whatever it holds; and the other one fails, as it finds no temporary file to put in place. -/
theorem Race.run_spec (htemporary : temporary? p = some temporary) (hclear : IsClear fs p temporary)
    (hmade : ∃ made, fs.create temporary = .ok made)
    (hbytes : ∀ x, Utf8.encode (texts x) = .ok (bytes x)) (history : List Bool) :
    ∃ r, (Race.start fs p temporary texts).run history.reverse = r ∧
      (¬Overlap history → Holds fs p bytes r.files history ∧
        ∀ x, 3 ≤ history.count x → (r.write x).step = .done) ∧
      (Overlap history →
        (replacers history = [] →
          ∀ content, r.files.read p = .ok content ↔ fs.read p = .ok content) ∧
        ∀ x, (replacers history).getLast? = some x →
          r.files.read p = .ok (sharedBytes bytes history) ∧ (r.write x).step = .done ∧
          (3 ≤ history.count (!x) → (r.write (!x)).step = if history.count (!x) = 3
            then .removing (missing p temporary) else .failed (missing p temporary))) := by
  obtain ⟨files, steps, hrun, hreached⟩ :=
    Race.exists_reached htemporary hclear hmade hbytes history
  refine ⟨_, hrun, ?_⟩
  simp only [Race.write_arrived]
  exact hreached.spec

/-- A directory with one file. -/
def notedFiles : FileSystem where
  entries := [([Text.ofString "a"], .file 0 (Utf8.encodeAny "old"))]
  current := []
  made := 1
  distinct := by decide

def notePath : Path := ⟨.root, [Text.ofString "a"]⟩

def noteTemporary : Path := ⟨.root, [Text.ofString "a.tmp"]⟩

def noteTexts (x : Bool) : Text := if x then "one" else "me"

theorem isClear_notedFiles : IsClear notedFiles notePath noteTemporary where
  numbered := isNumbered_of_entries (by simp [notedFiles])
  link place target h := by
    have hfree : notedFiles.lookup false noteTemporary = .ok (.free [Text.ofString "a.tmp"]) := rfl
    simp [hfree] at h
  apart number hat := absurd hat (not_isAt_of_free ⟨[Text.ofString "a.tmp"], rfl⟩ number)
  leads _ _ _ := ⟨0, [Text.ofString "a"], Utf8.encodeAny "old", rfl⟩

/-- One write after the other leaves the text of the second. If they overlap, the file is empty when
the first has put in place what the other has just emptied; or it holds the text of one over that of
the other, and one write fails. -/
theorem Race.run_spec_noted :
    (∃ r, (Race.start notedFiles notePath noteTemporary noteTexts).run
        [true, true, true, false, false, false] = r ∧
      r.files.read notePath = .ok (Utf8.encodeAny "me") ∧
      (r.write true).step = .done ∧ (r.write false).step = .done) ∧
    (∃ r, (Race.start notedFiles notePath noteTemporary noteTexts).run
        [true, true, false, true] = r ∧ r.files.read notePath = .ok []) ∧
    ∃ r, (Race.start notedFiles notePath noteTemporary noteTexts).run
        [true, false, true, false, true, false, false] = r ∧
      r.files.read notePath = .ok (Utf8.encodeAny "mee") ∧ (r.write true).step = .done ∧
      (r.write false).step = .failed (missing notePath noteTemporary) := by
  have htemporary : temporary? notePath = some noteTemporary := rfl
  have hbytes : ∀ x, Utf8.encode (noteTexts x) = .ok (Utf8.encodeAny (noteTexts x)) := by
    decide +kernel
  have hspec := Race.run_spec htemporary isClear_notedFiles ⟨_, rfl⟩ hbytes
  refine ⟨?_, ?_, ?_⟩
  · obtain ⟨r, hrun, hserial, -⟩ := hspec [false, false, false, true, true, true]
    obtain ⟨hholds, hdone⟩ := hserial (by decide)
    exact ⟨r, hrun, hholds, hdone true (by decide), hdone false (by decide)⟩
  · obtain ⟨r, hrun, -, hoverlap⟩ := hspec [true, false, true, true]
    obtain ⟨hread, -⟩ := (hoverlap (by decide)).2 true (by decide)
    exact ⟨r, hrun, hread⟩
  · obtain ⟨r, hrun, -, hoverlap⟩ := hspec [false, false, true, false, true, false, true]
    obtain ⟨hread, hdone, hfailed⟩ := (hoverlap (by decide)).2 true (by decide)
    refine ⟨r, hrun, hread.trans ?_, hdone, hfailed (by decide)⟩
    decide +kernel

end AtomicWrite
end GameArchive
