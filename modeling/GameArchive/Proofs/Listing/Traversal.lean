import GameArchive.Proofs.Listing.Yield

/-!
# Traversals step by step

A traversal goes on in the file system as it is when the next entry is asked for. As long as only
the contents of files change in between, it takes the course that it would take at once.
-/

namespace GameArchive
namespace Listing

open FileSystem

variable {options : Options} {fs after : FileSystem} {comes : FileSystem → Prop}

/-- The paths of the entries that come, and why there are no more, if there is a reason. -/
abbrev Course := List Path × Option Failure

/-- The traversal takes the course whatever file systems come, of those that may come, and each entry
has the size that the file has when the entry comes. -/
inductive Takes (comes : FileSystem → Prop) : Traversal → Course → Prop where
  | done : Takes comes .done ([], none)
  | fail {failure : Failure} : Takes comes (.fail failure) ([], some failure)
  | remark {r : Remark} {rest : Traversal} {course : Course} : Takes comes rest course →
      Takes comes (.remark r rest) course
  | entry {e : Entry} {rest : FileSystem → Traversal} {course : Course} {fs : FileSystem}
      {content : Bytes} : comes fs → fs.read e.path = .ok content → e.size = content.length →
      (∀ next, comes next → Takes comes (rest next) course) →
      Takes comes (.entry e rest) (e.path :: course.1, course.2)

/-- What is found below a directory, and then the rest of a course. -/
def Yield.before (y : Yield) (directory : Path) (rest : Course) : Course :=
  match y.failure with
  | some failure => (y.found.map directory.descend, some failure)
  | none => (y.found.map directory.descend ++ rest.1, rest.2)

theorem Yield.before_andThen (first second : Yield) (directory : Path) (rest : Course) :
    (first.andThen second).before directory rest =
      first.before directory (second.before directory rest) := by
  cases hfirst : first.failure <;> cases hsecond : second.failure <;>
    simp [Yield.before, Yield.andThen, hfirst, hsecond]

theorem Yield.before_under (y : Yield) (directory : Path) (name : Text) (rest : Course) :
    (y.under name).before directory rest = y.before (directory.child name) rest := by
  have hdescend : directory.descend ∘ (name :: ·) = (directory.child name).descend := by
    funext names
    exact Path.descend_cons directory name names
  cases hfailure : y.failure <;>
    simp [Yield.before, Yield.under, hfailure, List.map_map, hdescend]

/-- A look sees the same as before, only the size of a file may be another. -/
theorem examine_edited (h : fs.Edited after) (options : Options) (p : Path) :
    examine options after p = examine options fs p ∨
      ∃ size size', examine options after p = .ok (.file size) ∧
        examine options fs p = .ok (.file size') := by
  have hbefore := @isFile_eq_ok_true fs p
  have hafter := @isFile_eq_ok_true after p
  simp only [examine, bind, Except.bind, h.isLink_eq, h.isDirectory_eq, h.isFile_eq] at *
  cases fs.isLink p with
  | error failure =>
    left
    dsimp only
  | ok isLink =>
  rcases fs.isDirectory p with failure | _ | _
  · left
    dsimp only
  · rcases hfile : fs.isFile p with failure | _ | _
    · left
      dsimp only
    · left
      simp only [Bool.false_eq_true, if_false]
    · obtain ⟨content, hread⟩ := hbefore.mp hfile
      obtain ⟨content', hread'⟩ := hafter.mp hfile
      simp only [hread, hread', Bool.false_eq_true, if_false, if_true]
      by_cases haccepts : options.accepts p = true
      · right
        simp only [haccepts, if_true]
        exact ⟨content'.length, content.length, rfl, rfl⟩
      · left
        simp only [haccepts, Bool.false_eq_true, if_false]
  · left
    simp only [if_true]

theorem yieldOf_edited (h : fs.Edited after) (options : Options) (enter : Path → Yield)
    (directory : Path) (name : Text) :
    yieldOf options after enter directory name = yieldOf options fs enter directory name := by
  unfold yieldOf
  obtain heq | ⟨size, size', hafter, hbefore⟩ :=
    examine_edited h options (directory.child name)
  · rw [heq]
  · rw [hafter, hbefore]

/-- Every step of going through names is one of what they yield. -/
theorem takes_overNames (hcomes : ∀ next, comes next → fs.Edited next)
    {enter : Path → FileSystem → (FileSystem → Traversal) → Traversal} {yield : Path → Yield}
    (henter : ∀ child after next course, comes after →
      (∀ later, comes later → Takes comes (next later) course) →
      fs.isDirectory child = .ok true →
      Takes comes (enter child after next) ((yield child).before child course))
    {directory : Path} {next : FileSystem → Traversal} {course : Course} (names : List Text)
    (hafter : comes after) (hnext : ∀ later, comes later → Takes comes (next later) course) :
    Takes comes (overNames options enter directory next names after)
      ((yieldOver options fs yield directory names).before directory course) := by
  induction names generalizing after with
  | nil => exact hnext after hafter
  | cons name names ih =>
    rw [overNames, yieldOver, Yield.before_andThen, ← yieldOf_edited (hcomes after hafter), yieldOf]
    have hseen := seen_examine options after (directory.child name)
    generalize examine options after (directory.child name) = looked at hseen
    cases hseen with
    | refused => exact .fail
    | directory henterable =>
      dsimp only
      rw [Yield.before_under]
      refine henter _ after _ _ hafter (fun later hlater => ih hlater) ?_
      rw [← (hcomes after hafter).isDirectory_eq]
      exact henterable.isDirectory
    | skipped => exact .remark (ih hafter)
    | file _ _ hread => exact .entry hafter hread rfl fun later hlater => ih hlater
    | nothing => exact ih hafter

theorem takes_overDirectory (htree : fs.IsTree) (hcomes : ∀ next, comes next → fs.Edited next)
    (fuel : Nat) {around : List Path} {directory : Path} {next : FileSystem → Traversal}
    {course : Course} (hafter : comes after)
    (hnext : ∀ later, comes later → Takes comes (next later) course)
    (hdirectory : fs.isDirectory directory = .ok true) :
    Takes comes (overDirectory options fuel around directory after next)
      ((yieldBelow options fs fuel around directory).before directory course) := by
  induction fuel generalizing around directory next course after with
  | zero => exact hnext after hafter
  | succ fuel ih =>
    obtain ⟨location, -, -, hresolve, hlist⟩ := exists_location htree hdirectory
    have hedited := hcomes after hafter
    rw [overDirectory, yieldBelow, hedited.resolve_eq, hedited.list_eq, hresolve, hlist]
    dsimp only
    split
    · exact .remark (hnext after hafter)
    · exact takes_overNames hcomes (fun child later next course => ih) (fs.children location)
        hafter hnext

/-- What a listing yields in a file system. -/
def yieldFrom (options : Options) (fs : FileSystem) (base : Path) : Yield :=
  yieldBelow options fs depthLimit [] base

theorem takes_start (htree : fs.IsTree) (hcomes : ∀ next, comes next → fs.Edited next)
    {base : Path} (hafter : comes after) (hbase : fs.isDirectory base = .ok true) :
    Takes comes (start options base after)
      ((yieldFrom options fs base).found.map base.descend, (yieldFrom options fs base).failure) := by
  have hend : (yieldFrom options fs base).before base ([], none) =
      ((yieldFrom options fs base).found.map base.descend, (yieldFrom options fs base).failure) := by
    cases hfailure : (yieldFrom options fs base).failure <;> simp [Yield.before, hfailure]
  rw [← hend, start]
  exact takes_overDirectory htree hcomes _ hafter (fun _ _ => .done) hbase

theorem finds_yieldFrom (htree : fs.IsTree) {base : Path} (hbase : fs.isDirectory base = .ok true) :
    Finds options fs base (Asks options fs [] base) (yieldFrom options fs base) :=
  finds_yieldBelow htree (Nat.lt_add_left _ (Nat.lt_succ_self _)) hbase

/-- A listing that is taken at once has the entries of its course. -/
theorem Takes.finish {t : Traversal} {course : Course} (h : Takes comes t course) (hfs : comes fs) :
    (t.finish fs).entries.map (·.path) = course.1 ∧ (t.finish fs).failure = course.2 := by
  induction h with
  | done | fail => exact ⟨rfl, rfl⟩
  | remark _ ih => exact ih
  | entry _ _ _ _ ih =>
    obtain ⟨hpaths, hfailure⟩ := ih fs hfs
    refine ⟨?_, hfailure⟩
    rw [Traversal.finish, List.map_cons, hpaths]

/-- The sizes are those of the files if they stay as they are. -/
theorem Takes.sizes {t : Traversal} {course : Course} (h : Takes (· = fs) t course) :
    ∀ e ∈ (t.finish fs).entries, ∃ content, fs.read e.path = .ok content ∧
      e.size = content.length := by
  induction h with
  | done | fail => simp [Traversal.finish]
  | remark _ ih => exact ih
  | entry hcomes hread hsize _ ih =>
    obtain rfl := hcomes
    rw [Traversal.finish, List.forall_mem_cons]
    exact ⟨⟨_, hread, hsize⟩, ih _ rfl⟩

end Listing
end GameArchive
