import GameArchive.Listing.Traversal
import GameArchive.Proofs.FileSystem.Kind

/-!
# What a listing finds

A listing of a file system that stays as it is, without its continuations: the files it finds by the
names that lead to them, until it fails. It asks for every name in each directory that it enters,
and finds the files among what it asks for, in the order of their names.
-/

namespace GameArchive

namespace Path

/-- The path with more names. -/
def descend (p : Path) (names : List Text) : Path := ⟨p.anchor, p.names ++ names⟩

theorem descend_nil (p : Path) : p.descend [] = p := by simp [descend]

theorem descend_cons (p : Path) (name : Text) (names : List Text) :
    p.descend (name :: names) = (p.child name).descend names := by simp [descend, child]

theorem descend_concat (p : Path) (names : List Text) (name : Text) :
    p.descend (names ++ [name]) = (p.descend names).child name := by simp [descend, child]

theorem descend_injective (p : Path) : Function.Injective p.descend := by
  intro names others h
  simpa [descend] using h

end Path

namespace Listing

open FileSystem

variable {options : Options} {fs : FileSystem}

/-! ## Looks at paths -/

/-- A directory that a listing goes into when it meets it. -/
structure Enterable (options : Options) (fs : FileSystem) (p : Path) : Prop where
  isDirectory : fs.isDirectory p = .ok true
  plain : options.allowSymlinks = false → fs.isLink p = .ok false

theorem isDirectory_of_isFile {p : Path} (h : fs.isFile p = .ok true) :
    fs.isDirectory p = .ok false := by
  unfold isFile at h
  unfold isDirectory
  cases hkind : fs.kind? true p with
  | error failure => simp [hkind, Except.map] at h
  | ok node =>
    rw [hkind] at h
    rcases node with _ | _ | _ <;> simp_all [Except.map]

/-- What a look at a path sees, by the answers to the questions about it. -/
inductive Seen (options : Options) (fs : FileSystem) (p : Path) :
    Except Failure Found → Prop where
  | refused {failure : Failure} : fs.isDirectory p = .error failure → Seen options fs p (.error failure)
  | directory : Enterable options fs p → Seen options fs p (.ok .directory)
  | skipped : ¬Enterable options fs p → fs.isDirectory p = .ok true →
      Seen options fs p (.ok .skippedLink)
  | file {content : Bytes} : fs.isFile p = .ok true → options.accepts p = true →
      fs.read p = .ok content → Seen options fs p (.ok (.file content.length))
  | nothing : fs.isDirectory p = .ok false →
      ¬(fs.isFile p = .ok true ∧ options.accepts p = true) → Seen options fs p (.ok .nothing)

theorem seen_examine (options : Options) (fs : FileSystem) (p : Path) :
    Seen options fs p (examine options fs p) := by
  cases hlink : fs.isLink p with
  | error failure =>
    have hexamine : examine options fs p = .error failure := by
      simp only [examine, bind, Except.bind, hlink]
    rw [hexamine]
    exact .refused (isDirectory_of_isLink_error hlink)
  | ok isLink =>
  cases hdirectory : fs.isDirectory p with
  | error failure =>
    have hexamine : examine options fs p = .error failure := by
      simp only [examine, bind, Except.bind, hlink, hdirectory]
    rw [hexamine]
    exact .refused hdirectory
  | ok isDirectory =>
  cases isDirectory with
  | true =>
    have hexamine : examine options fs p =
        .ok (if isLink && !options.allowSymlinks then .skippedLink else .directory) := by
      simp only [examine, bind, Except.bind, hlink, hdirectory, if_true]
      split <;> rfl
    rw [hexamine]
    split
    · next hskips =>
      rw [Bool.and_eq_true, Bool.not_eq_true'] at hskips
      refine .skipped (fun h => ?_) hdirectory
      have hplain := h.plain hskips.2
      rw [hlink, hskips.1] at hplain
      contradiction
    · next henters =>
      refine .directory ⟨hdirectory, fun hallow => ?_⟩
      rw [hlink]
      simpa [hallow] using henters
  | false =>
  cases hfile : fs.isFile p with
  | error failure =>
    have hrefused := isFile_eq_error.mp hfile
    rw [hdirectory] at hrefused
    contradiction
  | ok isFile =>
    by_cases hlisted : isFile = true ∧ options.accepts p = true
    · obtain ⟨rfl, haccepts⟩ := hlisted
      obtain ⟨content, hread⟩ := isFile_eq_ok_true.mp hfile
      have hexamine : examine options fs p = .ok (.file content.length) := by
        simp only [examine, bind, Except.bind, hlink, hdirectory, hfile, haccepts, hread, if_true]
        rfl
      rw [hexamine]
      exact .file hfile haccepts hread
    · have hexamine : examine options fs p = .ok .nothing := by
        simp only [examine, bind, Except.bind, hlink, hdirectory, hfile]
        cases isFile <;> cases haccepts : options.accepts p <;> simp_all [pure, Except.pure]
      rw [hexamine]
      refine .nothing hdirectory (fun h => hlisted ⟨?_, h.2⟩)
      simpa [hfile] using h.1

/-! ## Without continuations -/

/-- The files that a listing of a directory finds, by the names that lead to them from it, and why
it ends early, if it does. -/
structure Yield where
  found : List (List Text)
  failure : Option Failure

namespace Yield

def nothing : Yield := ⟨[], none⟩

/-- One after the other, unless the first fails. -/
def andThen (first second : Yield) : Yield :=
  match first.failure with
  | some failure => ⟨first.found, some failure⟩
  | none => ⟨first.found ++ second.found, second.failure⟩

/-- What is found behind a name. -/
def under (name : Text) (y : Yield) : Yield := ⟨y.found.map (name :: ·), y.failure⟩

end Yield

/-- What is found by a name in a directory. -/
def yieldOf (options : Options) (fs : FileSystem) (enter : Path → Yield) (directory : Path)
    (name : Text) : Yield :=
  match examine options fs (directory.child name) with
  | .error failure => ⟨[], some failure⟩
  | .ok .directory => (enter (directory.child name)).under name
  | .ok (.file _) => ⟨[[name]], none⟩
  | .ok .skippedLink | .ok .nothing => .nothing

/-- What is found by names in a directory. -/
def yieldOver (options : Options) (fs : FileSystem) (enter : Path → Yield) (directory : Path) :
    List Text → Yield
  | [] => .nothing
  | name :: names =>
    (yieldOf options fs enter directory name).andThen (yieldOver options fs enter directory names)

/-- What is found in a directory, inside those that are being gone through. -/
def yieldBelow (options : Options) (fs : FileSystem) : (fuel : Nat) → (around : List Path) → Path →
    Yield
  | 0, _, _ => .nothing
  | fuel + 1, around, directory =>
    match fs.resolve directory with
    | .error failure => ⟨[], some failure⟩
    | .ok resolved =>
      if around.contains resolved then .nothing
      else
        match fs.list directory with
        | .error failure => ⟨[], some failure⟩
        | .ok names => yieldOver options fs (yieldBelow options fs fuel (resolved :: around)) directory names

theorem yieldOver_failure {enter : Path → Yield} {directory : Path} {names : List Text} :
    (yieldOver options fs enter directory names).failure = none ↔
      ∀ name ∈ names, (yieldOf options fs enter directory name).failure = none := by
  induction names with
  | nil => simp [yieldOver, Yield.nothing]
  | cons name names ih =>
    rw [yieldOver, Yield.andThen, List.forall_mem_cons, ← ih]
    cases (yieldOf options fs enter directory name).failure <;> simp

theorem yieldOver_found {enter : Path → Yield} {directory : Path} {names : List Text}
    (h : (yieldOver options fs enter directory names).failure = none) :
    (yieldOver options fs enter directory names).found =
      names.flatMap fun name => (yieldOf options fs enter directory name).found := by
  induction names with
  | nil => rfl
  | cons name names ih =>
    have hall := yieldOver_failure.mp h
    rw [List.forall_mem_cons] at hall
    rw [yieldOver, Yield.andThen, hall.1, List.flatMap_cons, ih (yieldOver_failure.mpr hall.2)]

/-! ## What is asked for -/

/-- A directory that is gone into, as none of those around it is the same. -/
structure Entered (fs : FileSystem) (around : List Path) (directory resolved : Path)
    (known : List Text) : Prop where
  isDirectory : fs.isDirectory directory = .ok true
  resolve : fs.resolve directory = .ok resolved
  apart : resolved ∉ around
  list : fs.list directory = .ok known

/-- The names lead from a directory to something that a listing looks at. -/
inductive Asks (options : Options) (fs : FileSystem) : List Path → Path → List Text → Prop where
  | child {around : List Path} {directory resolved : Path} {known : List Text} {name : Text} :
      Entered fs around directory resolved known → name ∈ known →
      Asks options fs around directory [name]
  | inside {around : List Path} {directory resolved : Path} {known : List Text} {name : Text}
      {rest : List Text} :
      Entered fs around directory resolved known → name ∈ known →
      Enterable options fs (directory.child name) →
      Asks options fs (resolved :: around) (directory.child name) rest →
      Asks options fs around directory (name :: rest)

theorem asks_iff {around : List Path} {directory resolved : Path} {known : List Text}
    (hentered : Entered fs around directory resolved known) {names : List Text} :
    Asks options fs around directory names ↔ ∃ name ∈ known, names = [name] ∨
      ∃ rest, names = name :: rest ∧ Enterable options fs (directory.child name) ∧
        Asks options fs (resolved :: around) (directory.child name) rest := by
  constructor
  · intro h
    cases h with
    | child hother hname =>
      obtain rfl := Except.ok.inj (hother.list.symm.trans hentered.list)
      exact ⟨_, hname, .inl rfl⟩
    | inside hother hname henterable hbelow =>
      obtain rfl := Except.ok.inj (hother.list.symm.trans hentered.list)
      obtain rfl := Except.ok.inj (hother.resolve.symm.trans hentered.resolve)
      exact ⟨_, hname, .inr ⟨_, rfl, henterable, hbelow⟩⟩
  · rintro ⟨name, hname, rfl | ⟨rest, rfl, henterable, hbelow⟩⟩
    · exact .child hentered hname
    · exact .inside hentered hname henterable hbelow

/-- A file that a listing has in its result. -/
structure Wanted (options : Options) (fs : FileSystem) (p : Path) : Prop where
  isFile : fs.isFile p = .ok true
  accepts : options.accepts p = true

/-- What a listing finds in a directory is what it asks for there and is a file with a wanted ending,
in the order of the names. It finds all of it unless the system refuses something it asks for. -/
structure Finds (options : Options) (fs : FileSystem) (directory : Path) (asks : List Text → Prop)
    (y : Yield) : Prop where
  failure : y.failure = none ↔
    ∀ names, asks names → ∀ failure, fs.isDirectory (directory.descend names) ≠ .error failure
  found : y.failure = none → ∀ names, names ∈ y.found ↔
    asks names ∧ Wanted options fs (directory.descend names)
  ordered : y.failure = none → y.found.Pairwise (List.Lex Text.Before)

theorem Wanted.not_directory {p : Path} (h : Wanted options fs p) :
    fs.isDirectory p ≠ .ok true := by
  simp [isDirectory_of_isFile h.isFile]

/-- Where one name is asked for alone, it is found if it is wanted. -/
theorem Finds.alone {directory : Path} {name : Text} {answer : Bool}
    (h : fs.isDirectory (directory.child name) = .ok answer) {found : List (List Text)}
    (hfound : found = [[name]] ∧ Wanted options fs (directory.child name) ∨
      found = [] ∧ ¬Wanted options fs (directory.child name)) :
    Finds options fs directory (· = [name]) ⟨found, none⟩ := by
  have hchild : directory.descend [name] = directory.child name := rfl
  refine ⟨⟨?_, fun _ => rfl⟩, ?_, ?_⟩
  · rintro - _ rfl failure
    rw [hchild, h]
    simp
  · intro _ names
    obtain ⟨rfl, hwanted⟩ | ⟨rfl, hnot⟩ := hfound
    · rw [List.mem_singleton, iff_self_and]
      rintro rfl
      exact hwanted
    · rw [List.mem_nil_iff, false_iff]
      rintro ⟨rfl, hwanted⟩
      exact hnot hwanted
  · obtain ⟨rfl, -⟩ | ⟨rfl, -⟩ := hfound <;> simp

theorem Finds.under {directory : Path} {name : Text} {asks : List Text → Prop} {y : Yield}
    (h : Finds options fs (directory.child name) asks y)
    (hdirectory : fs.isDirectory (directory.child name) = .ok true) :
    Finds options fs directory (fun names => names = [name] ∨ ∃ rest, names = name :: rest ∧ asks rest)
      (y.under name) := by
  refine ⟨?_, ?_, ?_⟩
  · refine h.failure.trans ⟨?_, ?_⟩
    · rintro hall names (rfl | ⟨rest, rfl, hasks⟩) failure
      · have hchild : directory.descend [name] = directory.child name := rfl
        rw [hchild, hdirectory]
        simp
      · rw [Path.descend_cons]
        exact hall rest hasks failure
    · intro hall rest hasks failure
      rw [← Path.descend_cons]
      exact hall _ (.inr ⟨rest, rfl, hasks⟩) failure
  · intro hnone names
    rw [Yield.under, List.mem_map]
    constructor
    · rintro ⟨rest, hrest, rfl⟩
      obtain ⟨hasks, hwanted⟩ := (h.found hnone rest).mp hrest
      rw [Path.descend_cons]
      exact ⟨.inr ⟨rest, rfl, hasks⟩, hwanted⟩
    · rintro ⟨rfl | ⟨rest, rfl, hasks⟩, hwanted⟩
      · exact absurd hdirectory hwanted.not_directory
      · rw [Path.descend_cons] at hwanted
        exact ⟨rest, (h.found hnone rest).mpr ⟨hasks, hwanted⟩, rfl⟩
  · intro hnone
    exact (h.ordered hnone).map _ fun _ _ hlex => .cons hlex

theorem finds_yieldOf {enter : Path → Yield} {directory : Path} {name : Text}
    {asks : List Text → Prop}
    (henter : Enterable options fs (directory.child name) →
      Finds options fs (directory.child name) asks (enter (directory.child name))) :
    Finds options fs directory
      (fun names => names = [name] ∨ ∃ rest, names = name :: rest ∧
        Enterable options fs (directory.child name) ∧ asks rest)
      (yieldOf options fs enter directory name) := by
  have hchild : directory.descend [name] = directory.child name := rfl
  -- Unless the name is that of a directory to go into, it is asked for alone.
  have halone (hnot : ¬Enterable options fs (directory.child name)) :
      (fun names => names = [name] ∨ ∃ rest, names = name :: rest ∧
        Enterable options fs (directory.child name) ∧ asks rest) = (· = [name]) := by
    funext names
    simp [hnot]
  have hseen := seen_examine options fs (directory.child name)
  unfold yieldOf
  generalize examine options fs (directory.child name) = looked at hseen
  cases hseen with
  | refused hrefused =>
    refine ⟨⟨nofun, fun hall => ?_⟩, nofun, nofun⟩
    exact absurd hrefused (hall [name] (.inl rfl) _)
  | directory henterable =>
    simp only [henterable, true_and]
    exact (henter henterable).under henterable.isDirectory
  | skipped hnot hdirectory =>
    rw [halone hnot]
    exact .alone hdirectory (.inr ⟨rfl, fun hwanted => hwanted.not_directory hdirectory⟩)
  | file hfile haccepts _ =>
    have hdirectory := isDirectory_of_isFile hfile
    rw [halone fun henterable => by simp [henterable.isDirectory] at hdirectory]
    exact .alone hdirectory (.inl ⟨rfl, hfile, haccepts⟩)
  | nothing hdirectory hnot =>
    rw [halone fun henterable => by simp [henterable.isDirectory] at hdirectory]
    exact .alone hdirectory (.inr ⟨rfl, fun hwanted => hnot ⟨hwanted.isFile, hwanted.accepts⟩⟩)

/-- What is found by names in order is found in order, as the first names of it are. -/
theorem finds_yieldOver {enter : Path → Yield} {directory : Path} {known : List Text}
    {asks : Text → List Text → Prop} (hordered : known.Pairwise Text.Before)
    (hfinds : ∀ name ∈ known, Finds options fs directory (asks name)
      (yieldOf options fs enter directory name))
    (hhead : ∀ name names, asks name names → ∃ rest, names = name :: rest) :
    Finds options fs directory (fun names => ∃ name ∈ known, asks name names)
      (yieldOver options fs enter directory known) := by
  refine ⟨?_, ?_, ?_⟩
  · rw [yieldOver_failure]
    constructor
    · rintro hall names ⟨name, hname, hasks⟩
      exact (hfinds name hname).failure.mp (hall name hname) names hasks
    · intro hall name hname
      exact (hfinds name hname).failure.mpr fun names hasks => hall names ⟨name, hname, hasks⟩
  · intro hnone names
    have hall := yieldOver_failure.mp hnone
    rw [yieldOver_found hnone, List.mem_flatMap]
    constructor
    · rintro ⟨name, hname, hfound⟩
      obtain ⟨hasks, hwanted⟩ := ((hfinds name hname).found (hall name hname) names).mp hfound
      exact ⟨⟨name, hname, hasks⟩, hwanted⟩
    · rintro ⟨⟨name, hname, hasks⟩, hwanted⟩
      exact ⟨name, hname, ((hfinds name hname).found (hall name hname) names).mpr ⟨hasks, hwanted⟩⟩
  · intro hnone
    have hall := yieldOver_failure.mp hnone
    rw [yieldOver_found hnone, List.pairwise_flatMap]
    refine ⟨fun name hname => (hfinds name hname).ordered (hall name hname), ?_⟩
    refine hordered.imp_of_mem ?_
    intro name other hname hother hbefore names hnames others hothers
    obtain ⟨rest, rfl⟩ := hhead name names
      (((hfinds name hname).found (hall name hname) names).mp hnames).1
    obtain ⟨rest', rfl⟩ := hhead other others
      (((hfinds other hother).found (hall other hother) others).mp hothers).1
    exact .rel hbefore

/-! ## All that there is -/

/-- A directory is resolved to where it is, and its names are listed. -/
theorem exists_location (htree : fs.IsTree) {directory : Path}
    (h : fs.isDirectory directory = .ok true) :
    ∃ location, fs.get? location = some .directory ∧
      fs.lookup true directory = .ok (.found location .directory) ∧
      fs.resolve directory = .ok (fs.resolvePath directory) ∧
      fs.list directory = .ok (fs.children location) := by
  obtain ⟨htakes, location, hlookup⟩ := isDirectory_eq_ok_true.mp h
  exact ⟨location, (get?_of_found htree hlookup).1, hlookup, FileSystem.resolve_eq htree htakes hlookup,
    list_eq htakes hlookup⟩

theorem isLongPath_of_isDirectory {p : Path} (h : fs.isDirectory p = .ok true) :
    isLongPath p = false := by
  obtain ⟨-, location, hlookup⟩ := isDirectory_eq_ok_true.mp h
  unfold lookup at hlookup
  split at hlookup
  · contradiction
  · next hlong => simpa using hlong

theorem length_le_length_join (separator : Text) (hne : separator ≠ []) (names : List Text) :
    names.length ≤ (Text.join separator names).length + 1 := by
  have hpos : 0 < separator.length := List.length_pos_iff.mpr hne
  induction names with
  | nil => exact Nat.zero_le _
  | cons first rest ih =>
    cases rest with
    | nil => simp
    | cons second rest =>
      have hjoin : Text.join separator (first :: second :: rest) =
          first ++ separator ++ Text.join separator (second :: rest) := rfl
      rw [hjoin, List.length_append, List.length_append, List.length_cons]
      omega

/-- The path of a directory has no more names than a path may have bytes. -/
theorem length_names_le {p : Path} (h : isLongPath p = false) : p.names.length ≤ pathLimit + 1 := by
  have hjoin := length_le_length_join (Text.ofString "/") (by decide) p.names
  have htext : (Text.join "/" p.names).length ≤ p.text.length := by
    unfold Path.text
    split
    · next hempty => simp [hempty.2, Text.join]
    · simp
  have hbytes := Utf8.length_le_encodeName p.text
  simp only [isLongPath, decide_eq_false_iff_not] at h
  omega

/-- A listing of a directory finds what it asks for: it never has to stop because directories are too
deep inside each other, as their paths would be too long. -/
theorem finds_yieldBelow (htree : fs.IsTree) {fuel : Nat} {around : List Path} {directory : Path}
    (hroom : pathLimit + 1 < directory.names.length + fuel)
    (hdirectory : fs.isDirectory directory = .ok true) :
    Finds options fs directory (Asks options fs around directory)
      (yieldBelow options fs fuel around directory) := by
  induction fuel generalizing around directory with
  | zero =>
    have hle := length_names_le (isLongPath_of_isDirectory hdirectory)
    omega
  | succ fuel ih =>
    obtain ⟨location, hget, -, hresolve, hlist⟩ := exists_location htree hdirectory
    rw [yieldBelow, hresolve]
    dsimp only
    by_cases hloop : fs.resolvePath directory ∈ around
    -- A directory that is gone through already is left, and nothing in it is asked for.
    · have hnothing : ∀ names, ¬Asks options fs around directory names := by
        intro names hasks
        have hentered : ∃ resolved known, Entered fs around directory resolved known := by
          cases hasks with
          | child h | inside h => exact ⟨_, _, h⟩
        obtain ⟨resolved, known, h⟩ := hentered
        rw [Except.ok.inj (hresolve.symm.trans h.resolve)] at hloop
        exact h.apart hloop
      rw [if_pos (List.contains_iff_mem.mpr hloop)]
      exact ⟨by simp [Yield.nothing, hnothing], by simp [Yield.nothing, hnothing],
        by simp [Yield.nothing]⟩
    · rw [if_neg (by simpa using hloop), hlist]
      have hentered : Entered fs around directory (fs.resolvePath directory) (fs.children location) :=
        ⟨hdirectory, hresolve, hloop, hlist⟩
      have hasks : Asks options fs around directory = fun names =>
          ∃ name ∈ fs.children location, names = [name] ∨ ∃ rest, names = name :: rest ∧
            Enterable options fs (directory.child name) ∧
              Asks options fs (fs.resolvePath directory :: around) (directory.child name) rest :=
        funext fun names => propext (asks_iff hentered)
      rw [hasks]
      refine finds_yieldOver (pairwise_children fs location) (fun name _ => ?_) ?_
      · refine finds_yieldOf fun henterable => ih ?_ henterable.isDirectory
        rw [Path.child, List.length_append, List.length_singleton]
        omega
      · rintro name names (rfl | ⟨rest, rfl, -⟩)
        · exact ⟨[], rfl⟩
        · exact ⟨rest, rfl⟩

/-! ## Ways that a listing takes -/

/-- The names lead from a directory through directories that a listing goes into: no two of them are
the same, and none of those behind the first is a link unless links are allowed. -/
structure Passes (options : Options) (fs : FileSystem) (base : Path) (names : List Text) : Prop where
  proper : ∀ name ∈ names, IsProper name
  isDirectory : ∀ before, before <+: names → fs.isDirectory (base.descend before) = .ok true
  plain : options.allowSymlinks = false → ∀ before, before <+: names → before ≠ [] →
    fs.isLink (base.descend before) = .ok false
  distinct : ∀ before other, before <+: names → other <+: names →
    fs.resolve (base.descend before) = fs.resolve (base.descend other) → before = other

/-- None of the directories on the way is one of those around. -/
def Outside (fs : FileSystem) (around : List Path) (base : Path) (names : List Text) : Prop :=
  ∀ before, before <+: names → ∀ p ∈ around, fs.resolve (base.descend before) ≠ .ok p

variable {around : List Path} {base resolved : Path} {name : Text} {rest names : List Text}

theorem passes_nil (h : fs.isDirectory base = .ok true) : Passes options fs base [] where
  proper := by simp
  isDirectory := by simpa [Path.descend_nil] using h
  plain := by simp
  distinct := by simp

theorem Passes.start (h : Passes options fs base names) : fs.isDirectory base = .ok true := by
  simpa [Path.descend_nil] using h.isDirectory [] List.nil_prefix

/-- The beginnings of names behind a name are none of them and the beginnings that start with it. -/
theorem forall_prefix_cons {P : List Text → Prop} :
    (∀ before, before <+: name :: rest → P before) ↔
      P [] ∧ ∀ before, before <+: rest → P (name :: before) := by
  constructor
  · intro h
    exact ⟨h [] List.nil_prefix,
      fun before hbefore => h _ (List.cons_prefix_cons.mpr ⟨rfl, hbefore⟩)⟩
  · rintro ⟨hnil, hcons⟩ before hbefore
    obtain rfl | ⟨others, rfl, hothers⟩ := List.prefix_cons_iff.mp hbefore
    · exact hnil
    · exact hcons others hothers

theorem outside_cons : Outside fs around base (name :: rest) ↔
    (∀ p ∈ around, fs.resolve base ≠ .ok p) ∧ Outside fs around (base.child name) rest := by
  simp only [Outside, forall_prefix_cons, Path.descend_nil, Path.descend_cons]

theorem outside_cons_around (resolved : Path) (around : List Path) (base : Path)
    (names : List Text) : Outside fs (resolved :: around) base names ↔
      Outside fs [resolved] base names ∧ Outside fs around base names := by
  simp only [Outside, List.forall_mem_cons, List.mem_singleton, forall_eq, forall_and]

/-- A way goes on from the next directory, and does not come back to the first one. -/
theorem passes_cons (hbase : fs.isDirectory base = .ok true)
    (hresolve : fs.resolve base = .ok resolved) :
    Passes options fs base (name :: rest) ↔
      IsProper name ∧ Enterable options fs (base.child name) ∧
        Passes options fs (base.child name) rest ∧
          Outside fs [resolved] (base.child name) rest := by
  constructor
  · intro h
    have hbegins : ∀ before, before <+: rest → name :: before <+: name :: rest :=
      fun before hbefore => List.cons_prefix_cons.mpr ⟨rfl, hbefore⟩
    have hproper := List.forall_mem_cons.mp h.proper
    have hdirectory := (forall_prefix_cons.mp h.isDirectory).2
    have hplain := fun hallow => (forall_prefix_cons.mp (h.plain hallow)).2
    simp only [Path.descend_cons] at hdirectory hplain
    refine ⟨hproper.1, ⟨?_, fun hallow => ?_⟩, ⟨hproper.2, hdirectory, ?_, ?_⟩, ?_⟩
    · simpa only [Path.descend_nil] using hdirectory [] List.nil_prefix
    · simpa only [Path.descend_nil] using hplain hallow [] List.nil_prefix (by simp)
    · exact fun hallow before hbefore _ => hplain hallow before hbefore (by simp)
    · intro before other hbefore hother hsame
      rw [← Path.descend_cons, ← Path.descend_cons] at hsame
      exact (List.cons.inj (h.distinct _ _ (hbegins before hbefore) (hbegins other hother) hsame)).2
    · intro before hbefore p hp hsame
      rw [List.mem_singleton.mp hp, ← hresolve, ← Path.descend_cons] at hsame
      have hfirst := h.distinct _ [] (hbegins before hbefore) List.nil_prefix
        (hsame.trans (by rw [Path.descend_nil]))
      contradiction
  · rintro ⟨hproper, henterable, hpasses, houtside⟩
    have hfirst : ∀ before, before <+: rest →
        fs.resolve (base.descend (name :: before)) ≠ fs.resolve (base.descend []) := by
      intro before hbefore
      rw [Path.descend_cons, Path.descend_nil, hresolve]
      exact houtside before hbefore resolved List.mem_cons_self
    refine ⟨List.forall_mem_cons.mpr ⟨hproper, hpasses.proper⟩, forall_prefix_cons.mpr ?_,
      fun hallow => forall_prefix_cons.mpr ⟨by simp, fun before hbefore _ => ?_⟩, ?_⟩
    · simp only [Path.descend_nil, Path.descend_cons]
      exact ⟨hbase, hpasses.isDirectory⟩
    · rw [Path.descend_cons]
      by_cases hnil : before = []
      · rw [hnil, Path.descend_nil]
        exact henterable.plain hallow
      · exact hpasses.plain hallow before hbefore hnil
    · intro before other hbefore hother hsame
      obtain rfl | ⟨others, rfl, hothers⟩ := List.prefix_cons_iff.mp hbefore <;>
        obtain rfl | ⟨others', rfl, hothers'⟩ := List.prefix_cons_iff.mp hother
      · rfl
      · exact absurd hsame.symm (hfirst others' hothers')
      · exact absurd hsame (hfirst others hothers)
      · rw [Path.descend_cons, Path.descend_cons] at hsame
        rw [hpasses.distinct others others' hothers hothers' hsame]

/-- A way outside some directories goes on outside these and the first one. -/
theorem passes_outside_cons (hbase : fs.isDirectory base = .ok true)
    (hresolve : fs.resolve base = .ok resolved) :
    Passes options fs base (name :: rest) ∧ Outside fs around base (name :: rest) ↔
      resolved ∉ around ∧ IsProper name ∧ Enterable options fs (base.child name) ∧
        Passes options fs (base.child name) rest ∧
          Outside fs (resolved :: around) (base.child name) rest := by
  have hapart : (∀ p ∈ around, fs.resolve base ≠ .ok p) ↔ resolved ∉ around := by
    rw [hresolve]
    exact ⟨fun h hmem => h resolved hmem rfl, fun h p hp heq => h (Except.ok.inj heq ▸ hp)⟩
  rw [passes_cons hbase hresolve, outside_cons, hapart, outside_cons_around resolved around]
  tauto

/-- A listing asks for the names in the directories that it passes. -/
theorem Asks.exists_passes (htree : fs.IsTree) (h : Asks options fs around base names) :
    ∃ before name known, names = before ++ [name] ∧ Passes options fs base before ∧
      Outside fs around base before ∧ fs.list (base.descend before) = .ok known ∧ name ∈ known := by
  induction h with
  | @child around base resolved known name hentered hname =>
    refine ⟨[], name, known, rfl, passes_nil hentered.isDirectory, ?_, ?_, hname⟩
    · intro before hbefore p hp
      rw [List.prefix_nil.mp hbefore, Path.descend_nil, hentered.resolve]
      rintro ⟨⟩
      exact hentered.apart hp
    · rw [Path.descend_nil]
      exact hentered.list
  | @inside around base resolved known name rest hentered hname henterable _ ih =>
    obtain ⟨before, last, names, rfl, hpasses, houtside, hlist, hlast⟩ := ih
    obtain ⟨location, -, -, -, hknown⟩ := exists_location htree hentered.isDirectory
    obtain rfl := Except.ok.inj (hentered.list.symm.trans hknown)
    have hproper := isProper_of_mem_children htree hname
    obtain ⟨hpasses, houtside⟩ := (passes_outside_cons hentered.isDirectory hentered.resolve).mpr
      ⟨hentered.apart, hproper, henterable, hpasses, houtside⟩
    refine ⟨name :: before, last, names, rfl, hpasses, houtside, ?_, hlast⟩
    rwa [Path.descend_cons]

/-- A name that leads from a directory to something is one of the names in it. -/
theorem mem_known_of_lookup (htree : fs.IsTree) {known : List Text} {place : Location} {node : Node}
    (hbase : fs.isDirectory base = .ok true) (hknown : fs.list base = .ok known)
    (hname : IsProper name) (h : fs.lookup true (base.child name) = .ok (.found place node)) :
    name ∈ known := by
  obtain ⟨location, -, hlookup, -, hlist⟩ := exists_location htree hbase
  obtain rfl := Except.ok.inj (hknown.symm.trans hlist)
  exact mem_children_of_lookup hname hlookup h

theorem asks_of_passes (htree : fs.IsTree) {before known : List Text}
    (hpasses : Passes options fs base before) (houtside : Outside fs around base before)
    (hlist : fs.list (base.descend before) = .ok known) (hname : name ∈ known) :
    Asks options fs around base (before ++ [name]) := by
  induction before generalizing around base with
  | nil =>
    obtain ⟨location, -, -, hresolve, -⟩ := exists_location htree hpasses.start
    rw [Path.descend_nil] at hlist
    refine .child ⟨hpasses.start, hresolve, fun hmem => ?_, hlist⟩ hname
    exact houtside [] List.nil_prefix _ hmem (by rwa [Path.descend_nil])
  | cons first before ih =>
    obtain ⟨location, -, -, hresolve, hfirst⟩ := exists_location htree hpasses.start
    obtain ⟨hapart, hproper, henterable, hpasses', houtside'⟩ :=
      (passes_outside_cons hpasses.start hresolve).mp ⟨hpasses, houtside⟩
    rw [Path.descend_cons] at hlist
    obtain ⟨-, place, hlookup⟩ := isDirectory_eq_ok_true.mp henterable.isDirectory
    refine .inside ⟨hpasses.start, hresolve, hapart, hfirst⟩ ?_ henterable
      (ih hpasses' houtside' hlist)
    exact mem_known_of_lookup htree hpasses.start hfirst hproper hlookup

end Listing
end GameArchive
