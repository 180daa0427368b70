import GameArchive.Proofs.Import.Twins
import GameArchive.Proofs.Package.Imports

/-!
# Imports and directories

The names of a module are those of the directories on the way to its script, and its own. A relative
path drops one of them for each leading dot: the first dot drops the module itself, so one dot stands
for the directory of the script, and each further dot for the directory above. Paths that go out of
the shared directory end there.
-/

namespace GameArchive
namespace Import

/-- What the path stands for in a script in these directories: without dots for itself; otherwise
each dot but the first drops a directory, and the names of the path follow. -/
def SeenIn (directories : List Text) (path : DottedPath) (resolved : Text) : Prop :=
  (path.dots = 0 → resolved = path.text) ∧
    (0 < path.dots → resolved = Text.join "."
      (directories.take (directories.length + 1 - path.dots) ++ path.names))

/-- What the record of a statement says in a script in these directories. In a `from` statement the
name is behind the path. -/
def Form.RecordedIn (directories : List Text) (r : Record) : Form → Prop
  | .whole path _ => SeenIn directories path r.resolvedPath
  | .member path name _ =>
    SeenIn directories path r.package ∧ SeenIn directories (path.extend name) r.resolvedPath

theorem SeenIn.own_directory {directories names : List Text} {resolved : Text}
    (h : SeenIn directories ⟨1, names⟩ resolved) :
    resolved = Text.join "." (directories ++ names) := by
  have hnames := h.2 Nat.one_pos
  rwa [Nat.add_sub_cancel, List.take_length] at hnames

/-! ## Bases of such names -/

/-- A name that is one segment of a base. -/
def IsSegment (name : Text) : Prop := name ≠ [] ∧ dot ∉ name

theorem segments_join {names : List Text} (hne : names ≠ [])
    (h : ∀ name ∈ names, IsSegment name) : segments (Text.join "." names) = names := by
  have hjoin : Text.join "." names ≠ [] := by
    intro hnil
    apply hne
    exact (join_eq_nil fun first hfirst => (h first (List.mem_of_head? hfirst)).1).mp hnil
  have hdots : ∀ name ∈ names, dot ∉ name := fun name hname => (h name hname).2
  rw [segments, if_neg (by simpa using hjoin), ← dot, Text.join_eq_intercalate,
    Text.split_eq_splitOn, dot_text, List.splitOn_intercalate dot hdots hne]

theorem not_startsWithDot_join {names : List Text} (h : ∀ name ∈ names, IsSegment name) :
    ¬StartsWithDot (Text.join "." names) := by
  cases names with
  | nil => exact fun hdot => absurd hdot (by decide)
  | cons first rest =>
    obtain ⟨hne, hdot⟩ := h first List.mem_cons_self
    rw [startsWithDot_join]
    rintro (hstart | ⟨hnil, -⟩)
    · exact hdot hstart.mem
    · exact hne hnil

section Module

variable {directories : List Text} {module : Text}
  (hnames : ∀ name ∈ directories ++ [module], IsSegment name)

include hnames

/-- The first dot drops the name of the module itself. -/
theorem seenIn_resolve {p : DottedPath} (h : p.HasNames ∨ p.OnlyDots) :
    SeenIn directories p (resolve p.text (Text.join "." (directories ++ [module]))) := by
  rw [resolve_text h, DottedPath.seenFrom, DottedPath.keptSegments,
    segments_join (by simp) hnames]
  constructor
  · intro hzero
    simp [hzero, DottedPath.text, DottedPath.leading]
  · intro hpos
    have hle : directories.length + 1 - p.dots ≤ directories.length := by omega
    rw [if_neg (Nat.ne_of_gt hpos), List.length_append, List.length_singleton,
      List.take_append_of_le_length hle]

theorem recordedIn_record {form : Form} (hform : form.IsProper) (line : Nat) :
    form.RecordedIn directories
      (form.record (Text.join "." (directories ++ [module])) line) := by
  cases form with
  | whole path alias? => exact seenIn_resolve hnames (.inl hform.1)
  | member path name alias? =>
    obtain ⟨hpath, hname, -⟩ := hform
    refine ⟨seenIn_resolve hnames hpath, ?_⟩
    have hresolved : (Form.record (Text.join "." (directories ++ [module])) line
        (.member path name alias?)).resolvedPath =
        resolve (path.extend name).text (Text.join "." (directories ++ [module])) :=
      (resolve_extend hpath hname (not_startsWithDot_join hnames)).symm
    rw [hresolved]
    exact seenIn_resolve hnames (.inl (.extend hpath hname))

end Module

end Import

namespace Package

open FileSystem (IsProper)
open Import (Derives dot)
open Operation

variable {fs : FileSystem} {s : Session} {paths : Paths} {shared script : Path}
  {names : List Text} {bytes : Bytes}

/-- The script can be read, and the names lead to it from the place of the shared directory. -/
structure StandsAt (fs : FileSystem) (shared script : Path) (names : List Text) (bytes : Bytes) :
    Prop where
  isDirectory : fs.isDirectory shared = .ok true
  read : fs.read script = .ok bytes
  place : ∀ base place, fs.resolve shared = .ok base → fs.resolve script = .ok place →
    place.below? base = some names

/-- Where no links are, a script stands at the names of its path. -/
theorem standsAt_of_no_links (hlinks : NoLinksBelow fs shared) (htree : fs.IsTree)
    (hnames : ∀ name ∈ names, IsProper (Utf8.entryName name))
    (hdirectory : fs.isDirectory shared = .ok true)
    (hread : fs.read (shared.descend names) = .ok bytes) :
    StandsAt fs shared (shared.descend names) names bytes where
  isDirectory := hdirectory
  read := hread
  place := by
    intro base place hbase hplace
    obtain ⟨location, -, hshared, hresolved, -⟩ := Listing.exists_location htree hdirectory
    obtain ⟨htakes, _, _, hscript⟩ := FileSystem.read_eq_ok.mp hread
    obtain rfl := Except.ok.inj (hresolved.symm.trans hbase)
    obtain rfl := Except.ok.inj ((FileSystem.resolve_eq htree htakes hscript).symm.trans hplace)
    exact FileSystem.below?_resolvePath htree hshared hnames (hlinks location hshared)

namespace StandsAt

/-- What the paths of the shared directory and of the script are resolved to. -/
theorem exists_below? (h : StandsAt fs shared script names bytes) (htree : fs.IsTree) :
    ∃ base place, fs.resolve shared = .ok base ∧ fs.resolve script = .ok place ∧
      place.below? base = some names := by
  obtain ⟨-, -, -, hbase, -⟩ := Listing.exists_location htree h.isDirectory
  obtain ⟨htakes, _, _, hscript⟩ := FileSystem.read_eq_ok.mp h.read
  have hplace := FileSystem.resolve_eq htree htakes hscript
  exact ⟨_, _, hbase, hplace, h.place _ _ hbase hplace⟩

theorem ne_nil (h : StandsAt fs shared script names bytes) (htree : fs.IsTree) {name : Text}
    (hname : name ∈ names) : name ≠ [] := by
  obtain ⟨base, place, -, hplace, hbelow⟩ := h.exists_below? htree
  exact ne_nil_of_below? htree h.read hplace hbelow hname

theorem moduleName_eq (h : StandsAt fs shared script names bytes) (htree : fs.IsTree)
    (hnames : names ≠ []) : moduleName fs shared script = .ok (moduleOf names) := by
  obtain ⟨base, place, hbase, hplace, hbelow⟩ := h.exists_below? htree
  refine moduleName_eq_ok.mpr ⟨_, _, names, hplace, hbase, hbelow, ?_, rfl⟩
  rw [List.getLast?_eq_some_getLast hnames]
  exact h.ne_nil htree (List.getLast_mem hnames)

end StandsAt

/-! ## Modules and imports -/

theorem moduleOf_concat {module ending : Text} (directories : List Text)
    (hending : Path.cutName (module ++ ending) = (module, ending)) :
    moduleOf (directories ++ [module ++ ending]) = Text.join "." (directories ++ [module]) := by
  simp [moduleOf, hending]

theorem ne_nil_of_cutName {module ending : Text} (hne : module ++ ending ≠ [])
    (hending : Path.cutName (module ++ ending) = (module, ending)) : module ≠ [] := by
  rintro rfl
  have hhead := head?_cutName ending
  rw [List.nil_append] at hending hne
  rw [hending] at hhead
  exact hne (List.head?_eq_none_iff.mp hhead.symm)

/-- The module of a script in some directories, none with a dot in its name, has their names and its
own without the ending. The records of its imports are those of its lines, and each relative path in
them leaves a directory for every dot but the first. -/
theorem scriptImports_seenIn (htree : s.files.IsTree) (hpaths : s.package.paths = some paths)
    {directories : List Text} {module ending : Text}
    (hscript : StandsAt s.files paths.shared script (directories ++ [module ++ ending]) bytes)
    (hending : Path.cutName (module ++ ending) = (module, ending))
    (hdots : ∀ name ∈ directories ++ [module], dot ∉ name) :
    moduleNameFor script s = .ok (Text.join "." (directories ++ [module])) s ∧
      (∀ t settings loaded, Utf8.decode bytes = .ok t → Configuration.current s = .ok settings loaded →
        ∃ records after, scriptImports script s = .ok records after ∧
          ∀ r, r ∈ records ↔ ∃ i line form, (Text.lines t.unifyNewlines)[i]? = some line ∧
            Derives line form ∧
            r = form.record (Text.join "." (directories ++ [module])) (i + 1)) ∧
      (∀ line form, Derives line form → ∀ number, form.RecordedIn directories
        (form.record (Text.join "." (directories ++ [module])) number)) ∧
      ∀ names resolved, Import.SeenIn directories ⟨1, names⟩ resolved →
        resolved = Text.join "." (directories ++ names) := by
  have hmodule : moduleName s.files paths.shared script =
      .ok (Text.join "." (directories ++ [module])) := by
    rw [hscript.moduleName_eq htree (by simp), moduleOf_concat directories hending]
  have hproper : ∀ name ∈ directories ++ [module ++ ending], name ≠ [] := fun _ =>
    hscript.ne_nil htree
  have hnames : ∀ name ∈ directories ++ [module], Import.IsSegment name := by
    intro name hname
    refine ⟨?_, hdots name hname⟩
    rcases List.mem_append.mp hname with hdirectory | hlast
    · exact hproper name (List.mem_append_left _ hdirectory)
    · rw [List.mem_singleton.mp hlast]
      exact ne_nil_of_cutName (hproper _ (by simp)) hending
  have hnamed : moduleNameFor script s = .ok (Text.join "." (directories ++ [module])) s :=
    (moduleNameFor_eq_ok hpaths).mpr ⟨rfl, hmodule⟩
  refine ⟨hnamed, ?_, ?_, fun names resolved => Import.SeenIn.own_directory⟩
  · intro t settings loaded htext hcurrent
    obtain ⟨after, hnoted, -, -⟩ := exists_noted settings.strictImports
      (Import.scan (Text.join "." (directories ++ [module])) t.unifyNewlines) loaded
    obtain ⟨-, hrecords, -⟩ :=
      Import.scan_spec (Text.join "." (directories ++ [module])) t.unifyNewlines
    refine ⟨_, after, ?_, hrecords⟩
    rw [scriptImports, bind_of_ok (readText_eq hscript.read htext), bind_of_ok hnamed,
      parseImports_eq, bind_of_ok hcurrent, hnoted]
  · intro line form hform number
    exact Import.recordedIn_record hnames hform.isProper number

/-- An archive with a script two directories below the shared one. -/
def menuSession : Session :=
  { Session.start {
      entries := [
        (["shared"].map Text.ofString, .directory),
        (["shared", "game"].map Text.ofString, .directory),
        (["shared", "game", "ui"].map Text.ofString, .directory),
        (["shared", "game", "ui", "Menu.js"].map Text.ofString,
          .file 0 (Utf8.encodeAny "import ..core.X;\nfrom . import Z;"))]
      current := []
      made := 1
      distinct := by decide } with
    settings := some Settings.default
    package := ⟨some rootPaths, none⟩ }

def menuScript : Path := rootPaths.shared.descend (["game", "ui", "Menu.js"].map Text.ofString)

/-- Two dots leave the directory of the script, and one dot stands for it. -/
theorem scriptImports_seenIn_menu :
    moduleNameFor menuScript menuSession = .ok "game.ui.Menu" menuSession ∧
      ∃ records after, scriptImports menuScript menuSession = .ok records after ∧
        (∃ r ∈ records, r.kind = .import_ ∧ r.resolvedPath = "game.core.X") ∧
        ∃ r ∈ records, r.kind = .from_ ∧ r.package = "game.ui" ∧ r.resolvedPath = "game.ui.Z" := by
  have htree : menuSession.files.IsTree :=
    FileSystem.isTree_of_entries (by decide +kernel) (by decide +kernel)
  have hlinks : NoLinksBelow menuSession.files rootPaths.shared :=
    noLinksBelow_of_entries (by simp [menuSession, Session.start]) _
  have hread : menuSession.files.read menuScript =
      .ok (Utf8.encodeAny "import ..core.X;\nfrom . import Z;") := rfl
  have hscript : StandsAt menuSession.files rootPaths.shared menuScript
      (["game", "ui"].map Text.ofString ++ [Text.ofString "Menu" ++ Text.ofString ".js"])
      (Utf8.encodeAny "import ..core.X;\nfrom . import Z;") :=
    standsAt_of_no_links hlinks htree (by decide +kernel) rfl hread
  obtain ⟨hmodule, himports, hrecorded, -⟩ := scriptImports_seenIn (s := menuSession) htree rfl
    hscript (by decide +kernel) (by decide +kernel)
  obtain ⟨records, after, hrecords, hmem⟩ := himports _ _ _ (Utf8.decode_encodeAny (by decide))
    (Configuration.current_eq rfl)
  have hcore := Import.derives_wholeLine (p := ⟨2, ["core", "X"].map Text.ofString⟩)
    ⟨by decide, by decide⟩
  have hname : Import.isName (Text.ofString "Z") = true := by decide
  have hown := Import.derives_memberLine (p := ⟨1, []⟩) (.inr ⟨Nat.one_pos, rfl⟩) hname
  refine ⟨hmodule, records, after, hrecords, ?_, ?_⟩
  · have hseen := hrecorded _ _ hcore 1
    refine ⟨_, (hmem _).mpr ⟨0, _, _, by decide +kernel, hcore, rfl⟩, rfl, ?_⟩
    exact (hseen.2 (by decide)).trans (by decide +kernel)
  · have hseen := hrecorded _ _ hown 2
    refine ⟨_, (hmem _).mpr ⟨1, _, _, by decide +kernel, hown, rfl⟩, rfl, ?_, ?_⟩
    · exact (hseen.1.2 (by decide)).trans (by decide +kernel)
    · exact (hseen.2.2 (by decide)).trans (by decide +kernel)

end Package
end GameArchive
