import GameArchive.Package.Scripts
import GameArchive.Proofs.FileSystem.Resolve
import GameArchive.Proofs.Import.Leading
import GameArchive.Proofs.Session.Quiet

/-!
# Modules and their imports

A script is a module by its place below the shared directory. Its imports are those of the grammar,
seen from this module. A record starts with a dot only if the first name on the way to the script
does, and then if the dots of its statement leave this name and something behind it.
-/

namespace GameArchive
namespace Package

open Import (Derives StartsWithDot startsWithDot_join LeavesFirst)
open Operation

variable {fs : FileSystem} {s after : Session} {paths : Paths} {script shared : Path}
  {records : List Import.Record}

/-! ## Modules by their names -/

/-- The module that is found by these names below the shared directory. -/
def moduleOf (names : List Text) : Text :=
  Text.join "." (names.dropLast ++ [(Path.cutName (names.getLast?.getD [])).1])

theorem moduleName_eq_ok {module : Text} : moduleName fs shared script = .ok module ↔
    ∃ place base names, fs.resolve script = .ok place ∧ fs.resolve shared = .ok base ∧
      place.below? base = some names ∧ names.getLast?.getD [] ≠ [] ∧ moduleOf names = module := by
  unfold moduleName
  cases hscript : fs.resolve script with
  | error failure => simp [Except.mapError, bind, Except.bind]
  | ok place =>
  cases hshared : fs.resolve shared with
  | error failure => simp [Except.mapError, bind, Except.bind]
  | ok base =>
  cases hbelow : place.below? base with
  | none => simp [Except.mapError, bind, Except.bind, hbelow]
  | some names =>
    by_cases hlast : names.getLast?.getD [] = []
    · simp [Except.mapError, bind, Except.bind, hbelow, Path.withSuffix?, Path.name, hlast]
    · simp [Except.mapError, bind, Except.bind, hbelow, Path.withSuffix?, Path.name, hlast,
        Path.stem, moduleOf, pure, Except.pure]

theorem head?_cutName (name : Text) : (Path.cutName name).1.head? = name.head? := by
  unfold Path.cutName
  dsimp only
  split
  · rfl
  · next hcut =>
    rw [List.head?_take, if_neg (by omega)]

theorem startsWithDot_moduleOf {first : Text} (hfirst : first ≠ []) (rest : List Text) :
    StartsWithDot (moduleOf (first :: rest)) ↔ StartsWithDot first := by
  cases rest with
  | nil => simp [moduleOf, Text.join, StartsWithDot, head?_cutName]
  | cons second rest =>
    rw [moduleOf, List.dropLast_cons_cons, List.cons_append, startsWithDot_join]
    simp [hfirst]

/-! ## Imports of a script -/

theorem exists_logUnmatched (u : Import.Unmatched) (s : Session) :
    ∃ after, log .warning importLogger u.warning s = .ok () after ∧ Quiet s after ∧
      after.settings = s.settings := exists_log _ _ _ s

/-- The records of a scan, with its unmatched lines noted if that is asked for. -/
def noted (isStrict : Bool) (scan : Import.Scan) : Operation (List Import.Record) := do
  if isStrict then scan.unmatched.forM fun u => log .warning importLogger u.warning
  return scan.records

theorem exists_noted (isStrict : Bool) (scan : Import.Scan) (s : Session) :
    ∃ after, noted isStrict scan s = .ok scan.records after ∧ Quiet s after ∧
      after.settings = s.settings := by
  cases isStrict with
  | false => exact ⟨s, rfl, .refl s, rfl⟩
  | true =>
    obtain ⟨after, hlog, hquiet, hsettings⟩ := exists_forM exists_logUnmatched scan.unmatched s
    exact ⟨after, bind_of_ok hlog _, hquiet, hsettings⟩

theorem parseImports_eq (base code : Text) : parseImports base none false code =
    Configuration.current >>= fun settings =>
      noted settings.strictImports (Import.scan base code) := rfl

theorem parseImports_eq_ok {base code : Text}
    (h : parseImports base none false code s = .ok records after) :
    records = (Import.scan base code).records ∧ Quiet s after := by
  rw [parseImports_eq] at h
  obtain ⟨settings, middle, hcurrent, hnoted⟩ := exists_of_bind_ok h
  obtain ⟨last, hlast, hquiet, -⟩ :=
    exists_noted settings.strictImports (Import.scan base code) middle
  cases hlast.symm.trans hnoted
  exact ⟨rfl, (Configuration.quietly_current s settings middle hcurrent).trans hquiet⟩

/-- With settings at hand the imports of a text are always found. -/
theorem exists_parseImports {settings : Settings} (hsettings : s.settings = some settings)
    (base code : Text) :
    ∃ after, parseImports base none false code s = .ok (Import.scan base code).records after ∧
      Quiet s after ∧ after.settings = some settings := by
  obtain ⟨after, hnoted, hquiet, hkept⟩ :=
    exists_noted settings.strictImports (Import.scan base code) s
  refine ⟨after, ?_, hquiet, hkept.trans hsettings⟩
  rw [parseImports_eq, bind_of_ok (Configuration.current_eq hsettings), hnoted]

theorem moduleNameFor_eq (hpaths : s.package.paths = some paths) (script : Path) :
    moduleNameFor script s = settle (moduleName s.files paths.shared script) s := by
  rw [moduleNameFor, bind_of_ok (knownPaths_eq hpaths), get_bind]
  cases moduleName s.files paths.shared script <;> rfl

theorem moduleNameFor_eq_ok (hpaths : s.package.paths = some paths) {module : Text} :
    moduleNameFor script s = .ok module after ↔
      after = s ∧ moduleName s.files paths.shared script = .ok module := by
  rw [moduleNameFor_eq hpaths]
  cases moduleName s.files paths.shared script with
  | error failure => exact ⟨nofun, fun h => nomatch h.2⟩
  | ok name =>
    constructor
    · intro h
      cases h
      exact ⟨rfl, rfl⟩
    · rintro ⟨rfl, h⟩
      cases h
      rfl

/-- The imports of a script are those of its text, seen from its module. -/
theorem scriptImports_eq_ok (hpaths : s.package.paths = some paths)
    (h : scriptImports script s = .ok records after) :
    ∃ code module, readText script s = .ok code s ∧
      moduleName s.files paths.shared script = .ok module ∧
      records = (Import.scan module code).records ∧ Quiet s after := by
  obtain ⟨code, read, hcode, h⟩ := exists_of_bind_ok h
  obtain ⟨module, named, hmodule, hparse⟩ := exists_of_bind_ok h
  obtain ⟨rfl, -⟩ := readText_eq_ok.mp hcode
  obtain ⟨rfl, hmodule⟩ := (moduleNameFor_eq_ok hpaths).mp hmodule
  obtain ⟨hrecords, hquiet⟩ := parseImports_eq_ok hparse
  exact ⟨code, module, hcode, hmodule, hrecords, hquiet⟩

/-- Of a script that can be read, with settings at hand, the imports are always found. -/
theorem exists_scriptImports {settings : Settings} {code module : Text}
    (hpaths : s.package.paths = some paths) (hsettings : s.settings = some settings)
    (hcode : readText script s = .ok code s)
    (hmodule : moduleName s.files paths.shared script = .ok module) :
    ∃ after, scriptImports script s = .ok (Import.scan module code).records after ∧
      Quiet s after ∧ after.settings = some settings := by
  obtain ⟨after, hparse, hquiet, hkept⟩ := exists_parseImports hsettings module code
  refine ⟨after, ?_, hquiet, hkept⟩
  rw [scriptImports, bind_of_ok hcode,
    bind_of_ok ((moduleNameFor_eq_ok hpaths).mpr ⟨rfl, hmodule⟩), hparse]

/-! ## Leading dots -/

theorem names_of_below? {place base : Path} {names : List Text}
    (h : place.below? base = some names) : place.names = base.names ++ names := by
  unfold Path.below? at h
  split at h
  · exact (List.isPrefixOf?_eq_some_iff_append_eq.mp h).symm
  · contradiction

/-- The names that lead to a script from the shared directory are not empty. -/
theorem ne_nil_of_below? (htree : fs.IsTree) {bytes : Bytes} (hread : fs.read script = .ok bytes)
    {place base : Path} {names : List Text} (hplace : fs.resolve script = .ok place)
    (hbelow : place.below? base = some names) {name : Text} (hname : name ∈ names) : name ≠ [] := by
  obtain ⟨htakes, location, number, hlookup⟩ := FileSystem.read_eq_ok.mp hread
  obtain ⟨hget, -⟩ := FileSystem.get?_of_found htree hlookup
  obtain rfl := Except.ok.inj ((FileSystem.resolve_eq htree htakes hlookup).symm.trans hplace)
  have hmem : name ∈ (fs.resolvePath script).names :=
    names_of_below? hbelow ▸ List.mem_append_right _ hname
  have hlocation : Utf8.entryName name ∈ location :=
    FileSystem.entryNames_resolvePath htree hlookup ▸ List.mem_map_of_mem hmem
  exact fun hnil =>
    (htree.isProper_of_mem hget hlocation).ne_nil (Utf8.entryName_eq_nil.mpr hnil)

/-- The records of a script are those of its lines. One starts with a dot exactly if the first name
on the way from the shared directory to the script starts with one, and the dots of the statement
leave this name of the module and something behind it. -/
theorem scriptImports_startsWithDot (htree : s.files.IsTree) (hpaths : s.package.paths = some paths)
    (h : scriptImports script s = .ok records after) :
    ∃ code place base first rest module, readText script s = .ok code s ∧
      s.files.resolve script = .ok place ∧ s.files.resolve paths.shared = .ok base ∧
      place.below? base = some (first :: rest) ∧ module = moduleOf (first :: rest) ∧
      (∀ r, r ∈ records ↔ ∃ i line form, (Text.lines code)[i]? = some line ∧ Derives line form ∧
        r = form.record module (i + 1)) ∧
      ∀ line form, Derives line form → ∀ number,
        (StartsWithDot (form.record module number).package ↔
          StartsWithDot first ∧ LeavesFirst module form.path.dots (form.packageNames ≠ [])) ∧
        (StartsWithDot (form.record module number).resolvedPath ↔
          StartsWithDot first ∧ LeavesFirst module form.path.dots (form.path.names ≠ [])) := by
  obtain ⟨code, module, hcode, hmodule, rfl, -⟩ := scriptImports_eq_ok hpaths h
  obtain ⟨-, bytes, t, hread, -, -⟩ := readText_eq_ok.mp hcode
  obtain ⟨place, base, names, hplace, hbase, hbelow, hlast, rfl⟩ := moduleName_eq_ok.mp hmodule
  obtain ⟨first, rest, rfl⟩ : ∃ first rest, names = first :: rest := by
    refine List.exists_cons_of_ne_nil ?_
    rintro rfl
    exact hlast rfl
  have hfirst : first ≠ [] :=
    ne_nil_of_below? htree hread hplace hbelow List.mem_cons_self
  obtain ⟨-, hrecords, -⟩ := Import.scan_spec (moduleOf (first :: rest)) code
  refine ⟨code, place, base, first, rest, _, hcode, hplace, hbase, hbelow, rfl, hrecords, ?_⟩
  intro line form hform number
  rw [← startsWithDot_moduleOf hfirst rest]
  exact ⟨Import.Form.startsWithDot_package hform.isProper _ _,
    Import.Form.startsWithDot_resolvedPath hform.isProper _ _⟩

/-- An archive that is the root. -/
def rootPaths : Paths := ⟨⟨.root, []⟩⟩

/-- An archive with one script, in a directory whose name starts with a dot. -/
def hiddenSession : Session :=
  { Session.start {
      entries := [
        (["shared"].map Text.ofString, .directory),
        (["shared", ".hidden"].map Text.ofString, .directory),
        (["shared", ".hidden", "a.js"].map Text.ofString, .file 0 (Utf8.encodeAny "import .X;"))]
      current := []
      made := 1
      distinct := by decide } with
    settings := some Settings.default
    package := ⟨some rootPaths, none⟩ }

def hiddenScript : Path := ⟨.root, ["shared", ".hidden", "a.js"].map Text.ofString⟩

theorem scriptImports_startsWithDot_hidden :
    ∃ (records : List Import.Record) (after : Session) (place base : Path) (first : Text)
      (rest : List Text),
      scriptImports hiddenScript hiddenSession = .ok records after ∧
      place.below? base = some (first :: rest) ∧ StartsWithDot first ∧
      ∃ r ∈ records, StartsWithDot r.package ∧ StartsWithDot r.resolvedPath := by
  have htree : hiddenSession.files.IsTree :=
    FileSystem.isTree_of_entries (by decide +kernel) (by decide +kernel)
  have hread : hiddenSession.files.read hiddenScript = .ok (Utf8.encodeAny "import .X;") := rfl
  have hpaths : hiddenSession.package.paths = some rootPaths := rfl
  have hcode : readText hiddenScript hiddenSession = .ok "import .X;" hiddenSession :=
    readText_eq_ok.mpr ⟨rfl, _, "import .X;", hread, Utf8.decode_encodeAny (by decide),
      (Text.unifyNewlines_eq_self (by decide)).symm⟩
  have hmodule : moduleName hiddenSession.files rootPaths.shared hiddenScript =
      .ok ".hidden.a" := by decide +kernel
  have hscan : (Import.scan ".hidden.a" "import .X;").records =
      [⟨.import_, ".hidden", "X", "X", ".hidden.X", 1⟩] := by decide +kernel
  obtain ⟨after, himports, -, -⟩ := exists_scriptImports hpaths rfl hcode hmodule
  rw [hscan] at himports
  obtain ⟨code, place, base, first, rest, module, -, -, -, hbelow, -, hrecords, hdots⟩ :=
    scriptImports_startsWithDot htree hpaths himports
  obtain ⟨i, line, form, -, hform, hrecord⟩ := (hrecords _).mp List.mem_cons_self
  have hpackage : StartsWithDot (form.record module (i + 1)).package := by
    rw [← hrecord]
    decide
  exact ⟨_, after, place, base, first, rest, himports, hbelow,
    ((hdots line form hform (i + 1)).1.mp hpackage).1, _, List.mem_cons_self, by decide, by decide⟩

end Package
end GameArchive
