import GameArchive.Proofs.Listing.Visits
import GameArchive.Proofs.Manifest.Saving
import GameArchive.Proofs.Package.Modules
import Mathlib.Data.List.Dedup

/-!
# Imports of all scripts

The imports of an archive are kept by modules, and a script whose module comes again takes the place
of the one before. Where no links are below the shared directory, the module of a script is made of
the names that lead to it, so scripts are lost exactly if two of them make the same module.
-/

namespace GameArchive
namespace Package

open FileSystem (IsProper)
open Listing (IsListed Takes Keeps)
open Operation

variable {fs : FileSystem} {s after : Session} {paths : Paths}

/-! ## Tables of imports -/

namespace ImportTable

variable {table : ImportTable} {name other : Text} {records : List Import.Record}

def modules (table : ImportTable) : List Text := table.map (·.1)

theorem mem_modules_put : other ∈ (table.put name records).modules ↔
    other = name ∨ other ∈ table.modules := by
  induction table with
  | nil => simp [put, modules]
  | cons entry table ih =>
    obtain ⟨k, v⟩ := entry
    simp only [modules] at ih
    rw [put]
    split
    · next hk => simp [modules, hk]
    · simp only [modules, List.map_cons, List.mem_cons, ih]
      tauto

theorem nodup_put (h : table.modules.Nodup) : (table.put name records).modules.Nodup := by
  induction table with
  | nil => simp [put, modules]
  | cons entry table ih =>
    obtain ⟨k, v⟩ := entry
    obtain ⟨hk, hrest⟩ := List.nodup_cons.mp h
    rw [put]
    split
    · exact h
    · next hne =>
      refine List.nodup_cons.mpr ⟨fun hmem => ?_, ih hrest⟩
      exact (mem_modules_put.mp hmem).elim hne hk

theorem lookup_cons_other {entry : Text × List Import.Record} (h : other ≠ entry.1) :
    List.lookup other (entry :: table) = table.lookup other := by
  rw [List.lookup_cons, beq_false_of_ne h]

theorem lookup_cons_self (entry : Text × List Import.Record) :
    List.lookup entry.1 (entry :: table) = some entry.2 := by
  rw [List.lookup_cons, beq_self_eq_true]

theorem lookup_put_self : (table.put name records).lookup name = some records := by
  induction table with
  | nil => exact lookup_cons_self (name, records)
  | cons entry table ih =>
    obtain ⟨k, v⟩ := entry
    rw [put]
    split
    · next hk => exact hk ▸ lookup_cons_self (k, records)
    · next hk => rw [lookup_cons_other (Ne.symm hk), ih]

theorem lookup_put_other (h : other ≠ name) :
    (table.put name records).lookup other = table.lookup other := by
  induction table with
  | nil => exact lookup_cons_other h
  | cons entry table ih =>
    obtain ⟨k, v⟩ := entry
    rw [put]
    split
    · next hk => rw [lookup_cons_other (hk ▸ h), lookup_cons_other (hk ▸ h)]
    · by_cases hother : other = k
      · subst hother
        exact (lookup_cons_self (other, v)).trans (lookup_cons_self (other, v)).symm
      · rw [lookup_cons_other hother, lookup_cons_other hother, ih]

/-- One script after the other is put into the table, by their modules and imports. -/
def putAll (table : ImportTable) (scripts : List (Text × List Import.Record)) : ImportTable :=
  scripts.foldl (fun table script => table.put script.1 script.2) table

variable {scripts : List (Text × List Import.Record)}

theorem mem_modules_putAll : other ∈ (table.putAll scripts).modules ↔
    other ∈ table.modules ∨ other ∈ scripts.map (·.1) := by
  induction scripts generalizing table with
  | nil => simp [putAll]
  | cons script scripts ih =>
    rw [putAll, List.foldl_cons, ← putAll, ih, mem_modules_put, List.map_cons, List.mem_cons]
    tauto

theorem nodup_putAll (h : table.modules.Nodup) : (table.putAll scripts).modules.Nodup := by
  induction scripts generalizing table with
  | nil => exact h
  | cons script scripts ih => exact ih (nodup_put h)

theorem lookup_putAll (h : name ∉ scripts.map (·.1)) :
    (table.putAll scripts).lookup name = table.lookup name := by
  induction scripts generalizing table with
  | nil => rfl
  | cons script scripts ih =>
    rw [List.map_cons, List.mem_cons, not_or] at h
    rw [putAll, List.foldl_cons, ← putAll, ih h.2, lookup_put_other h.1]

/-- The last script of a module is the one that counts. -/
theorem lookup_putAll_last {earlier later : List (Text × List Import.Record)}
    (h : name ∉ later.map (·.1)) :
    (table.putAll (earlier ++ (name, records) :: later)).lookup name = some records := by
  rw [putAll, List.foldl_append, List.foldl_cons, ← putAll, lookup_putAll h, lookup_put_self]

/-- No script is lost if each has a module of its own. -/
theorem length_putAll : (putAll [] scripts).length = scripts.length ↔
    (scripts.map (·.1)).Nodup := by
  have hnodup : (putAll [] scripts).modules.Nodup := nodup_putAll List.nodup_nil
  have hperm : (putAll [] scripts).modules.Perm (scripts.map (·.1)).dedup := by
    rw [List.perm_ext_iff_of_nodup hnodup (List.nodup_dedup _)]
    intro other
    rw [mem_modules_putAll, List.mem_dedup]
    simp [modules]
  have hlength : (putAll [] scripts).length = (scripts.map (·.1)).dedup.length := by
    rw [← hperm.length_eq, modules, List.length_map]
  have hmap : scripts.length = (scripts.map (·.1)).length := (List.length_map _).symm
  rw [hlength, hmap, ← List.dedup_eq_self]
  constructor
  · exact (List.dedup_sublist _).eq_of_length
  · exact congrArg List.length

end ImportTable

/-! ## Modules of listed scripts -/

/-- No links are below the directory. -/
def NoLinksBelow (fs : FileSystem) (p : Path) : Prop :=
  ∀ location, fs.lookup true p = .ok (.found location .directory) →
    ∀ names target, fs.get? (location ++ names) ≠ some (.link target)

theorem noLinksBelow_of_entries (h : ∀ entry ∈ fs.entries, ∀ target, entry.2 ≠ .link target)
    (p : Path) : NoLinksBelow fs p := by
  intro location _ names target hget
  by_cases hroot : location ++ names = []
  · simp [hroot, FileSystem.get?_nil] at hget
  · exact h _ (FileSystem.mem_entries_of_get? hget hroot) target rfl

variable {options : Listing.Options} {shared : Path} {names : List Text}

theorem isProper_of_isListed (h : IsListed options fs shared names) :
    ∀ name ∈ names, IsProper name := by
  obtain ⟨before, name, rfl, hname, hpasses, -⟩ := h
  simpa [or_imp, forall_and] using ⟨hpasses.proper, hname⟩

/-- Without links a script is where its names say. -/
theorem moduleName_of_isListed (htree : fs.IsTree) (hlinks : NoLinksBelow fs shared)
    (h : IsListed options fs shared names) :
    moduleName fs shared (shared.descend names) = .ok (moduleOf names) := by
  have hproper := isProper_of_isListed h
  obtain ⟨before, name, rfl, hname, hpasses, hfile, -⟩ := h
  obtain ⟨location, -, hlookup, hresolve, -⟩ := Listing.exists_location htree hpasses.start
  obtain ⟨content, hread⟩ := FileSystem.isFile_eq_ok_true.mp hfile
  obtain ⟨htakes, place, number, hfound⟩ := FileSystem.read_eq_ok.mp hread
  exact moduleName_eq_ok.mpr
    ⟨_, _, before ++ [name], FileSystem.resolve_eq htree htakes hfound, hresolve,
      FileSystem.below?_resolvePath htree hlookup (fun other hother => (hproper other hother).entryName)
        (hlinks location hlookup), by simpa using hname.ne_nil, rfl⟩

/-- The module of a script and the imports that its file holds. -/
def HasImports (fs : FileSystem) (shared script : Path)
    (found : Text × List Import.Record) : Prop :=
  moduleName fs shared script = .ok found.1 ∧ ∃ bytes t, fs.read script = .ok bytes ∧
    Utf8.decode bytes = .ok t ∧ found.2 = (Import.scan found.1 t.unifyNewlines).records

/-! ## Sessions that only log -/

theorem moduleName_edited {after : FileSystem} (h : fs.Edited after) (shared script : Path) :
    moduleName after shared script = moduleName fs shared script := by
  rw [moduleName, moduleName, h.resolve_eq, h.resolve_eq]

theorem read_of_logs {outputs : Option Log.Outputs} {after : FileSystem}
    (h : Log.Journal.Logs outputs fs after) {p : Path}
    (hlog : ∀ known number, outputs = some known → known.file = some number →
      ¬AtomicWrite.LeadsTo fs p number) (bytes : Bytes) :
    (after.read p = .ok bytes ↔ fs.read p = .ok bytes) ∧
      ∀ number, AtomicWrite.LeadsTo after p number ↔ AtomicWrite.LeadsTo fs p number := by
  induction h with
  | none => exact ⟨Iff.rfl, fun _ => Iff.rfl⟩
  | more _ hlogged ih =>
    cases hlogged with
    | nothing => exact ih
    | @line known number line houtputs hfile =>
      have hnot := mt (ih.2 number).mp (hlog known number houtputs hfile)
      refine ⟨(AtomicWrite.read_edit hnot _ bytes).trans ih.1, fun other => ?_⟩
      exact AtomicWrite.leadsTo_edit.trans (ih.2 other)

theorem read_of_quiet (h : Quiet s after) {p : Path} (hlog : LogElsewhere s p) (bytes : Bytes) :
    after.files.read p = .ok bytes ↔ s.files.read p = .ok bytes :=
  (read_of_logs h.files hlog bytes).1

/-! ## All scripts -/

/-- The names that lead from the shared directory to the scripts of a listing, and why it ends. -/
structure Scripts (s opened : Session) (shared : Path) (iterator : Listing.Iterator)
    (found : List (List Text)) (failure : Option FileSystem.Failure) : Prop where
  quiet : Quiet s opened
  settings : ∃ settings, opened.settings = some settings
  listed : failure = none → ∃ options, ∀ names ∈ found, IsListed options s.files shared names
  takes : ∀ comes : FileSystem → Prop, (∀ fs, comes fs → s.files.Edited fs) → comes opened.files →
    Takes comes (iterator opened.files) (found.map shared.descend, failure)

theorem scripts_of_openScripts (htree : s.files.IsTree) (hpaths : s.package.paths = some paths)
    {iterator : Listing.Iterator} {opened : Session} (h : openScripts s = .ok iterator opened) :
    ∃ found failure, Scripts s opened paths.shared iterator found failure := by
  rw [openScripts, bind_of_ok (knownPaths_eq hpaths)] at h
  obtain ⟨extension, loaded, hextension, hopen⟩ := exists_of_bind_ok h
  obtain ⟨settings, _, hcurrent, hpure⟩ := exists_of_bind_ok hextension
  cases hpure
  have hloaded := Configuration.quietly_current s settings loaded hcurrent
  have hsettings := Configuration.settings_of_current hcurrent
  cases hbase : loaded.files.isDirectory paths.shared with
  | error failure =>
    rw [Listing.openAt_of_error _ hbase] at hopen
    cases hopen
  | ok isDirectory =>
  cases isDirectory with
  | false =>
    rw [Listing.openAt_of_false _ hbase] at hopen
    cases hopen
    exact ⟨[], none, hloaded, ⟨settings, hsettings⟩, fun _ => ⟨⟨none, false⟩, by simp⟩,
      fun _ _ _ => .done⟩
  | true =>
    have hfirst : s.files.isDirectory paths.shared = .ok true := by
      rw [← hloaded.files.edited.isDirectory_eq, hbase]
    obtain ⟨endings, hendings⟩ : ∃ endings, Listing.endings? (Settings.texts
        [settings.scriptExtension.dropWhile fun c : CodePoint => c = '.']) = .ok endings := ⟨_, rfl⟩
    rw [Listing.openAt_of_true hbase hendings (Configuration.current_eq hsettings)] at hopen
    cases hopen
    refine ⟨_, _, hloaded, ⟨settings, hsettings⟩,
      fun hnone => ⟨⟨endings, settings.allowSymlinks⟩, fun names hnames => ?_⟩,
      fun comes hcomes hopened => Listing.takes_start htree hcomes hopened hfirst⟩
    exact (Listing.isListed_iff htree).mpr
      (((Listing.finds_yieldFrom htree hfirst).found hnone names).mp hnames)

/-- The scripts of an archive are those of the listing that is opened. -/
theorem exists_scripts (htree : s.files.IsTree) (hpaths : s.package.paths = some paths)
    {entries : List Listing.Entry} (h : scripts s = .ok entries after) :
    ∃ iterator opened found, openScripts s = .ok iterator opened ∧
      Scripts s opened paths.shared iterator found none ∧
      entries.map (·.path) = found.map paths.shared.descend := by
  obtain ⟨iterator, opened, hopen, hrest⟩ := exists_of_bind_ok h
  obtain ⟨found, failure, hfound⟩ := scripts_of_openScripts htree hpaths hopen
  obtain ⟨hentries, hfailure⟩ :=
    (hfound.takes s.files.Edited (fun _ hfs => hfs) hfound.quiet.files.edited).finish
      hfound.quiet.files.edited
  obtain ⟨last, -, hlast⟩ := Listing.rest_spec iterator opened
  rw [hlast, hfailure] at hrest
  cases failure with
  | some failure => cases hrest
  | none =>
    cases hrest
    exact ⟨iterator, opened, found, hopen, hfound, hentries⟩

/-- A session on the way through the scripts: nothing but the log has changed. -/
structure Between (s : Session) (settings : Settings) (middle : Session) : Prop where
  quiet : Quiet s middle
  settings : middle.settings = some settings

variable {settings : Settings} {middle : Session} {e : Listing.Entry} {table : ImportTable}

theorem Between.moduleName_eq (h : Between s settings middle) (shared script : Path) :
    moduleName middle.files shared script = moduleName s.files shared script :=
  moduleName_edited h.quiet.files.edited shared script

theorem keeps_between (s : Session) (settings : Settings) :
    Keeps s.files.Edited (Between s settings) where
  files _ h := h.quiet.files.edited
  quiet _ _ h hquiet hsettings := ⟨h.quiet.trans hquiet, hsettings.trans h.settings⟩

/-- The imports of one script are put into the table. -/
def putImports (e : Listing.Entry) (table : ImportTable) : Operation ImportTable := do
  let name ← moduleNameFor e.path
  return table.put name (← scriptImports e.path)

/-- A script that can be read is put into the table by its module. -/
theorem exists_putImports (hpaths : s.package.paths = some paths) (h : Between s settings middle)
    (hlog : LogElsewhere s e.path) {found : Text × List Import.Record}
    (hfound : HasImports s.files paths.shared e.path found) (table : ImportTable) :
    ∃ after, putImports e table middle = .ok (table.put found.1 found.2) after ∧
      Between s settings after := by
  obtain ⟨hmodule, bytes, t, hread, htext, hrecords⟩ := hfound
  have hknown : middle.package.paths = some paths := by rw [h.quiet.package, hpaths]
  rw [← h.moduleName_eq] at hmodule
  have hcode := readText_eq ((read_of_quiet h.quiet hlog bytes).mpr hread) htext
  obtain ⟨after, himports, hquiet, hsettings⟩ :=
    exists_scriptImports hknown h.settings hcode hmodule
  have hname := (moduleNameFor_eq_ok hknown).mpr ⟨rfl, hmodule⟩
  refine ⟨after, ?_, h.quiet.trans hquiet, hsettings⟩
  rw [putImports, bind_of_ok hname, bind_of_ok himports, hrecords]
  rfl

theorem hasImports_of_putImports (hpaths : s.package.paths = some paths)
    (h : Between s settings middle) (hlog : LogElsewhere s e.path) {result : ImportTable}
    (hok : putImports e table middle = .ok result after) :
    ∃ found, HasImports s.files paths.shared e.path found ∧
      result = table.put found.1 found.2 ∧ Between s settings after := by
  have hknown : middle.package.paths = some paths := by rw [h.quiet.package, hpaths]
  obtain ⟨name, named, hname, hrest⟩ := exists_of_bind_ok hok
  obtain ⟨rfl, hmodule⟩ := (moduleNameFor_eq_ok hknown).mp hname
  obtain ⟨records, last, himports, -⟩ := exists_of_bind_ok hrest
  obtain ⟨code, module, hcode, hsame, rfl, -⟩ := scriptImports_eq_ok hknown himports
  obtain rfl := Except.ok.inj (hmodule.symm.trans hsame)
  obtain ⟨-, bytes, t, hread, htext, rfl⟩ := readText_eq_ok.mp hcode
  rw [h.moduleName_eq] at hmodule
  have hfound : HasImports s.files paths.shared e.path
      (name, (Import.scan name t.unifyNewlines).records) :=
    ⟨hmodule, bytes, t, (read_of_quiet h.quiet hlog bytes).mp hread, htext, rfl⟩
  obtain ⟨other, hput, hbetween⟩ := exists_putImports hpaths h hlog hfound table
  cases hput.symm.trans hok
  exact ⟨_, hfound, rfl, hbetween⟩

theorem allImports_eq {iterator : Listing.Iterator} {opened : Session}
    (h : openScripts s = .ok iterator opened) :
    allImports s = Listing.overEntries putImports (iterator opened.files) [] opened := by
  rw [allImports, bind_of_ok h, get_bind]
  rfl

/-- The table of the scripts at these paths, with their modules and imports. -/
def Collects (fs : FileSystem) (shared : Path) (visited : List Path) (table : ImportTable) : Prop :=
  ∃ scripts, List.Forall₂ (HasImports fs shared) visited scripts ∧
    table = ImportTable.putAll [] scripts

theorem Collects.put {shared script : Path} {visited : List Path}
    (h : Collects fs shared visited table) {found : Text × List Import.Record}
    (hfound : HasImports fs shared script found) :
    Collects fs shared (visited ++ [script]) (table.put found.1 found.2) := by
  obtain ⟨scripts, hscripts, rfl⟩ := h
  refine ⟨scripts ++ [found], List.rel_append hscripts (.cons hfound .nil), ?_⟩
  rw [ImportTable.putAll, ImportTable.putAll, List.foldl_append]
  rfl

theorem Collects.exists_hasImports {shared script : Path} {visited : List Path}
    (h : Collects fs shared visited table) (hscript : script ∈ visited) :
    ∃ found, HasImports fs shared script found := by
  obtain ⟨scripts, hscripts, -⟩ := h
  induction hscripts with
  | nil => contradiction
  | cons hfirst _ ih =>
    rcases List.mem_cons.mp hscript with rfl | hscript
    · exact ⟨_, hfirst⟩
    · exact ih hscript

/-- The imports of all scripts are collected exactly if each of them has imports. -/
theorem allImports_collects (htree : s.files.IsTree) (hpaths : s.package.paths = some paths)
    {entries : List Listing.Entry} (hscripts : scripts s = .ok entries after)
    (hlog : ∀ e ∈ entries, LogElsewhere s e.path) :
    ((∃ table last, allImports s = .ok table last) ↔
      ∀ e ∈ entries, ∃ found, HasImports s.files paths.shared e.path found) ∧
    ∀ table last, allImports s = .ok table last →
      Collects s.files paths.shared (entries.map (·.path)) table := by
  obtain ⟨iterator, opened, found, hopen, hfound, hentries⟩ := exists_scripts htree hpaths hscripts
  obtain ⟨settings, hsettings⟩ := hfound.settings
  have hopened : Between s settings opened := ⟨hfound.quiet, hsettings⟩
  have htakes := hfound.takes s.files.Edited (fun _ hfs => hfs) hfound.quiet.files.edited
  rw [← hentries] at htakes
  have hlogPath : ∀ p ∈ entries.map (·.path), LogElsewhere s p := by
    simpa using hlog
  rw [allImports_eq hopen]
  have hcollects : ∀ table last, Listing.overEntries putImports (iterator opened.files) [] opened =
      .ok table last → Collects s.files paths.shared (entries.map (·.path)) table := by
    intro table last hok
    have hnone : Collects s.files paths.shared [] [] := ⟨[], .nil, rfl⟩
    refine htakes.reached (keeps_between s settings) ?_ hopened hnone hok
    intro e before table result middle last he hmiddle hbefore hput
    obtain ⟨imports, himports, rfl, hlast⟩ :=
      hasImports_of_putImports hpaths hmiddle (hlogPath _ he) hput
    exact ⟨hlast, hbefore.put himports⟩
  refine ⟨⟨?_, fun hall => ?_⟩, hcollects⟩
  · rintro ⟨table, last, hok⟩ e he
    exact (hcollects table last hok).exists_hasImports (List.mem_map_of_mem he)
  · refine htakes.exists_overEntries (keeps_between s settings) rfl ?_ [] hopened
    intro e table middle he hmiddle
    obtain ⟨other, hother, hpath⟩ := List.mem_map.mp he
    obtain ⟨imports, himports⟩ := hall other hother
    rw [hpath] at himports
    obtain ⟨last, hput, hlast⟩ :=
      exists_putImports hpaths hmiddle (hlogPath _ he) himports table
    exact ⟨_, last, hput, hlast⟩

theorem modules_of_forall₂ {shared : Path} {found : List (List Text)}
    {scripts : List (Text × List Import.Record)}
    (hmodules : ∀ names ∈ found,
      moduleName fs shared (shared.descend names) = .ok (moduleOf names))
    (h : List.Forall₂ (HasImports fs shared) (found.map shared.descend) scripts) :
    scripts.map (·.1) = found.map moduleOf := by
  induction found generalizing scripts with
  | nil =>
    cases h
    rfl
  | cons names found ih =>
    cases h with
    | cons hfirst hrest =>
      rw [List.forall_mem_cons] at hmodules
      rw [List.map_cons, List.map_cons, ih hmodules.2 hrest,
        Except.ok.inj (hfirst.1.symm.trans hmodules.1)]

/-- Without links below the shared directory, the imports of all scripts are found exactly if all
scripts are texts. Each script is put into the table by the names that lead to it, so no script is
lost exactly if no two of them make the same module; and of those that do, the last one stays. -/
theorem allImports_spec (htree : s.files.IsTree) (hpaths : s.package.paths = some paths)
    (hlinks : NoLinksBelow s.files paths.shared) {entries : List Listing.Entry}
    (hscripts : scripts s = .ok entries after) (hlog : ∀ e ∈ entries, LogElsewhere s e.path) :
    ∃ found : List (List Text), entries.map (·.path) = found.map paths.shared.descend ∧
      ((∃ table last, allImports s = .ok table last) ↔ ∀ e ∈ entries, ∃ bytes t,
        s.files.read e.path = .ok bytes ∧ Utf8.decode bytes = .ok t) ∧
      ∀ table last, allImports s = .ok table last →
        (table.length = entries.length ↔ (found.map moduleOf).Nodup) ∧ table.modules.Nodup ∧
        (∀ module, module ∈ table.modules ↔ module ∈ found.map moduleOf) ∧
        ∃ imports : List (Text × List Import.Record),
          List.Forall₂ (HasImports s.files paths.shared) (entries.map (·.path)) imports ∧
          imports.map (·.1) = found.map moduleOf ∧
          ∀ earlier module records later, imports = earlier ++ (module, records) :: later →
            module ∉ later.map (·.1) → table.lookup module = some records := by
  obtain ⟨iterator, opened, found, -, hfound, hentries⟩ := exists_scripts htree hpaths hscripts
  obtain ⟨options, hlisted⟩ := hfound.listed rfl
  have hmodules : ∀ names ∈ found, moduleName s.files paths.shared (paths.shared.descend names) =
      .ok (moduleOf names) := fun names hnames =>
    moduleName_of_isListed htree hlinks (hlisted names hnames)
  obtain ⟨hok, hcollects⟩ := allImports_collects htree hpaths hscripts hlog
  refine ⟨found, hentries, hok.trans (forall₂_congr fun e he => ?_), fun table last htable => ?_⟩
  · have hpath : e.path ∈ found.map paths.shared.descend := hentries ▸ List.mem_map_of_mem he
    obtain ⟨names, hnames, hdescend⟩ := List.mem_map.mp hpath
    rw [← hdescend]
    constructor
    · rintro ⟨imports, -, bytes, t, hread, htext, -⟩
      exact ⟨bytes, t, hread, htext⟩
    · rintro ⟨bytes, t, hread, htext⟩
      exact ⟨(moduleOf names, (Import.scan (moduleOf names) t.unifyNewlines).records),
        hmodules names hnames, bytes, t, hread, htext, rfl⟩
  · obtain ⟨imports, hforall, rfl⟩ := hcollects table last htable
    have hnames : imports.map (·.1) = found.map moduleOf :=
      modules_of_forall₂ hmodules (hentries ▸ hforall)
    have hcount : entries.length = imports.length := by
      rw [← hforall.length_eq, List.length_map]
    rw [hcount, ImportTable.length_putAll, hnames]
    refine ⟨Iff.rfl, ImportTable.nodup_putAll List.nodup_nil, fun module => ?_, imports, hforall,
      hnames, ?_⟩
    · rw [ImportTable.mem_modules_putAll, hnames]
      simp [ImportTable.modules]
    · rintro earlier module records later rfl hlast
      exact ImportTable.lookup_putAll_last hlast

/-! ## Scripts that make the same module -/

/-- An archive with two scripts whose names differ in the case of their endings only. -/
def twinSession : Session :=
  { Session.start {
      entries := [
        (["shared"].map Text.ofString, .directory),
        (["shared", "a.js"].map Text.ofString, .file 0 (Utf8.encodeAny "import X;")),
        (["shared", "a.JS"].map Text.ofString, .file 1 (Utf8.encodeAny "import Y;"))]
      current := []
      made := 2
      distinct := by decide } with
    settings := some Settings.default
    package := ⟨some rootPaths, none⟩ }

def twinOptions : Listing.Options := ⟨some [Text.ofString "js"], false⟩

/-- The scripts, in the order of their names. -/
def twinEntries : List Listing.Entry :=
  [⟨rootPaths.shared.child "a.JS", 9⟩, ⟨rootPaths.shared.child "a.js", 9⟩]

theorem finish_twin :
    (Listing.start twinOptions rootPaths.shared twinSession.files).finish twinSession.files =
      ⟨[], twinEntries, none⟩ := by
  have hsort : Text.sort [Text.ofString "a.js", Text.ofString "a.JS"] =
      [Text.ofString "a.JS", Text.ofString "a.js"] :=
    Text.sort_eq_of_perm (.swap _ _ _) (by decide)
  have hlist : twinSession.files.list rootPaths.shared =
      .ok [Text.ofString "a.JS", Text.ofString "a.js"] := congrArg Except.ok hsort
  have hresolve : twinSession.files.resolve rootPaths.shared = .ok rootPaths.shared := by
    decide +kernel
  have hlook : Listing.examine twinOptions twinSession.files (rootPaths.shared.child "a.JS") =
        .ok (.file 9) ∧
      Listing.examine twinOptions twinSession.files (rootPaths.shared.child "a.js") =
        .ok (.file 9) := by decide +kernel
  obtain ⟨fuel, hfuel⟩ : ∃ fuel, Listing.depthLimit = fuel + 1 := ⟨FileSystem.pathLimit + 1, rfl⟩
  rw [Listing.start, hfuel]
  simp [Listing.overDirectory, Listing.overNames, Listing.Traversal.finish, hlist, hresolve, hlook,
    twinEntries]

theorem scripts_twin : ∃ after, scripts twinSession = .ok twinEntries after := by
  have hpaths : twinSession.package.paths = some rootPaths := rfl
  have hsettings : Configuration.current twinSession = .ok Settings.default twinSession := rfl
  have hextension : scriptExtension twinSession = .ok "js" twinSession := by
    rw [scriptExtension, bind_of_ok hsettings]
    rfl
  have hopen : openScripts twinSession =
      .ok (Listing.start twinOptions rootPaths.shared) twinSession := by
    rw [openScripts, bind_of_ok (knownPaths_eq hpaths), bind_of_ok hextension,
      Listing.openAt_of_true (by decide +kernel) (by cbv) hsettings]
    rfl
  obtain ⟨after, -, hrest⟩ := Listing.rest_spec (Listing.start twinOptions rootPaths.shared) twinSession
  rw [finish_twin] at hrest
  exact ⟨after, (bind_of_ok hopen _).trans hrest⟩

/-- Both scripts are listed, but they are one module, and only one of them is in the table. -/
theorem allImports_spec_twin :
    ∃ entries listed table last, scripts twinSession = .ok entries listed ∧
      allImports twinSession = .ok table last ∧ entries.length = 2 ∧ table.length ≠ 2 := by
  have htree : twinSession.files.IsTree :=
    FileSystem.isTree_of_entries (by decide +kernel) (by decide +kernel)
  have hlinks : NoLinksBelow twinSession.files rootPaths.shared :=
    noLinksBelow_of_entries (by simp [twinSession, Session.start]) _
  have hlog : ∀ e ∈ twinEntries, LogElsewhere twinSession e.path :=
    fun _ _ _ _ houtputs => nomatch houtputs
  obtain ⟨listed, hscripts⟩ := scripts_twin
  obtain ⟨found, hfound, hok, htable⟩ := allImports_spec htree rfl hlinks hscripts hlog
  have hread : ∀ e ∈ twinEntries, ∃ bytes t,
      twinSession.files.read e.path = .ok bytes ∧ Utf8.decode bytes = .ok t := by
    intro e he
    rw [twinEntries, List.mem_cons, List.mem_singleton] at he
    obtain rfl | rfl := he
    · exact ⟨Utf8.encodeAny "import Y;", _, rfl, Utf8.decode_encodeAny (by decide)⟩
    · exact ⟨Utf8.encodeAny "import X;", _, rfl, Utf8.decode_encodeAny (by decide)⟩
  obtain ⟨table, last, himports⟩ := hok.mpr hread
  obtain rfl : found = [[Text.ofString "a.JS"], [Text.ofString "a.js"]] :=
    List.map_injective_iff.mpr rootPaths.shared.descend_injective hfound.symm
  refine ⟨twinEntries, listed, table, last, hscripts, himports, rfl, fun hlength => ?_⟩
  have hnodup := (htable table last himports).1.mp hlength
  revert hnodup
  decide +kernel

end Package
end GameArchive
