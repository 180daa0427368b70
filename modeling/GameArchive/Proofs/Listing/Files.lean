import GameArchive.Listing.Files
import GameArchive.Proofs.Listing.Traversal
import GameArchive.Proofs.Session.Quiet

/-!
# Listed files

A listing has one entry for each file that the directories it passes lead to, in the order of the
names, and no others. It fails only if the system refuses to say what is at a path that it asks
for, as the path or a name in it or behind a link is too long.
-/

namespace GameArchive
namespace Listing

open FileSystem (IsProper)
open Operation

variable {options : Options} {fs : FileSystem} {base : Path} {s : Session}

/-- The names lead from a directory to a file that a listing of it has to have. -/
def IsListed (options : Options) (fs : FileSystem) (base : Path) (names : List Text) : Prop :=
  ∃ before name, names = before ++ [name] ∧ IsProper name ∧ Passes options fs base before ∧
    fs.isFile (base.descend names) = .ok true ∧
    ∀ endings, options.extensions = some endings → extensionOf (base.descend names) ∈ endings

/-- The system says what is at the directory and at all paths that a listing of it asks for. -/
structure Answers (options : Options) (fs : FileSystem) (base : Path) : Prop where
  start : ∀ failure, fs.isDirectory base ≠ .error failure
  below : ∀ before known name, Passes options fs base before →
    fs.list (base.descend before) = .ok known → name ∈ known →
      ∀ failure, fs.isDirectory (base.descend (before ++ [name])) ≠ .error failure

theorem wanted_iff {p : Path} : Wanted options fs p ↔ fs.isFile p = .ok true ∧
    ∀ endings, options.extensions = some endings → extensionOf p ∈ endings := by
  have haccepts : options.accepts p = true ↔
      ∀ endings, options.extensions = some endings → extensionOf p ∈ endings := by
    unfold Options.accepts
    cases options.extensions <;> simp
  rw [← haccepts]
  exact ⟨fun h => ⟨h.isFile, h.accepts⟩, fun h => ⟨h.1, h.2⟩⟩

theorem outside_nil (fs : FileSystem) (base : Path) (names : List Text) :
    Outside fs [] base names := by
  simp [Outside]

/-- What a listing has to have is what it asks for and finds a wanted file. -/
theorem isListed_iff (htree : fs.IsTree) {names : List Text} : IsListed options fs base names ↔
    Asks options fs [] base names ∧ Wanted options fs (base.descend names) := by
  constructor
  · rintro ⟨before, name, rfl, hproper, hpasses, hfile, hendings⟩
    refine ⟨?_, wanted_iff.mpr ⟨hfile, hendings⟩⟩
    have hdirectory := hpasses.isDirectory before (List.prefix_refl before)
    obtain ⟨location, -, -, -, hlist⟩ := exists_location htree hdirectory
    obtain ⟨content, hread⟩ := FileSystem.isFile_eq_ok_true.mp hfile
    obtain ⟨-, place, number, hlookup⟩ := FileSystem.read_eq_ok.mp hread
    rw [Path.descend_concat] at hlookup
    exact asks_of_passes htree hpasses (outside_nil fs base before) hlist
      (mem_known_of_lookup htree hdirectory hlist hproper hlookup)
  · rintro ⟨hasks, hwanted⟩
    obtain ⟨before, name, known, rfl, hpasses, -, hlist, hname⟩ := hasks.exists_passes htree
    obtain ⟨location, -, -, -, hknown⟩ :=
      exists_location htree (hpasses.isDirectory before (List.prefix_refl before))
    obtain rfl := Except.ok.inj (hlist.symm.trans hknown)
    obtain ⟨hfile, hendings⟩ := wanted_iff.mp hwanted
    exact ⟨before, name, rfl, FileSystem.isProper_of_mem_children htree hname, hpasses, hfile,
      hendings⟩

theorem answers_iff (htree : fs.IsTree) {answer : Bool} (hbase : fs.isDirectory base = .ok answer) :
    Answers options fs base ↔ ∀ names, Asks options fs [] base names →
      ∀ failure, fs.isDirectory (base.descend names) ≠ .error failure := by
  constructor
  · intro h names hasks failure
    obtain ⟨before, name, known, rfl, hpasses, -, hlist, hname⟩ := hasks.exists_passes htree
    exact h.below before known name hpasses hlist hname failure
  · intro h
    refine ⟨by simp [hbase], fun before known name hpasses hlist hname => ?_⟩
    exact h _ (asks_of_passes htree hpasses (outside_nil fs base before) hlist hname)

/-- The entries are the files that a listing has to have, each once and in the order of the names
that lead to them. Their sizes are those of the files when the listing is opened. -/
structure Complete (options : Options) (fs opened : FileSystem) (base : Path) (entries : List Entry)
    (found : List (List Text)) : Prop where
  paths : entries.map (·.path) = found.map base.descend
  ordered : found.Pairwise (List.Lex Text.Before)
  listed : ∀ names, names ∈ found ↔ IsListed options fs base names
  sizes : ∀ e ∈ entries, ∃ content, opened.read e.path = .ok content ∧ e.size = content.length

theorem exists_logRemark (r : Remark) (s : Session) :
    ∃ after, logRemark r s = .ok () after ∧ Quiet s after ∧ after.settings = s.settings := by
  cases r <;> exact exists_log _ _ _ s

/-- A listing is read to its end where it does not fail. -/
theorem rest_spec (iterator : Iterator) (s : Session) :
    ∃ after, Quiet s after ∧ rest iterator s =
      match ((iterator s.files).finish s.files).failure with
      | some failure => .error failure.cause after
      | none => .ok ((iterator s.files).finish s.files).entries after := by
  obtain ⟨after, hremarks, hquiet, -⟩ :=
    exists_forM exists_logRemark ((iterator s.files).finish s.files).remarks s
  refine ⟨after, hquiet, ?_⟩
  rw [rest, get_bind]
  refine (bind_of_ok hremarks _).trans ?_
  cases ((iterator s.files).finish s.files).failure <;> rfl

theorem openAt_of_error {failure : FileSystem.Failure} (wanted : Json)
    (hbase : s.files.isDirectory base = .error failure) :
    openAt base wanted s = .error failure.cause s := bind_of_error (ask_eq_of_error hbase) _

theorem openAt_of_false (wanted : Json) (hbase : s.files.isDirectory base = .ok false) :
    openAt base wanted s = .ok (fun _ => .done) s := by
  rw [openAt, bind_of_ok (ask_eq_of_ok hbase)]
  rfl

theorem openAt_of_true {wanted : Json} {endings : Option (List Text)} {settings : Settings}
    {loaded : Session} (hbase : s.files.isDirectory base = .ok true)
    (hendings : endings? wanted = .ok endings)
    (hsettings : Configuration.current s = .ok settings loaded) :
    openAt base wanted s = .ok (start ⟨endings, settings.allowSymlinks⟩ base) loaded := by
  rw [openAt, bind_of_ok (ask_eq_of_ok hbase), if_pos rfl, hendings]
  exact bind_of_ok hsettings _

/-- A listing of a directory is the traversal that starts there. -/
theorem files_eq {wanted : Json} {endings : Option (List Text)} {settings : Settings}
    {loaded : Session} {outcome : Outcome} (hbase : s.files.isDirectory base = .ok true)
    (hendings : endings? wanted = .ok endings)
    (hsettings : Configuration.current s = .ok settings loaded)
    (houtcome : (start ⟨endings, settings.allowSymlinks⟩ base loaded.files).finish loaded.files =
      outcome) :
    ∃ after, Quiet loaded after ∧ files base wanted s =
      match outcome.failure with
      | some failure => .error failure.cause after
      | none => .ok outcome.entries after := by
  obtain ⟨after, hquiet, hrest⟩ := rest_spec (start ⟨endings, settings.allowSymlinks⟩ base) loaded
  rw [houtcome] at hrest
  exact ⟨after, hquiet, (bind_of_ok (openAt_of_true hbase hendings hsettings) _).trans hrest⟩

theorem not_passes (hbase : fs.isDirectory base = .ok false) (names : List Text) :
    ¬Passes options fs base names := by
  intro hpasses
  simp [hpasses.start] at hbase

/-- Nothing has to be listed below what is no directory. -/
theorem answers_of_not_directory (hbase : fs.isDirectory base = .ok false) :
    Answers options fs base where
  start := by simp [hbase]
  below before _ _ hpasses := absurd hpasses (not_passes hbase before)

theorem complete_of_not_directory (hbase : fs.isDirectory base = .ok false) (opened : FileSystem) :
    Complete options fs opened base [] [] where
  paths := rfl
  ordered := .nil
  listed names := by
    refine ⟨by simp, ?_⟩
    rintro ⟨before, name, -, -, hpasses, -⟩
    exact absurd hpasses (not_passes hbase before)
  sizes := by simp

/-- A traversal that starts at a directory comes to its end exactly if the system answers, and then
its entries are complete. Since the question was asked only the contents of files may have changed. -/
theorem finish_start (options : Options) {opened : FileSystem} (htree : fs.IsTree)
    (hbase : fs.isDirectory base = .ok true) (hopened : fs.Edited opened) :
    (((start options base opened).finish opened).failure = none ↔ Answers options fs base) ∧
      (((start options base opened).finish opened).failure = none →
        ∃ found, Complete options fs opened base ((start options base opened).finish opened).entries
          found) := by
  have htakes : Takes (· = opened) (start options base opened)
      ((yieldFrom options fs base).found.map base.descend, (yieldFrom options fs base).failure) :=
    takes_start htree (by rintro _ rfl; exact hopened) rfl hbase
  have hfinds : Finds options fs base (Asks options fs [] base) (yieldFrom options fs base) :=
    finds_yieldFrom htree hbase
  obtain ⟨hpaths, hfailure⟩ := htakes.finish rfl
  rw [hfailure]
  refine ⟨hfinds.failure.trans (answers_iff htree hbase).symm, fun hnone => ?_⟩
  refine ⟨(yieldFrom options fs base).found, hpaths, hfinds.ordered hnone, fun names => ?_,
    htakes.sizes⟩
  rw [hfinds.found hnone, isListed_iff htree]

/-- A listing succeeds exactly if the system answers, and then its entries are complete. It changes
nothing but the log. -/
theorem files_spec {wanted : Json} {endings : Option (List Text)} {settings : Settings}
    {loaded : Session} (htree : s.files.IsTree) (hendings : endings? wanted = .ok endings)
    (hsettings : Configuration.current s = .ok settings loaded) :
    ((∃ entries after, files base wanted s = .ok entries after) ↔
      Answers ⟨endings, settings.allowSymlinks⟩ s.files base) ∧
    ∀ entries after, files base wanted s = .ok entries after → Quiet s after ∧
      ∃ found, Complete ⟨endings, settings.allowSymlinks⟩ s.files loaded.files base entries found := by
  have hloaded : Quiet s loaded := Configuration.quietly_current s settings loaded hsettings
  cases hbase : s.files.isDirectory base with
  | error failure =>
    have hfiles : files base wanted s = .error failure.cause s :=
      bind_of_error (openAt_of_error wanted hbase) _
    rw [hfiles]
    refine ⟨⟨by simp, fun h => absurd hbase (h.start failure)⟩, by simp⟩
  | ok answer =>
  cases answer with
  | false =>
    obtain ⟨after, hquiet, hrest⟩ := rest_spec (fun _ => .done) s
    have hfiles : files base wanted s = .ok [] after :=
      (bind_of_ok (openAt_of_false wanted hbase) _).trans hrest
    rw [hfiles]
    refine ⟨⟨fun _ => answers_of_not_directory hbase, fun _ => ⟨_, _, rfl⟩⟩, ?_⟩
    intro entries after' h
    cases h
    exact ⟨hquiet, [], complete_of_not_directory hbase _⟩
  | true =>
    obtain ⟨after, hquiet, hfiles⟩ := files_eq hbase hendings hsettings rfl
    obtain ⟨hanswers, hcomplete⟩ :=
      finish_start ⟨endings, settings.allowSymlinks⟩ htree hbase hloaded.files.edited
    rw [hfiles, ← hanswers]
    cases hnone : ((start ⟨endings, settings.allowSymlinks⟩ base loaded.files).finish
      loaded.files).failure with
    | some failure => exact ⟨by simp, by simp⟩
    | none =>
      refine ⟨by simp, ?_⟩
      intro entries after' h
      cases h
      exact ⟨hloaded.trans hquiet, hcomplete hnone⟩

/-! ## Links in listings -/

/-- A directory with a directory in it and a link to that. In there are a file and a link back. -/
def linkedFiles : FileSystem where
  entries := [
    (["a"].map Text.ofString, .directory),
    (["a", "d"].map Text.ofString, .directory),
    (["a", "d", "up"].map Text.ofString, .link ".."),
    (["a", "d", "y.TXT"].map Text.ofString, .file 0 [0x79]),
    (["a", "e"].map Text.ofString, .link "d")]
  current := []
  made := 1
  distinct := by decide

/-- A session in which listings go into links. -/
def linkedSession : Session :=
  { Session.start linkedFiles with settings := some { Settings.default with allowSymlinks := true } }

def linkedOptions : Options := ⟨some [Text.ofString "txt"], true⟩

/-- A path below the directory. -/
def linkedPath (names : List String) : Path := (Path.ofText "a").descend (names.map Text.ofString)

theorem child_linkedPath (names : List String) (name : String) :
    (linkedPath names).child (Text.ofString name) = linkedPath (names ++ [name]) := by
  simp [linkedPath, Path.descend, Path.child]

/-- The file is found in the directory and through the link to it, and the ways back are cut off. -/
theorem finish_linked : (start linkedOptions (linkedPath []) linkedFiles).finish linkedFiles =
    ⟨[.loop (linkedPath ["d", "up"]), .loop (linkedPath ["e", "up"])],
      [⟨linkedPath ["d", "y.TXT"], 1⟩, ⟨linkedPath ["e", "y.TXT"], 1⟩], none⟩ := by
  have hsort : Text.sort [Text.ofString "d", Text.ofString "e"] =
        [Text.ofString "d", Text.ofString "e"] ∧
      Text.sort [Text.ofString "up", Text.ofString "y.TXT"] =
        [Text.ofString "up", Text.ofString "y.TXT"] :=
    ⟨Text.sort_eq_of_perm (.refl _) (by decide), Text.sort_eq_of_perm (.refl _) (by decide)⟩
  have hlist : linkedFiles.list (linkedPath []) = .ok [Text.ofString "d", Text.ofString "e"] ∧
      linkedFiles.list (linkedPath ["d"]) = .ok [Text.ofString "up", Text.ofString "y.TXT"] ∧
      linkedFiles.list (linkedPath ["e"]) = .ok [Text.ofString "up", Text.ofString "y.TXT"] :=
    ⟨congrArg Except.ok hsort.1, congrArg Except.ok hsort.2, congrArg Except.ok hsort.2⟩
  have hresolve : linkedFiles.resolve (linkedPath []) = .ok ⟨.root, [Text.ofString "a"]⟩ ∧
      linkedFiles.resolve (linkedPath ["d"]) =
        .ok ⟨.root, [Text.ofString "a", Text.ofString "d"]⟩ ∧
      linkedFiles.resolve (linkedPath ["e"]) =
        .ok ⟨.root, [Text.ofString "a", Text.ofString "d"]⟩ ∧
      linkedFiles.resolve (linkedPath ["d", "up"]) = .ok ⟨.root, [Text.ofString "a"]⟩ ∧
      linkedFiles.resolve (linkedPath ["e", "up"]) = .ok ⟨.root, [Text.ofString "a"]⟩ := by
    decide +kernel
  have hlook : examine linkedOptions linkedFiles (linkedPath ["d"]) = .ok .directory ∧
      examine linkedOptions linkedFiles (linkedPath ["e"]) = .ok .directory ∧
      examine linkedOptions linkedFiles (linkedPath ["d", "up"]) = .ok .directory ∧
      examine linkedOptions linkedFiles (linkedPath ["e", "up"]) = .ok .directory ∧
      examine linkedOptions linkedFiles (linkedPath ["d", "y.TXT"]) = .ok (.file 1) ∧
      examine linkedOptions linkedFiles (linkedPath ["e", "y.TXT"]) = .ok (.file 1) := by
    decide +kernel
  obtain ⟨fuel, hfuel⟩ : ∃ fuel, depthLimit = fuel + 1 + 1 + 1 := ⟨FileSystem.pathLimit - 1, rfl⟩
  rw [start, hfuel]
  simp [overDirectory, overNames, child_linkedPath, Traversal.finish, hlist, hresolve, hlook]

theorem files_spec_linked :
    ∃ entries after found,
      files (linkedPath []) (Settings.texts [Text.ofString ".txt"]) linkedSession =
        .ok entries after ∧
      entries = [⟨linkedPath ["d", "y.TXT"], 1⟩, ⟨linkedPath ["e", "y.TXT"], 1⟩] ∧
      Complete linkedOptions linkedFiles linkedFiles (linkedPath []) entries found := by
  have htree : linkedSession.files.IsTree :=
    FileSystem.isTree_of_entries (by decide +kernel) (by decide +kernel)
  have hendings : endings? (Settings.texts [Text.ofString ".txt"]) =
      .ok (some [Text.ofString "txt"]) := by cbv
  have hsettings : Configuration.current linkedSession =
      .ok { Settings.default with allowSymlinks := true } linkedSession := rfl
  obtain ⟨after, -, hfiles⟩ := files_eq (by decide +kernel) hendings hsettings finish_linked
  obtain ⟨-, found, hcomplete⟩ :=
    (files_spec htree hendings hsettings).2 _ after hfiles
  exact ⟨_, after, found, hfiles, rfl, hcomplete⟩

/-- A directory with a file, and with a link to a name that is too long for the system. -/
def longLinkFiles : FileSystem where
  entries := [
    (["a"].map Text.ofString, .directory),
    (["a", "b"].map Text.ofString, .link (List.replicate 300 'x')),
    (["a", "z.txt"].map Text.ofString, .file 0 [])]
  current := []
  made := 1
  distinct := by decide

def longLinkSession : Session :=
  { Session.start longLinkFiles with settings := some Settings.default }

theorem finish_longLink :
    (start ⟨none, false⟩ (Path.ofText "a") longLinkFiles).finish longLinkFiles =
      ⟨[], [], some (.file ⟨.nameTooLong, (Path.ofText "a").child (Text.ofString "b"), none⟩)⟩ := by
  have hsort : Text.sort [Text.ofString "b", Text.ofString "z.txt"] =
      [Text.ofString "b", Text.ofString "z.txt"] := Text.sort_eq_of_perm (.refl _) (by decide)
  have hlist : longLinkFiles.list (Path.ofText "a") =
      .ok [Text.ofString "b", Text.ofString "z.txt"] := congrArg Except.ok hsort
  have hresolve : longLinkFiles.resolve (Path.ofText "a") = .ok ⟨.root, [Text.ofString "a"]⟩ := by
    decide +kernel
  have hlook : examine ⟨none, false⟩ longLinkFiles ((Path.ofText "a").child (Text.ofString "b")) =
      .error (.file ⟨.nameTooLong, (Path.ofText "a").child (Text.ofString "b"), none⟩) := by
    decide +kernel
  obtain ⟨fuel, hfuel⟩ : ∃ fuel, depthLimit = fuel + 1 := ⟨FileSystem.pathLimit + 1, rfl⟩
  rw [start, hfuel]
  simp [overDirectory, overNames, Traversal.finish, hlist, hresolve, hlook]

/-- The link is no file that a listing has to have, but the listing cannot ask what it leads to, and
so it does not come to the file behind it. -/
theorem files_stopped_long_link :
    IsListed ⟨none, false⟩ longLinkFiles (Path.ofText "a") [Text.ofString "z.txt"] ∧
      ∃ failure after, files (Path.ofText "a") .null longLinkSession = .error failure after := by
  have hbase : longLinkFiles.isDirectory (Path.ofText "a") = .ok true := by decide +kernel
  have hendings : endings? .null = .ok none := rfl
  have hsettings : Configuration.current longLinkSession = .ok Settings.default longLinkSession :=
    rfl
  obtain ⟨after, -, hfiles⟩ := files_eq hbase hendings hsettings finish_longLink
  refine ⟨⟨[], Text.ofString "z.txt", rfl, by decide, passes_nil hbase, by decide +kernel, ?_⟩,
    _, after, hfiles⟩
  simp

end Listing
end GameArchive
