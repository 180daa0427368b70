import GameArchive.Proofs.Package.Runs
import GameArchive.Proofs.Session.Quiet

/-!
# Loads that fail

A load replaces the paths before it reads the manifest. If there is no archive at the root nothing
is changed; if there is one whose manifest cannot be read, its paths are kept beside the manifest
that was in memory, and the next save writes the data of the one archive into the other.
-/

namespace GameArchive

open Json (Everywhere)
open Manifest (Holds storedPaths)

namespace Package

open Operation
open Json (IsRecoverable)

/-! ## What stays in memory -/

section KeepsPackage

variable {α β : Type}

/-- The operation leaves the archive in memory as it is, whether it fails or not. -/
def KeepsPackage (x : Operation α) : Prop := ∀ s, (sessionOf (x s)).package = s.package

variable {x : Operation α} {f : α → Operation β}

theorem KeepsPackage.bind (hx : KeepsPackage x) (hf : ∀ a, KeepsPackage (f a)) :
    KeepsPackage (x >>= f) := by
  intro s
  have hfirst := hx s
  cases hresult : x s with
  | ok a middle =>
    rw [hresult] at hfirst
    rw [bind_of_ok hresult, hf a middle]
    exact hfirst
  | error failure middle =>
    rw [hresult] at hfirst
    rw [bind_of_error hresult]
    exact hfirst

theorem keepsPackage_pure (a : α) : KeepsPackage (pure a : Operation α) := fun _ => rfl

theorem keepsPackage_throw (failure : Failure) : KeepsPackage (throw failure : Operation α) :=
  fun _ => rfl

theorem keepsPackage_settle (outcome : Except Failure α) : KeepsPackage (settle outcome) := by
  cases outcome with
  | ok a => exact keepsPackage_pure a
  | error failure => exact keepsPackage_throw failure

theorem keepsPackage_ask (question : FileSystem → Except FileSystem.Failure α) :
    KeepsPackage (ask question) :=
  KeepsPackage.bind (fun _ => rfl) fun _ => keepsPackage_settle _

theorem keepsPackage_writeText (p : Path) (text : Text) : KeepsPackage (writeText p text) := by
  intro s
  rw [writeText_eq]
  split <;> rfl

theorem keepsPackage_log (level : Log.Level) (logger : String) (message : Text) :
    KeepsPackage (log level logger message) := by
  intro s
  obtain ⟨journal, files, hlog, -⟩ := log_eq level logger message s
  rw [hlog]
  rfl

theorem keepsPackage_writeMembers (file : Path) (members : Members) :
    KeepsPackage (Manifest.writeMembers file members) := by
  refine KeepsPackage.bind ?_ fun _ => keepsPackage_log _ _ _
  unfold writeJson
  split
  · exact keepsPackage_throw _
  · exact keepsPackage_writeText _ _

theorem keepsPackage_heal (file : Path) (m : Manifest) : KeepsPackage (Manifest.heal file m) := by
  unfold Manifest.heal
  split
  · exact keepsPackage_pure m
  · refine KeepsPackage.bind (fun _ => rfl) fun _ => ?_
    refine KeepsPackage.bind (keepsPackage_log _ _ _) fun _ => ?_
    exact KeepsPackage.bind (keepsPackage_writeMembers _ _) fun _ => keepsPackage_pure _

theorem keepsPackage_read (file : Path) : KeepsPackage (Manifest.read file) :=
  (keepsPackage_ask _).bind fun _ => (keepsPackage_settle _).bind fun _ => keepsPackage_heal _ _

end KeepsPackage

/-! ## Loading -/

variable {root : Option Text} {s after : Session} {failure : Failure} {paths other : Paths}
  {m : Manifest}

/-- The session with other paths of the archive. -/
def withPaths (s : Session) (paths : Paths) : Session :=
  { s with package := ⟨some paths, s.package.manifest⟩ }

/-- The paths at a root are found without a change, or not found for a reason. -/
theorem pathsAt_cases (root : Option Text) (s : Session) :
    (∃ paths, pathsAt root s = .ok paths s) ∨ ∃ failure, pathsAt root s = .error failure s := by
  rw [pathsAt]
  cases hat : isAt s.files (root.getD []) with
  | error e =>
    rw [bind_of_error (ask_eq_of_error hat)]
    exact .inr ⟨_, rfl⟩
  | ok found =>
    rw [bind_of_ok (ask_eq_of_ok hat)]
    cases found with
    | false => exact .inr ⟨_, rfl⟩
    | true =>
      cases hplace : s.files.resolve (Path.ofText (root.getD [])) with
      | error e =>
        rw [if_pos rfl, bind_of_error (ask_eq_of_error hplace)]
        exact .inr ⟨_, rfl⟩
      | ok place =>
        rw [if_pos rfl, bind_of_ok (ask_eq_of_ok hplace)]
        exact .inl ⟨_, rfl⟩

theorem load_of_paths (h : pathsAt root s = .ok other s) :
    load root s = discard readManifest (withPaths s other) := by
  have hinit : initPaths root s = .ok () (withPaths s other) := by
    rw [initPaths, bind_of_ok h]
    rfl
  rw [load, bind_of_ok hinit]

theorem load_of_no_paths (h : pathsAt root s = .error failure s) :
    load root s = .error failure s := by
  have hinit : initPaths root s = .error failure s := by
    rw [initPaths, bind_of_error h]
  rw [load, bind_of_error hinit]

/-- A load fails before it has the paths, or because the manifest at its paths is not read. -/
theorem load_cases (h : load root s = .error failure after) :
    (pathsAt root s = .error failure s ∧ after = s) ∨
      ∃ other, pathsAt root s = .ok other s ∧
        readManifest (withPaths s other) = .error failure after := by
  rcases pathsAt_cases root s with ⟨other, hother⟩ | ⟨cause, hcause⟩
  · rw [load_of_paths hother] at h
    exact .inr ⟨other, hother, discard_eq_error.mp h⟩
  · rw [load_of_no_paths hcause] at h
    cases h
    exact .inl ⟨hcause, rfl⟩

theorem package_of_readManifest_error (hknown : s.package.paths = some paths)
    (h : readManifest s = .error failure after) : after.package = s.package := by
  cases hread : Manifest.read paths.manifest s with
  | error cause middle =>
    have hkept := keepsPackage_read paths.manifest s
    rw [readManifest_of_error hknown hread] at h
    cases h
    rwa [hread] at hkept
  | ok m middle =>
    obtain ⟨final, hfinal, -⟩ := readManifest_of_ok hknown hread
    rw [hfinal] at h
    contradiction

/-! ## What a save puts into the file -/

theorem saveManifest_eq_ok {members : Members} (hknown : s.package.paths = some paths)
    (hnames : members.names.Nodup) (h : saveManifest members s = .ok m after) :
    m = Manifest.ofMembers members := by
  rw [saveManifest] at h
  obtain ⟨-, htable⟩ | ⟨name, -, -, htable⟩ := Manifest.ofTable?_putAll hnames
  · rw [htable, save_of_ok hknown] at h
    obtain ⟨-, middle, -, hpure⟩ := exists_of_bind_ok h
    cases hpure
    rfl
  · rw [htable, save_of_error hknown] at h
    contradiction

/-- The file holds the members that are saved. -/
theorem held_of_saveManifest (hready : Ready paths s) {members : Members}
    (hmembers : Everywhere IsRecoverable (.object members))
    (h : saveManifest members s = .ok m after) :
    ∃ bytes held, after.files.read paths.manifest = .ok bytes ∧ Holds bytes held ∧
      Members.Same held members := by
  have hnames : members.names.Nodup := hmembers.self.names
  have hsettled := saveManifest_settled hready hmembers
  rw [h] at hsettled
  obtain ⟨bytes, held, data, hread, hholds, hdata, hsame⟩ := hsettled.held
  rw [saveManifest_eq_ok hready.known hnames h,
    Manifest.data_of_isPlain (Manifest.isPlain_ofMembers hnames)] at hdata
  obtain rfl := Except.ok.inj hdata
  exact ⟨bytes, held, hread, hholds, fun name =>
    (hsame name).trans (Manifest.same_members_ofMembers hnames name)⟩

/-- The file holds all that is in memory, and defaults for the rest. -/
theorem held_of_populateManifest (hready : Ready paths s) (hmanifest : s.package.manifest = some m)
    {options : Manifest.Options}
    (hvalues : ∀ value ∈ (Action.populate options).values, Everywhere IsRecoverable value)
    {saved : Manifest} (h : populateManifest options s = .ok saved after) :
    ∃ bytes held, after.files.read paths.manifest = .ok bytes ∧ Holds bytes held ∧
      ∀ name value, Members.get? m.members name = some value → held.get? name = some value := by
  have hinMemory : s.package.inMemory = m.members := by rw [inMemory, hmanifest]
  rw [hready.populateManifest_eq] at h
  obtain ⟨bytes, held, hread, hholds, hsame⟩ := held_of_saveManifest hready.identified
    (everywhere_isRecoverable_applyDefaults (Manifest.isEncodable_ofNumber _) hvalues
      hready.inMemory) h
  refine ⟨bytes, held, hread, hholds, ?_⟩
  intro name value hvalue
  rw [hsame name, Manifest.applyDefaults, hinMemory,
    Members.get?_putAll (Manifest.nodup_names_members (hready.manifest m hmanifest).1), hvalue]
  rfl

/-- After a load that fails the manifest in memory is the old one, whatever the paths. Without an
archive at the root nothing is changed. With one its paths have taken the place of the old paths,
and from then on a save that succeeds puts its data into the manifest of that archive, and a
populate puts all of the old manifest there. -/
theorem load_of_error (hpaths : s.package.paths = some paths)
    (hmanifest : s.package.manifest = some m) (h : load root s = .error failure after) :
    after.package.manifest = some m ∧
      (after.package.paths = some paths ↔
        ∀ other, pathsAt root s = .ok other s → other = paths) ∧
      ((∀ other, pathsAt root s ≠ .ok other s) → after = s) ∧
      ∀ other, pathsAt root s = .ok other s → after.package.paths = some other ∧
        (Ready other (withPaths s other) →
          (∀ bytes, after.files.read other.manifest = .ok bytes ↔
            s.files.read other.manifest = .ok bytes) ∧
          (∀ members saved final, Everywhere IsRecoverable (.object members) →
            saveManifest members after = .ok saved final →
            ∃ bytes held, final.files.read other.manifest = .ok bytes ∧ Holds bytes held ∧
              Members.Same held members) ∧
          ∀ options saved final,
            (∀ value ∈ (Action.populate options).values, Everywhere IsRecoverable value) →
            populateManifest options after = .ok saved final →
            ∃ bytes held, final.files.read other.manifest = .ok bytes ∧ Holds bytes held ∧
              ∀ name value, Members.get? m.members name = some value →
                held.get? name = some value) := by
  rcases load_cases h with ⟨hcause, rfl⟩ | ⟨found, hfound, hread⟩
  · have hnone : ∀ other, pathsAt root after ≠ .ok other after := by simp [hcause]
    refine ⟨hmanifest, ?_, fun _ => rfl, ?_⟩
    · exact iff_of_true hpaths fun other hother => absurd hother (hnone other)
    · exact fun other hother => absurd hother (hnone other)
  · have hpackage : after.package = ⟨some found, some m⟩ := by
      rw [package_of_readManifest_error rfl hread, withPaths, hmanifest]
    refine ⟨by rw [hpackage], ?_, fun hnone => absurd hfound (hnone found), ?_⟩
    · simp [hpackage, hfound]
    intro other hother
    obtain rfl : found = other := by
      rw [hfound] at hother
      cases hother
      rfl
    refine ⟨by rw [hpackage], fun hready => ?_⟩
    have hsettled := (readManifest_settled hready).1
    rw [hread] at hsettled
    have hafter : Ready found after := hsettled.ready
    refine ⟨hsettled.read, ?_, ?_⟩
    · intro members saved final hmembers hsave
      exact held_of_saveManifest hafter hmembers hsave
    · intro options saved final hvalues hpopulate
      exact held_of_populateManifest hafter (by rw [hpackage]) hvalues hpopulate

/-- A loaded archive below a root at which the manifest cannot be read. -/
def crossedSession : Session :=
  { Session.start ⟨[([Text.ofString "a"], .directory),
      ([Text.ofString "a", Paths.manifestName],
        .file 0 (Utf8.encodeAny "\x7b\"appID\": \"a\"\x7d")),
      ([Paths.manifestName], .file 1 (Utf8.encodeAny "nope"))], [], 2, by decide⟩ with
    package := ⟨some ⟨⟨.root, [Text.ofString "a"]⟩⟩,
      some (Manifest.ofMembers [(Field.appId.name, .string "a")])⟩ }

theorem lookup_crossedSession (follow : Bool) :
    crossedSession.files.lookup follow storedPaths.manifest =
        .ok (.found [Paths.manifestName] (.file 1 (Utf8.encodeAny "nope"))) ∧
      crossedSession.files.lookup follow storedPaths.temporary =
        .ok (.free [Text.ofString "manifest.json.tmp"]) := by
  cases follow <;> exact ⟨by rfl, by rfl⟩

theorem ready_crossedSession : Ready storedPaths (withPaths crossedSession storedPaths) where
  known := rfl
  unhindered := {
    named := storedPaths.temporary?_manifest
    clear := {
      numbered := FileSystem.isNumbered_of_entries (by
        simp [withPaths, crossedSession, Session.start])
      link := by simp [withPaths, lookup_crossedSession]
      apart := by
        rintro number ⟨place, content, hfound⟩
        simp [withPaths, lookup_crossedSession] at hfound
      leads := fun _ _ _ => ⟨1, _, _, (lookup_crossedSession true).1⟩ }
    log := fun _ _ houtputs => nomatch houtputs }
  log _ _ houtputs := nomatch houtputs
  file bytes members hread hholds := by
    have hbytes : crossedSession.files.read storedPaths.manifest =
        .ok (Utf8.encodeAny "nope") := by decide +kernel
    obtain rfl : Utf8.encodeAny "nope" = bytes := Except.ok.inj (hbytes.symm.trans hread)
    obtain ⟨text, htext, hparse⟩ := hholds
    have hdecode : Utf8.decode (Utf8.encodeAny "nope") = .ok (Text.ofString "nope") :=
      Utf8.decode_encodeAny (by decide)
    obtain rfl : Text.ofString "nope" = text := Except.ok.inj (hdecode.symm.trans htext)
    have hfails : (Json.parse (Text.ofString "nope")).toBool = false := by decide +kernel
    rw [hparse] at hfails
    contradiction
  manifest m hm := by
    obtain rfl := Option.some.inj hm
    have hnames : (Members.names [(Field.appId.name, .string "a")]).Nodup := List.nodup_singleton _
    refine ⟨Manifest.isPlain_ofMembers hnames, everywhere_members_ofMembers ?_⟩
    refine Json.everywhere_object.mpr ⟨⟨hnames, trivial⟩, fun entry hentry => ?_⟩
    obtain rfl := List.mem_singleton.mp hentry
    exact everywhere_isRecoverable_string _

/-- The manifest of the loaded archive is put in place of the one that could not be read. -/
theorem load_of_error_crossed :
    ∃ failure after, load (some "/") crossedSession = .error failure after ∧
      after.package.paths = some storedPaths ∧
      after.package.manifest = crossedSession.package.manifest ∧
      ∃ saved final bytes held, populateManifest .default after = .ok saved final ∧
        final.files.read storedPaths.manifest = .ok bytes ∧ Holds bytes held ∧
        held.get? Field.appId.name = some (.string "a") := by
  have hfound : pathsAt (some "/") crossedSession = .ok storedPaths crossedSession := by
    have hat : isAt crossedSession.files (Text.ofString "/") = .ok true := by decide +kernel
    have hplace : crossedSession.files.resolve (Path.ofText (Text.ofString "/")) =
        .ok storedPaths.root := by decide +kernel
    rw [pathsAt, bind_of_ok (ask_eq_of_ok hat), if_pos rfl, bind_of_ok (ask_eq_of_ok hplace)]
    rfl
  have hfails : Answers (load (some "/") crossedSession) = false := by decide +kernel
  have hanswers : Answers (populateManifest .default
      (sessionOf (load (some "/") crossedSession))) = true := by decide +kernel
  cases hload : load (some "/") crossedSession with
  | ok answer after => simp [hload, Answers] at hfails
  | error failure after =>
    obtain ⟨hmanifest, -, -, hother⟩ := load_of_error rfl rfl hload
    obtain ⟨hpaths, hsaves⟩ := hother storedPaths hfound
    obtain ⟨-, -, hpopulate⟩ := hsaves ready_crossedSession
    rw [hload] at hanswers
    cases hresult : populateManifest .default after with
    | error failure final => simp [sessionOf, hresult, Answers] at hanswers
    | ok saved final =>
      have hvalues : ∀ value ∈ (Action.populate .default).values,
          Everywhere IsRecoverable value := by
        simp [Action.values, Manifest.Options.default, everywhere_isRecoverable_string]
      obtain ⟨bytes, held, hread, hholds, hheld⟩ := hpopulate _ saved final hvalues hresult
      exact ⟨failure, after, rfl, hpaths, hmanifest, saved, final, bytes, held, hresult, hread,
        hholds, hheld _ _ (by rfl)⟩

end Package
end GameArchive
