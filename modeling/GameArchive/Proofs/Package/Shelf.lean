import GameArchive.Proofs.FileSystem.Making
import GameArchive.Proofs.Listing.Flat
import GameArchive.Proofs.Package.Translations
import Mathlib.Logic.Function.Basic

/-!
# Directories that stand for maps

A directory of translations stands for a map from codes to values: the file of a code has the value
of the map in it, and nothing else is in the directory. Codes with the same bytes name one file, so
the keys of the map are bytes. A change at the place of one file is a change of the map at one key,
and a listing of the directory names the codes of the map as the system spells them.
-/

namespace GameArchive
namespace Package
namespace Dictionary

open FileSystem (IsAbsent IsLeaf IsProper NamedIn isLongName isLongPath nameFailure?)

variable {code : Text} {key : Bytes} {value : Option Json} {v : Json}
  {table : Bytes → Option Json} {outputs : Option Log.Outputs} {fs files : FileSystem} {lang : Path}
  {directory : Location}

/-! ## Codes and their files -/

/-- The name of the file of a language. -/
def fileName (code : Text) : Text := code ++ Text.ofString ".json"

/-- The name in the directory of the file of a language, by the bytes of its code. -/
def entryOf (key : Bytes) : Text := fileName (Utf8.decodeName key)

/-- A code that is a plain file name. -/
structure IsPlain (code : Text) : Prop where
  slash : CodePoint.ofChar '/' ∉ code
  null : ∀ c ∈ code, c.val ≠ 0

theorem entryOf_injective : Function.Injective entryOf := fun _ _ h =>
  Utf8.decodeName_injective (List.append_cancel_right h)

theorem length_fileName (code : Text) : (fileName code).length = code.length + 5 := by
  simp [fileName, Text.ofString]

/-- The system spells the name of a file by the bytes of the code. -/
theorem entryName_fileName (code : Text) :
    Utf8.entryName (fileName code) = entryOf (Utf8.encodeName code) :=
  Utf8.entryName_append_right code (by decide)

theorem isProper_entryOf (key : Bytes) : IsProper (entryOf key) := by
  refine FileSystem.isProper_of_length (by rw [entryOf, length_fileName]; omega) ?_
  rw [entryOf, entryName_fileName, Utf8.encodeName_decodeName, entryOf]

/-- A temporary file has not the name of the file of any language. -/
theorem temporary_ne_fileName (code other : Text) :
    fileName code ++ Text.ofString ".tmp" ≠ fileName other := by
  intro h
  have htemporary : (Text.ofString ".tmp").getLast? = some (CodePoint.ofChar 'p') := by decide
  have hfile : (Text.ofString ".json").getLast? = some (CodePoint.ofChar 'n') := by decide
  have hlast := congrArg List.getLast? h
  simp only [fileName, List.getLast?_append, htemporary, hfile, Option.some_or] at hlast
  exact absurd (Option.some.inj hlast) (by decide)

theorem split_of_not_mem {separator : CodePoint} {t : Text} (h : separator ∉ t) :
    t.split separator = [t] := by
  induction t with
  | nil => rfl
  | cons c t ih =>
    rw [List.mem_cons, not_or] at h
    rw [Text.split, if_neg (Ne.symm h.1), ih h.2]

theorem slash_not_mem_fileName (h : IsPlain code) : CodePoint.ofChar '/' ∉ fileName code := by
  rw [fileName, List.mem_append, not_or]
  exact ⟨h.slash, by decide⟩

theorem translationFile_eq (h : IsPlain code) (paths : Paths) :
    translationFile paths code = paths.lang.child (fileName code) := by
  have hslash := slash_not_mem_fileName h
  have hlength := length_fileName code
  have hnames : Path.namesOf (fileName code) = [fileName code] := by
    have hne : fileName code ≠ [] := List.ne_nil_of_length_pos (by omega)
    have hhere : fileName code ≠ Text.ofString "." := by
      intro hdot
      rw [hdot] at hlength
      simp [Text.ofString] at hlength
    simp [Path.namesOf, split_of_not_mem hslash, hne, hhere]
  have hanchor : Path.anchorOf (fileName code) = .relative := by
    have hnone :
        (fileName code).takeWhile (fun c : CodePoint => c = CodePoint.ofChar '/') = [] := by
      rw [List.takeWhile_eq_nil_iff]
      intro hpos hfirst
      exact hslash (of_decide_eq_true hfirst ▸ List.getElem_mem hpos)
    rw [Path.anchorOf, hnone]
    rfl
  have htext : Path.ofText (fileName code) = ⟨.relative, [fileName code]⟩ := by
    rw [Path.ofText, hnames, hanchor]
  change paths.lang.join (Path.ofText (fileName code)) = _
  rw [htext]
  rfl

/-- The text of a path ends in the name of the file. -/
theorem text_child (lang : Path) (name : Text) :
    (lang.child name).text = (lang.child []).text ++ name := by
  have htext := Path.text_append lang.anchor lang.names [] name
  rwa [List.nil_append] at htext

/-! ## Directories that stand for maps -/

/-- The system takes the path of the file of a language. -/
structure IsTaken (lang : Path) (code : Text) : Prop where
  takes : nameFailure? (lang.child (fileName code)).text = none
  path : isLongPath (lang.child (fileName code)) = false
  name : isLongName (fileName code) = false

/-- A path is taken or not by its bytes, if it is a name at all. -/
theorem IsTaken.congr {other : Text} (h : IsTaken lang code)
    (hbytes : Utf8.encodeName other = Utf8.encodeName code) (hname : Utf8.nameFault? other = none) :
    IsTaken lang other := by
  have hfile : Utf8.encodeName (fileName other) = Utf8.encodeName (fileName code) := by
    rw [fileName, fileName, Utf8.encodeName_append, Utf8.encodeName_append, hbytes]
  have hpath : Utf8.encodeName (lang.child (fileName other)).text =
      Utf8.encodeName (lang.child (fileName code)).text := by
    rw [text_child lang (fileName other), text_child lang (fileName code), Utf8.encodeName_append,
      Utf8.encodeName_append, hfile]
  obtain ⟨htakes, hlong, hlongName⟩ := h
  refine ⟨?_, ?_, ?_⟩
  · obtain ⟨hfault, hnull⟩ := FileSystem.nameFailure?_eq_none.mp htakes
    rw [text_child, fileName, Utf8.nameFault?_append, Utf8.nameFault?_append] at hfault
    obtain ⟨hbefore, -, hending⟩ := hfault
    refine FileSystem.nameFailure?_eq_none.mpr ⟨?_, hpath ▸ hnull⟩
    rw [text_child, fileName, Utf8.nameFault?_append, Utf8.nameFault?_append]
    exact ⟨hbefore, hname, hending⟩
  · rwa [isLongPath, hpath]
  · rwa [isLongName, hfile]

/-- The value that a map has for a code, by the bytes of the code. A text that is no name has
none. -/
def valueOf (table : Bytes → Option Json) (code : Text) : Option Json :=
  match Utf8.nameFault? code with
  | some _ => none
  | none => table (Utf8.encodeName code)

theorem valueOf_eq_some :
    valueOf table code = some v ↔
      Utf8.nameFault? code = none ∧ table (Utf8.encodeName code) = some v := by
  unfold valueOf
  split
  · next hfault => simp [hfault]
  · next hname => simp [hname]

theorem valueOf_decodeName (key : Bytes) : valueOf table (Utf8.decodeName key) = table key := by
  rw [valueOf, Utf8.nameFault?_decodeName, Utf8.encodeName_decodeName]

/-- Where the system takes the path of its file, a code without a value has none by its bytes. -/
theorem table_eq_none (h : valueOf table code = none)
    (htakes : nameFailure? (lang.child (fileName code)).text = none) :
    table (Utf8.encodeName code) = none := by
  have hfault := (FileSystem.nameFailure?_eq_none.mp htakes).1
  rw [text_child, fileName, Utf8.nameFault?_append, Utf8.nameFault?_append] at hfault
  rwa [valueOf, hfault.2.1] at h

/-- What is at the place of a file, by the value that the map has for its language. -/
def IsKept (lang : Path) (key : Bytes) : Option Json → Option Node → Prop
  | none, node => node = none
  | some v, node => IsTaken lang (Utf8.decodeName key) ∧
    ∃ number bytes t, node = some (.file number bytes) ∧ Json.Stores bytes t v

/-- A directory has the files of the values of a map in it and nothing else, and the log is kept in
none of them. -/
structure Shelf (outputs : Option Log.Outputs) (fs : FileSystem) (lang : Path)
    (directory : Location) (table : Bytes → Option Json) : Prop where
  lookup : fs.lookup false lang = .ok (.found directory .directory)
  kept : ∀ key, IsKept lang key (table key) (fs.get? (directory ++ [entryOf key]))
  only : ∀ name node, fs.get? (directory ++ [name]) = some node → ∃ key, name = entryOf key
  log : ∀ known number, outputs = some known → known.file = some number →
    ∀ name content, fs.get? (directory ++ [name]) ≠ some (.file number content)

/-- The translations stand for a map: they are in a directory, or there are none. -/
inductive StandsFor (outputs : Option Log.Outputs) (fs : FileSystem) (lang : Path)
    (table : Bytes → Option Json) : Prop where
  | absent : fs.IsAbsent lang → (∀ key, table key = none) → StandsFor outputs fs lang table
  | shelf {directory : Location} : Shelf outputs fs lang directory table →
      StandsFor outputs fs lang table

namespace Shelf

theorem of_empty (hlookup : fs.lookup false lang = .ok (.found directory .directory))
    (hempty : ∀ name, fs.get? (directory ++ [name]) = none) (hnone : ∀ key, table key = none) :
    Shelf outputs fs lang directory table where
  lookup := hlookup
  kept key := by
    rw [hempty, hnone]
    rfl
  only name node hget := by simp [hempty] at hget
  log _ _ _ _ name content := by simp [hempty]

/-- The file of a language has its name in the directory. -/
theorem exists_namedIn (h : Shelf outputs fs lang directory table) (code : Text) :
    ∃ left, NamedIn fs (lang.child (fileName code)) left directory
      (entryOf (Utf8.encodeName code)) := by
  obtain ⟨left, hnamed⟩ := FileSystem.exists_namedIn_child h.lookup (fileName code)
  rw [entryName_fileName] at hnamed
  exact ⟨left, hnamed⟩

theorem get?_eq_none (h : Shelf outputs fs lang directory table) (hnone : table key = none) :
    fs.get? (directory ++ [entryOf key]) = none := by
  have hkept := h.kept key
  rwa [hnone] at hkept

theorem exists_file (h : Shelf outputs fs lang directory table) (hvalue : table key = some v) :
    IsTaken lang (Utf8.decodeName key) ∧ ∃ number bytes t,
      fs.get? (directory ++ [entryOf key]) = some (.file number bytes) ∧
        Json.Stores bytes t v := by
  have hkept := h.kept key
  rwa [hvalue] at hkept

/-- Whatever is in the directory is the file of a language that the map has. -/
theorem exists_value (h : Shelf outputs fs lang directory table) {name : Text} {node : Node}
    (hget : fs.get? (directory ++ [name]) = some node) :
    ∃ key v, name = entryOf key ∧ table key = some v := by
  obtain ⟨key, rfl⟩ := h.only name node hget
  cases hvalue : table key with
  | some v => exact ⟨key, v, rfl, hvalue⟩
  | none =>
    rw [h.get?_eq_none hvalue] at hget
    cases hget

theorem isLeaf (h : Shelf outputs fs lang directory table) (name : Text) :
    fs.IsLeaf (directory ++ [name]) := by
  intro node hget
  obtain ⟨key, v, rfl, hvalue⟩ := h.exists_value hget
  obtain ⟨-, number, bytes, -, hfile, -⟩ := h.exists_file hvalue
  exact ⟨number, bytes, Option.some.inj (hget.symm.trans hfile)⟩

theorem temporary_free (h : Shelf outputs fs lang directory table) (key : Bytes) :
    fs.get? (directory ++ [entryOf key ++ Text.ofString ".tmp"]) = none := by
  cases hget : fs.get? (directory ++ [entryOf key ++ Text.ofString ".tmp"]) with
  | none => rfl
  | some node =>
    obtain ⟨other, hother⟩ := h.only _ node hget
    exact absurd hother (temporary_ne_fileName _ _)

/-- What is changed at the place of a file changes the value of its language only. -/
theorem changedAt (h : Shelf outputs fs lang directory table)
    (hchange : fs.ChangedAt files (directory ++ [entryOf key]) node)
    (hkept : IsKept lang key value node)
    (hlog : ∀ known number, outputs = some known → known.file = some number →
      ∀ content, node ≠ some (.file number content)) :
    Shelf outputs files lang directory (Function.update table key value) where
  lookup := hchange.lookup_directory (h.isLeaf _) h.lookup
  kept := by
    intro other
    by_cases hother : other = key
    · rw [hother, Function.update_self, hchange.at_place]
      exact hkept
    · have hplace : directory ++ [entryOf other] ≠ directory ++ [entryOf key] := by
        simpa using entryOf_injective.ne hother
      rw [Function.update_of_ne hother, hchange.elsewhere _ hplace]
      exact h.kept other
  only := by
    intro name found hget
    by_cases hname : name = entryOf key
    · exact ⟨key, hname⟩
    · rw [hchange.elsewhere _ (by simpa using hname)] at hget
      exact h.only name found hget
  log := by
    intro known number hknown hfile name content
    by_cases hname : name = entryOf key
    · rw [hname, hchange.at_place]
      exact hlog known number hknown hfile content
    · rw [hchange.elsewhere _ (by simpa using hname)]
      exact h.log known number hknown hfile name content

/-- A line of the log changes nothing in the directory. -/
theorem edit (h : Shelf outputs fs lang directory table) {known : Log.Outputs} {number : Nat}
    (hknown : outputs = some known) (hfile : known.file = some number)
    (change : Bytes → Bytes) : Shelf outputs (fs.edit number change) lang directory table := by
  have hsame : ∀ name, (fs.edit number change).get? (directory ++ [name]) =
      fs.get? (directory ++ [name]) := fun name =>
    FileSystem.get?_edit_of_apart fs number change (h.log known number hknown hfile name)
  refine ⟨?_, fun key => ?_, fun name => ?_, fun known number hknown hfile name => ?_⟩
  · rw [FileSystem.lookup_edit, h.lookup]
    rfl
  · rw [hsame]
    exact h.kept key
  · rw [hsame]
    exact h.only name
  · rw [hsame]
    exact h.log known number hknown hfile name

/-- The file of a language is at its place, and the system takes its path however the code is
spelled. -/
theorem exists_entry (h : Shelf outputs fs lang directory table)
    (hvalue : valueOf table code = some v) :
    IsTaken lang code ∧ FileSystem.IsEntry (entryOf (Utf8.encodeName code)) ∧
      ∃ number bytes t, Json.Stores bytes t v ∧
        fs.get? (directory ++ [entryOf (Utf8.encodeName code)]) = some (.file number bytes) := by
  obtain ⟨hname, hkey⟩ := valueOf_eq_some.mp hvalue
  obtain ⟨htaken, number, bytes, t, hget, hstores⟩ := h.exists_file hkey
  have hproper := isProper_entryOf (Utf8.encodeName code)
  exact ⟨htaken.congr (Utf8.encodeName_decodeName _).symm hname,
    ⟨hproper.not_up, hproper.not_here, htaken.name⟩, number, bytes, t, hstores, hget⟩

/-- The file of a language has the value that the map has. -/
theorem exists_read (h : Shelf outputs fs lang directory table)
    (hvalue : valueOf table code = some v) :
    ∃ bytes t, fs.read (lang.child (fileName code)) = .ok bytes ∧ Json.Stores bytes t v := by
  obtain ⟨left, hnamed⟩ := h.exists_namedIn code
  obtain ⟨htaken, hentry, number, bytes, t, hstores, hget⟩ := h.exists_entry hvalue
  exact ⟨bytes, t, hnamed.read_eq htaken.takes htaken.path hentry hget, hstores⟩

end Shelf

theorem StandsFor.edit (h : StandsFor outputs fs lang table) {known : Log.Outputs} {number : Nat}
    (hknown : outputs = some known) (hfile : known.file = some number)
    (change : Bytes → Bytes) : StandsFor outputs (fs.edit number change) lang table := by
  cases h with
  | shelf hshelf => exact .shelf (hshelf.edit hknown hfile change)
  | absent habsent hnone =>
    refine .absent (fun place node hlookup => ?_) hnone
    obtain ⟨old, hold, -⟩ := AtomicWrite.lookup_edit_eq_found.mp hlookup
    exact habsent place old hold

/-! ## The listing -/

theorem cutName_fileName (code : Text) :
    Path.cutName (fileName code) =
      if code = [] then (fileName code, []) else (code, Text.ofString ".json") := by
  have hreverse : (fileName code).reverse = Text.ofString "nosj." ++ code.reverse := by
    rw [fileName, List.reverse_append]
    rfl
  have hlast : (fileName code).reverse.takeWhile (fun c : CodePoint => c ≠ CodePoint.ofChar '.') =
      Text.ofString "nosj" := by
    rw [hreverse]
    rfl
  have hfour : (Text.ofString "nosj").length = 4 := rfl
  rw [Path.cutName, hlast, length_fileName, hfour]
  by_cases hcode : code = []
  · rw [if_pos hcode, if_pos (by simp [hcode])]
  · have hpos : 0 < code.length := List.length_pos_of_ne_nil hcode
    have hcount : code.length + 5 - 4 - 1 = code.length := by omega
    rw [if_neg hcode, if_neg (by omega), hcount, fileName, List.take_left, List.drop_left]

/-- A code that is not empty is what is listed as the name of its file. -/
theorem stem_file (hcode : code ≠ []) : (lang.child (fileName code)).stem = code := by
  simp [Path.stem, Path.name, Path.child, cutName_fileName, hcode]

/-- The file of the empty code has no ending. -/
theorem extensionOf_file : Listing.extensionOf (lang.child (fileName code)) =
    if code = [] then [] else Text.ofString "json" := by
  have hname : (lang.child (fileName code)).name = fileName code := by
    simp [Path.name, Path.child]
  have hending : Text.toLower ((Text.ofString ".json").drop 1) = Text.ofString "json" := by decide
  rw [Listing.extensionOf, Path.suffix, hname, cutName_fileName]
  split
  · rfl
  · exact hending

theorem decodeName_eq_nil : Utf8.decodeName key = [] ↔ key = [] :=
  Utf8.decodeName_injective.eq_iff' rfl

namespace Shelf

theorem mem_children (h : Shelf outputs fs lang directory table) {name : Text} :
    name ∈ fs.children directory ↔ ∃ key v, name = entryOf key ∧ table key = some v := by
  rw [FileSystem.mem_children]
  constructor
  · rintro ⟨node, hget⟩
    exact h.exists_value hget
  · rintro ⟨key, v, rfl, hvalue⟩
    obtain ⟨-, number, bytes, -, hget, -⟩ := h.exists_file hvalue
    exact ⟨_, hget⟩

/-- The directory of the translations is one of files. -/
theorem isFlat (h : Shelf outputs fs lang directory table)
    (htakes : nameFailure? lang.text = none) : Listing.IsFlat fs lang directory where
  takes := htakes
  lookup := FileSystem.lookup_true_of_directory h.lookup
  isFile name hname := by
    obtain ⟨key, v, rfl, hvalue⟩ := h.mem_children.mp hname
    obtain ⟨bytes, -, hread, -⟩ := h.exists_read ((valueOf_decodeName key).trans hvalue)
    exact FileSystem.isFile_eq_ok_true.mpr ⟨bytes, hread⟩

/-- The files that a listing has to have are those of the codes that are not empty: the name of the
file of the empty code is one without an ending. -/
theorem isListed_iff (h : Shelf outputs fs lang directory table)
    (htakes : nameFailure? lang.text = none) (htree : fs.IsTree) {allow : Bool}
    {names : List Text} :
    Listing.IsListed ⟨some [Text.ofString "json"], allow⟩ fs lang names ↔
      ∃ key v, names = [entryOf key] ∧ key ≠ [] ∧ table key = some v := by
  rw [(h.isFlat htakes).isListed_iff htree]
  constructor
  · rintro ⟨name, hname, rfl, hendings⟩
    obtain ⟨key, v, rfl, hvalue⟩ := h.mem_children.mp hname
    refine ⟨key, v, rfl, ?_, hvalue⟩
    rintro rfl
    have hending := hendings _ rfl
    rw [entryOf, extensionOf_file, if_pos (decodeName_eq_nil.mpr rfl)] at hending
    revert hending
    decide
  · rintro ⟨key, v, rfl, hkey, hvalue⟩
    refine ⟨_, h.mem_children.mpr ⟨key, v, rfl, hvalue⟩, rfl, ?_⟩
    rintro endings ⟨⟩
    rw [entryOf, extensionOf_file, if_neg (mt decodeName_eq_nil.mp hkey)]
    exact List.mem_singleton_self _

end Shelf

/-- The entries are the files of the codes that are not empty and for which the map has a value,
each once. The codes are spelled as the system does. -/
structure Lists (entries : List Listing.Entry) (table : Bytes → Option Json) : Prop where
  nodup : (entries.map Listing.Entry.name).Nodup
  mem : ∀ code, code ∈ entries.map Listing.Entry.name ↔
    code ≠ [] ∧ Utf8.entryName code = code ∧ ∃ v, valueOf table code = some v

/-- A listing of the directory that has come to its end names the codes of the map. -/
theorem Shelf.lists (h : Shelf outputs fs lang directory table)
    (htakes : nameFailure? lang.text = none) (htree : fs.IsTree) {allow : Bool}
    {opened : FileSystem} {entries : List Listing.Entry} {found : List (List Text)}
    (hcomplete :
      Listing.Complete ⟨some [Text.ofString "json"], allow⟩ fs opened lang entries found) :
    Lists entries table := by
  have hnames :
      entries.map Listing.Entry.name = found.map fun names => (lang.descend names).stem := by
    have hstems := congrArg (List.map Path.stem) hcomplete.paths
    rwa [List.map_map, List.map_map] at hstems
  have hfound : ∀ names, names ∈ found ↔
      ∃ key v, names = [entryOf key] ∧ key ≠ [] ∧ table key = some v := fun names =>
    (hcomplete.listed names).trans (h.isListed_iff htakes htree)
  have hstem : ∀ key : Bytes, key ≠ [] →
      (lang.descend [entryOf key]).stem = Utf8.decodeName key := fun key hkey =>
    stem_file (mt decodeName_eq_nil.mp hkey)
  have hnodup : found.Nodup := hcomplete.ordered.imp fun hbefore heq => by
    subst heq
    exact Std.Asymm.asymm _ _ hbefore hbefore
  constructor
  · rw [hnames]
    refine List.Nodup.map_on (fun names hmem others hother heq => ?_) hnodup
    obtain ⟨key, -, rfl, hkey, -⟩ := (hfound names).mp hmem
    obtain ⟨other, -, rfl, hne, -⟩ := (hfound others).mp hother
    rw [hstem key hkey, hstem other hne] at heq
    rw [Utf8.decodeName_injective heq]
  · intro code
    rw [hnames, List.mem_map]
    constructor
    · rintro ⟨names, hmem, rfl⟩
      obtain ⟨key, v, rfl, hkey, hvalue⟩ := (hfound names).mp hmem
      rw [hstem key hkey, valueOf_decodeName, Utf8.entryName, Utf8.encodeName_decodeName]
      exact ⟨mt decodeName_eq_nil.mp hkey, rfl, v, hvalue⟩
    · rintro ⟨hcode, hspelled, v, hvalue⟩
      obtain ⟨-, hkey⟩ := valueOf_eq_some.mp hvalue
      have hne : Utf8.encodeName code ≠ [] := by
        intro hnil
        rw [Utf8.entryName, hnil] at hspelled
        exact hcode hspelled.symm
      exact ⟨[entryOf _], (hfound _).mpr ⟨_, v, rfl, hne, hkey⟩, (hstem _ hne).trans hspelled⟩

theorem lists_nil (h : ∀ key, table key = none) : Lists [] table where
  nodup := List.nodup_nil
  mem code := by
    have hnone : ∀ v, valueOf table code ≠ some v := fun v hvalue => by
      have hkey := (valueOf_eq_some.mp hvalue).2
      rw [h] at hkey
      cases hkey
    simp [hnone]

end Dictionary
end Package
end GameArchive
