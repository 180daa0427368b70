import GameArchive.Package.Translations
import GameArchive.Proofs.FileSystem.Finish
import GameArchive.Proofs.Json.Layout
import GameArchive.Proofs.Session

/-!
# Values in files

A value that is written to a file is read back from it by both readers: the one that takes the bytes
of a file as they are, as manifests are read, and the one that takes its lines, as translations are.
There is no carriage return in the text, so its lines are the text itself.
-/

namespace GameArchive

open AtomicWrite (IsClear IsReplaceable temporary?)
open Json (Broken Everywhere HoldsNoSurrogate IsReadable indentedLayout)
open Text (HoldsNoControl)

variable {s : Session} {p temporary : Path} {v : Json}

namespace Json

/-- The bytes of a file are the encoding of a text that holds the value: it is the line of the value
with line breaks of the layout put in, no control character is in the line, and the value is read from
the text. -/
structure Stores (bytes : Bytes) (t : Text) (v : Json) : Prop where
  decode : Utf8.decode bytes = .ok t
  broken : Broken indentedLayout t v.line
  line : HoldsNoControl v.line
  parse : parse t = .ok v

namespace Stores

variable {bytes : Bytes} {t : Text}

theorem of_indented (hreadable : Everywhere IsReadable v)
    (hencodable : Everywhere HoldsNoSurrogate v) :
    Stores (Utf8.encodeAny v.indented) v.indented v where
  decode := Utf8.decode_encodeAny
    ((isEncodable_write isBlank_indentedLayout.isEncodable).mpr hencodable)
  broken := broken_indented v
  line := holdsNoControl_write isOneLine_lineLayout v 0
  parse := parse_indented hreadable

/-- The control characters of the text are those of the layout. -/
theorem mem_of_control (h : Stores bytes t v) : ∀ c ∈ t, c.val < 0x20 →
    c = CodePoint.ofChar '\n' ∨ c = CodePoint.ofChar '\t' :=
  fun _ => h.broken.mem_of_control h.line

theorem carriageReturn_not_mem (h : Stores bytes t v) : CodePoint.ofChar '\r' ∉ t := by
  intro hc
  have hbreak := h.mem_of_control _ hc (by decide)
  revert hbreak
  decide

end Stores
end Json

/-- A value that is written is read back: from the bytes of the file, from its lines, and as a
translation. Nothing but the file system is another one then. -/
theorem Operation.writeJson_spec (hreplaceable : IsReplaceable s.files p temporary)
    (htemporary : temporary? p = some temporary)
    (hmade : ∃ made, s.files.create temporary = .ok made) (hreadable : Everywhere IsReadable v)
    (hencodable : Everywhere HoldsNoSurrogate v) :
    ∃ files bytes t, writeJson p v s = .ok () { s with files := files } ∧
      files.read p = .ok bytes ∧ Json.Stores bytes t v ∧
      (∀ c ∈ t, c.val < 0x20 → c = CodePoint.ofChar '\n' ∨ c = CodePoint.ofChar '\t') ∧
      CodePoint.ofChar '\r' ∉ t ∧
      readText p { s with files := files } = .ok t { s with files := files } ∧
      Package.translationIn files p = .table v := by
  have hstores := Json.Stores.of_indented hreadable hencodable
  have hbytes : Utf8.encode v.indented = .ok (Utf8.encodeAny v.indented) :=
    Utf8.encode_eq_ok.mpr
      ⟨(Json.isEncodable_write Json.isBlank_indentedLayout.isEncodable).mpr hencodable, rfl⟩
  obtain ⟨files, hwrite, hwritten⟩ :=
    AtomicWrite.exists_written hreplaceable htemporary hmade hbytes
  have hread := hwritten.read
  have hshort : v.hasLongInteger = false :=
    Json.hasLongInteger_eq_false.mpr (hreadable.imp fun _ h => h.short)
  have hlines : v.indented.unifyNewlines = v.indented :=
    Text.unifyNewlines_eq_self hstores.carriageReturn_not_mem
  refine ⟨files, _, v.indented, ?_, hread, hstores, hstores.mem_of_control,
    hstores.carriageReturn_not_mem, ?_, ?_⟩
  · rw [writeJson, hshort, if_neg Bool.false_ne_true, writeText_eq, hwrite]
  · have hlinesRead := readText_eq (s := { s with files := files }) hread hstores.decode
    rwa [hlines] at hlinesRead
  · simp only [Package.translationIn, hread, hstores.decode, hlines, hstores.parse]

/-- A value with controls in its names, empty containers, a long integer and a fraction. -/
def nestedValue : Json := .object [
  (Text.ofString "é\r\n", .array [.object [], .int (-123456789012345678901234567890), .array []]),
  (Text.ofString "\x01", .float (.finite false 6755399441055744 (-52)))]

theorem everywhere_nestedValue {P : Json → Prop} : Everywhere P nestedValue ↔
    P nestedValue ∧ P (.array [.object [], .int (-123456789012345678901234567890), .array []]) ∧
      P (.object []) ∧ P (.int (-123456789012345678901234567890)) ∧ P (.array []) ∧
      P (.float (.finite false 6755399441055744 (-52))) := by
  simp [nestedValue, Json.everywhere_object, Json.everywhere_array, Json.everywhere_of_scalar,
    and_assoc]

theorem isReadable_nestedValue : Everywhere IsReadable nestedValue := by
  have hnames : List.Nodup [Text.ofString "é\r\n", Text.ofString "\x01"] := by decide
  have hshort : (Text.ofNat 123456789012345678901234567890).length ≤ Json.Reader.digitLimit := by
    decide +kernel
  exact everywhere_nestedValue.mpr ⟨⟨hnames, trivial, trivial⟩, ⟨trivial, trivial, trivial⟩,
    ⟨List.nodup_nil, trivial, trivial⟩, ⟨trivial, hshort, trivial⟩, ⟨trivial, trivial, trivial⟩,
    ⟨trivial, trivial, fun _ => by rfl⟩⟩

theorem holdsNoSurrogate_nestedValue : Everywhere HoldsNoSurrogate nestedValue := by
  have hnames : ∀ name ∈ [Text.ofString "é\r\n", Text.ofString "\x01"], Utf8.IsEncodable name := by
    decide
  exact everywhere_nestedValue.mpr ⟨hnames, trivial, fun _ h => absurd h List.not_mem_nil, trivial,
    trivial, trivial⟩

/-- The value is written to a translation file of its own. -/
theorem Operation.writeJson_spec_nested :
    ∃ files bytes t,
      writeJson ⟨.root, [Text.ofString "en.json"]⟩ nestedValue (Session.start (.empty [])) =
        .ok () { Session.start (.empty []) with files := files } ∧
      files.read ⟨.root, [Text.ofString "en.json"]⟩ = .ok bytes ∧
      Json.Stores bytes t nestedValue ∧ CodePoint.ofChar '\r' ∉ t ∧
      Package.translationIn files ⟨.root, [Text.ofString "en.json"]⟩ = .table nestedValue := by
  have hclear : IsClear (Session.start (.empty [])).files ⟨.root, [Text.ofString "en.json"]⟩
      ⟨.root, [Text.ofString "en.json.tmp"]⟩ :=
    .of_free (FileSystem.isNumbered_of_entries fun _ h => absurd h List.not_mem_nil) rfl rfl
  obtain ⟨files, bytes, t, hwrite, hread, hstores, -, hreturn, -, htable⟩ :=
    writeJson_spec hclear.isReplaceable (by decide +kernel) ⟨_, rfl⟩ isReadable_nestedValue
      holdsNoSurrogate_nestedValue
  exact ⟨files, bytes, t, hwrite, hread, hstores, hreturn, htable⟩

end GameArchive
