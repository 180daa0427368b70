import GameArchive.Import.Statement
import GameArchive.Mask

/-!
# Scanning a script for imports

Every line that starts with a keyword gives one entry: a record if it follows the grammar, otherwise
an unmatched line. Other lines give nothing.
-/

namespace GameArchive
namespace Import

/-- A line with a keyword that is no statement. -/
structure Unmatched where
  line : Nat
  text : Text
deriving DecidableEq

structure Scan where
  records : List Record
  unmatched : List Unmatched
deriving DecidableEq

/-- What one line gives. -/
inductive Entry where
  | record (r : Record)
  | unmatched (u : Unmatched)
deriving DecidableEq

def entryOf? (base : Text) (number : Nat) (line : Text) : Option Entry :=
  (keyword? line).map fun (kind, body) =>
    match Statement.ofBody? kind body with
    | some statement => .record (statement.record base number)
    | none => .unmatched ⟨number, line⟩

/-- The entries of the lines, the first of which has the given number. -/
def entriesFrom (base : Text) : Nat → List Text → List Entry
  | _, [] => []
  | number, line :: lines =>
    match entryOf? base number line with
    | some e => e :: entriesFrom base (number + 1) lines
    | none => entriesFrom base (number + 1) lines

def entries (base code : Text) : List Entry := entriesFrom base 1 (Text.lines code)

def Entry.record? : Entry → Option Record
  | .record r => some r
  | .unmatched _ => none

def Entry.unmatched? : Entry → Option Unmatched
  | .record _ => none
  | .unmatched u => some u

/-- Records and unmatched lines, each in the order of lines. -/
def scan (base code : Text) : Scan :=
  let found := entries base code
  ⟨found.filterMap Entry.record?, found.filterMap Entry.unmatched?⟩

/-- The scan of masked code, which is unmasked first. -/
def scanMasked (base code : Text) : Scan := scan base (Mask.unsanitize code)

/-- The warning about an unmatched line. -/
def Unmatched.warning (u : Unmatched) : Text :=
  Text.ofString "Unmatched import statement at line " ++ Text.ofNat u.line ++
    Text.ofString ": " ++ Text.trim CodePoint.isBlank u.text

end Import
end GameArchive
