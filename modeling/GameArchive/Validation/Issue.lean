import GameArchive.Value.Build

/-!
# Issues

What is wrong with a JSON value that should fit a model: an issue names a place in the value, what
is expected there, and what was found. A report lists issues one after another, each with the name
of its kind at the end of the address where the kind is explained.
-/

namespace GameArchive
namespace Validation

/-- A step on the way to a value. -/
inductive Step where
  | name (t : Text)
  | index (n : Int)
deriving DecidableEq

inductive IssueKind where
  /-- A text or an integer that stands for no truth value. -/
  | boolParsing
  /-- Anything else where a truth value is expected. -/
  | boolType
  | stringType
  /-- A text with a surrogate where that matters. -/
  | stringUnicode
  | listType
  /-- No object where one of a model is expected. -/
  | modelType (model : Text)
  | extraForbidden
  /-- A key that is no text. -/
  | invalidKey
deriving DecidableEq

structure Issue where
  place : List Step
  kind : IssueKind
  /-- The value that was found, as it is shown. -/
  found : Text
  foundType : Text
deriving DecidableEq

/-- How a value of a type is shown that has no text. -/
def unprintable (type : Text) : Text := "<unprintable " ++ type ++ " object>"

/-- An issue about a JSON value. -/
def Issue.about (place : List Step) (kind : IssueKind) (j : Json) : Issue :=
  let (v, b) := Builder.empty.json j
  let type := v.typeName b.heap
  let found := match v.shown b.heap with
    | .ok t => t
    | .error _ => unprintable type
  ⟨place, kind, found, type⟩

def IssueKind.name : IssueKind → Text
  | boolParsing => "bool_parsing"
  | boolType => "bool_type"
  | stringType => "string_type"
  | stringUnicode => "string_unicode"
  | listType => "list_type"
  | modelType _ => "model_type"
  | extraForbidden => "extra_forbidden"
  | invalidKey => "invalid_key"

/-- What is expected. -/
def IssueKind.message : IssueKind → Text
  | boolParsing => "Input should be a valid boolean, unable to interpret input"
  | boolType => "Input should be a valid boolean"
  | stringType => "Input should be a valid string"
  | stringUnicode =>
    "Input should be a valid string, unable to parse raw data as a unicode string"
  | listType => "Input should be a valid list"
  | modelType model => "Input should be a valid dictionary or instance of " ++ model
  | extraForbidden => "Extra inputs are not permitted"
  | invalidKey => "Keys should be strings"

/-- A step as it is shown. A name with a dot in it is set off. -/
def Step.text : Step → Text
  | .name t => if t.contains (CodePoint.ofChar '.') then "`" ++ t ++ "`" else t
  | .index n => Text.ofInt n

/-- The longest start of a text with at most the given number of bytes. -/
def startWithin : (bytes : Nat) → Text → Text
  | _, [] => []
  | bytes, c :: rest =>
    let size := (Utf8.encodeChar c).length
    if size ≤ bytes then c :: startWithin (bytes - size) rest else []

/-- A text of more than fifty bytes is cut in the middle. -/
def abridged (t : Text) : Text :=
  if (t.flatMap Utf8.encodeChar).length ≤ 50 then t
  else startWithin 25 t ++ Text.ofString "..." ++ (startWithin 24 t.reverse).reverse

/-- The lines about an issue. -/
def Issue.lines (reference : Text) (issue : Issue) : List Text :=
  let place := if issue.place.isEmpty then [] else [Text.join "." (issue.place.map Step.text)]
  place ++
    ["  " ++ issue.kind.message ++ " [type=" ++ issue.kind.name ++ ", input_value=" ++
        abridged issue.found ++ ", input_type=" ++ issue.foundType ++ "]",
      "    For further information visit " ++ reference ++ issue.kind.name]

/-- All that is wrong with a value that should fit a model. -/
def report (reference model : Text) (issues : List Issue) : Text :=
  let errors : Text := if issues.length = 1 then " validation error" else " validation errors"
  let first := Text.ofNat issues.length ++ errors ++ Text.ofString " for " ++ model
  Text.join "\n" (first :: issues.flatMap (Issue.lines reference))

end Validation
end GameArchive
