import GameArchive.Settings.Basic
import GameArchive.Validation.Issue

/-!
# Validating settings

Settings are read from a JSON object, and everything that is wrong with it is listed: first the
known names in their own order, then the unknown ones in the order of the object, section by
section. An unknown name that is no Unicode text ends the check of its object, of which nothing else
is listed.
-/

namespace GameArchive
namespace Settings

open Validation

/-- What a value gives, and what is wrong with it. -/
structure Checked (α : Type) where
  value : α
  issues : List Issue

/-- A capital of ASCII becomes small. -/
def smallLetter (c : CodePoint) : CodePoint :=
  if c.between 'A' 'Z' then CodePoint.ofNat (c.val + 0x20) else c

def falseWords : List Text := ["0", "off", "f", "false", "n", "no"].map Text.ofString

def trueWords : List Text := ["1", "on", "t", "true", "y", "yes"].map Text.ofString

/-- Zero and one are truth values. An integer of 64 bits is the right kind of value, a larger one is
not. -/
def boolOfInt (n : Int) : Except IssueKind Bool :=
  if n = 0 then .ok false
  else if n = 1 then .ok true
  else if -(Int.pow 2 63) ≤ n ∧ n < Int.pow 2 63 then .error .boolParsing
  else .error .boolType

/-- A floating-point number counts as the integer that it is equal to, the least of 64 bits
excluded. -/
def boolOfFloat (x : Binary64) : Except IssueKind Bool :=
  match x.truncate? with
  | some n => if x.equalsInt n ∧ n ≠ -(Int.pow 2 63) then boolOfInt n else .error .boolType
  | none => .error .boolType

/-- The truth value that a JSON value stands for, or what keeps it from that. -/
def boolOf : Json → Except IssueKind Bool
  | .bool b => .ok b
  | .int n => boolOfInt n
  | .float x => boolOfFloat x
  | .string t =>
    let word := t.map smallLetter
    if t.any (·.isSurrogate) then .error .stringUnicode
    else if falseWords.contains word then .ok false
    else if trueWords.contains word then .ok true
    else .error .boolParsing
  | _ => .error .boolType

def checkBool (default : Bool) (place : List Step) (j : Json) : Checked Bool :=
  match boolOf j with
  | .ok b => ⟨b, []⟩
  | .error kind => ⟨default, [.about place kind j]⟩

def checkText (default : Text) (place : List Step) : Json → Checked Text
  | .string t => ⟨t, []⟩
  | j => ⟨default, [.about place .stringType j]⟩

def checkOptionalText (place : List Step) : Json → Checked (Option Text)
  | .string t => ⟨some t, []⟩
  | .null => ⟨none, []⟩
  | j => ⟨none, [.about place .stringType j]⟩

/-- Texts one after another, the first of which has the given index. -/
def checkItems (place : List Step) : (index : Nat) → List Json → Checked (List Text)
  | _, [] => ⟨[], []⟩
  | index, item :: items =>
    let first := checkText [] (place ++ [.index index]) item
    let rest := checkItems place (index + 1) items
    ⟨first.value :: rest.value, first.issues ++ rest.issues⟩

def checkTexts (default : List Text) (place : List Step) : Json → Checked (List Text)
  | .array items => checkItems place 0 items
  | j => ⟨default, [.about place .listType j]⟩

/-- A member, or the default if there is none of this name. -/
def checkMember {α : Type} (place : List Step) (members : Members) (name : String) (default : α)
    (check : List Step → Json → Checked α) : Checked α :=
  match members.get? (Text.ofString name) with
  | none => ⟨default, []⟩
  | some value => check (place ++ [.name (Text.ofString name)]) value

/-- All that is wrong with an object: what is wrong with the known members, and the members that are
not known. -/
def issuesOf (place : List Step) (members : Members) (known : List String) (inside : List Issue) :
    List Issue :=
  let unknown := members.filter fun (name, _) => !(known.map Text.ofString).contains name
  match unknown.find? fun (name, _) => name.any (·.isSurrogate) with
  | some (name, _) => [.about place .stringUnicode (.string name)]
  | none =>
    inside ++ unknown.map fun (name, value) =>
      .about (place ++ [.name name]) .extraForbidden value

/-- The members of a section, of which there are none if it is left out. -/
def checkSection (members : Members) (name model : String) : Checked Members :=
  checkMember [] members name [] fun place j =>
    match j with
    | .object inside => ⟨inside, []⟩
    | _ => ⟨[], [.about place (.modelType (Text.ofString model)) j]⟩

/-- The settings that a JSON object writes, or all that is wrong with it. -/
def ofMembers (members : Members) : Except (List Issue) Settings :=
  let place := fun (name : String) => [Step.name (Text.ofString name)]
  let scripts := checkSection members "scripts" "ScriptSettings"
  let extension := checkMember (place "scripts") scripts.value "extension" default.scriptExtension
    (checkText default.scriptExtension)
  let listing := checkSection members "listing" "ListingSettings"
  let allowSymlinks := checkMember (place "listing") listing.value "allowSymlinks"
    default.allowSymlinks (checkBool default.allowSymlinks)
  let images := checkMember (place "listing") listing.value "imageExtensions"
    default.imageExtensions (checkTexts default.imageExtensions)
  let sounds := checkMember (place "listing") listing.value "soundExtensions"
    default.soundExtensions (checkTexts default.soundExtensions)
  let configs := checkMember (place "listing") listing.value "configExtensions"
    default.configExtensions (checkTexts default.configExtensions)
  let imports := checkSection members "imports" "ImportSettings"
  let strict := checkMember (place "imports") imports.value "strict" default.strictImports
    (checkBool default.strictImports)
  let logging := checkSection members "logging" "LoggingSettings"
  let devMode := checkMember (place "logging") logging.value "devMode" default.devMode
    (checkBool default.devMode)
  let file := checkMember (place "logging") logging.value "file" default.logFile checkOptionalText
  let issues := issuesOf [] members ["scripts", "listing", "imports", "logging"] <|
    scripts.issues ++ issuesOf (place "scripts") scripts.value ["extension"] extension.issues ++
    listing.issues ++ issuesOf (place "listing") listing.value
      ["allowSymlinks", "imageExtensions", "soundExtensions", "configExtensions"]
      (allowSymlinks.issues ++ images.issues ++ sounds.issues ++ configs.issues) ++
    imports.issues ++ issuesOf (place "imports") imports.value ["strict"] strict.issues ++
    logging.issues ++ issuesOf (place "logging") logging.value ["devMode", "file"]
      (devMode.issues ++ file.issues)
  if issues.isEmpty then
    .ok {
      scriptExtension := extension.value
      allowSymlinks := allowSymlinks.value
      imageExtensions := images.value
      soundExtensions := sounds.value
      configExtensions := configs.value
      strictImports := strict.value
      devMode := devMode.value
      logFile := file.value }
  else .error issues

/-- How settings are called as a whole. -/
def model : Text := "ToolSettings"

/-- The settings that a JSON value writes, which must be an object. -/
def ofJson : Json → Except (List Issue) Settings
  | .object members => ofMembers members
  | j => .error [.about [] (.modelType model) j]

end Settings
end GameArchive
