import GameArchive.Import.Path

/-!
# Import statements

The two forms `import PATH [as NAME];` and `from PATH import NAME [as NAME];`, written on a line of
their own, and the record that a statement gives in a script with a given base.
-/

namespace GameArchive
namespace Import

inductive Kind where
  | import_
  | from_
deriving DecidableEq

/-- The keyword of the form. -/
def Kind.keyword : Kind → Text
  | .import_ => "import"
  | .from_ => "from"

/-- What an import statement says. The name that a `from` statement gives its import is read and
not used. -/
inductive Statement where
  | whole (path : Text) (alias? : Option Text)
  | member (path name : Text) (alias? : Option Text)
deriving DecidableEq

/-- One import: the package it is taken from, its name there and here, and its full path. -/
structure Record where
  kind : Kind
  package : Text
  className : Text
  localName : Text
  resolvedPath : Text
  line : Nat
deriving DecidableEq

/-- The words `as NAME`, or none. -/
def aliasOf? : List Text → Option (Option Text)
  | [] => some none
  | [word, name] => if word = Text.ofString "as" ∧ isName name then some (some name) else none
  | _ => none

/-- The statement that the words after a keyword form. -/
def Statement.ofWords? : Kind → List Text → Option Statement
  | .import_, path :: rest =>
    if isPath path then (aliasOf? rest).map (.whole path) else none
  | .from_, path :: word :: name :: rest =>
    if word = Text.ofString "import" ∧ (isPath path ∨ isDots path) ∧ isName name then
      (aliasOf? rest).map (.member path name)
    else none
  | _, _ => none

/-- The import that a statement makes, relative paths seen from the base. In a `from` statement the
name is joined after the package is resolved, so `from . import X` stays in the package. -/
def Statement.record (base : Text) (line : Nat) : Statement → Record
  | .whole path alias? =>
    let (package, name) := splitName path
    { kind := .import_
      package := resolve package base
      className := name
      localName := alias?.getD name
      resolvedPath := resolve path base
      line := line }
  | .member path name _ =>
    let package := resolve path base
    { kind := .from_
      package := package
      className := name
      localName := name
      resolvedPath := joinParts [package, name]
      line := line }

/-- The rest of a text after the keyword, if the keyword stands alone: blank, semicolon or nothing
follows. -/
def afterKeyword? (kind : Kind) (t : Text) : Option Text :=
  match Text.afterPrefix? kind.keyword t with
  | some [] => some []
  | some (c :: rest) => if c.isBlank ∨ c = ';' then some (c :: rest) else none
  | none => none

def isIndent (c : CodePoint) : Bool := c = ' ' || c = '\t'

/-- The keyword that a line starts with after its indentation, and what follows it. -/
def keyword? (line : Text) : Option (Kind × Text) :=
  let t := line.dropWhile isIndent
  match afterKeyword? .import_ t with
  | some rest => some (.import_, rest)
  | none => (afterKeyword? .from_ t).map (.from_, ·)

/-- The words before the closing semicolons, if there is one. -/
def terminatedWords? (body : Text) : Option (List Text) :=
  let body := Text.trimEnd CodePoint.isBlank body
  if body.getLast? = some (CodePoint.ofChar ';') then
    some (Text.words CodePoint.isBlank (Text.trimEnd (· = ';') body))
  else none

/-- The statement of a line whose keyword has been read. -/
def Statement.ofBody? (kind : Kind) (body : Text) : Option Statement :=
  (terminatedWords? body).bind (ofWords? kind)

end Import
end GameArchive
