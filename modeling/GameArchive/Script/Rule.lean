import GameArchive.Script.Walk

/-!
# Rules

A visitor made of rules: the first rule whose conditions a node meets is applied to it. A rule may
replace the text of the node, wrap it, take a note of it, or end the walk.
-/

namespace GameArchive
namespace Script

open Grammar (Visit)

structure Rule where
  kind : Option Text
  name : Option Text
  raw : Option Text
  source : Option Text
  /-- The message with which the walk ends. -/
  stop : Option Text
  wrap : Option (Text × Text)
  update : Option Text
  note : Option Text

/-- A note on a node: the text of the rule, the node's text at that time, and its description. -/
structure Note where
  label : Text
  source : Text
  description : Text
deriving DecidableEq

/-- The kind and place of a node. -/
def describe (v : Visit) : Text :=
  "ScriptNode(" ++ v.kind.name ++ ", (" ++ Text.ofNat v.start ++ ", " ++ Text.ofNat v.stop ++ "))"

namespace Rule

/-- A condition that is not given holds. -/
def holdsFor (condition : Option Text) (value : Option Text) : Bool :=
  condition.all fun c => value = some c

def applies (r : Rule) (v : Visit) (source : Text) : Bool :=
  holdsFor r.kind (some v.kind.name) && holdsFor r.name v.name && holdsFor r.raw v.raw &&
    holdsFor r.source (some source)

/-- The text of a node after one has been put in its place: before its text if it is empty. -/
def afterUpdate (v : Visit) (text source : Text) : Text :=
  if v.stop ≤ v.start then source else text

/-- The texts that a rule puts in place of a node. -/
def texts (r : Rule) (source : Text) : List Text :=
  (r.wrap.map fun (before, after) => before ++ source ++ after).toList ++ r.update.toList

/-- The visitor of a list of rules. Its memory are the notes, the latest first. -/
def visitor (rules : List Rule) : Visitor (List Note) Text := fun notes v chunks =>
  let source := sourceOf chunks v
  match rules.find? (·.applies v source) with
  | none => .ok (notes, [])
  | some r =>
    match r.stop with
    | some message => .error message
    | none =>
      let texts := r.texts source
      let current := texts.foldl (fun source text => afterUpdate v text source) source
      .ok ((r.note.map fun label => ⟨label, current, describe v⟩).toList ++ notes,
        texts.map (⟨v, ·⟩))

end Rule
end Script
end GameArchive
