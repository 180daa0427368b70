import GameArchive.Mask
import GameArchive.Script.Chunks
import GameArchive.Script.Grammar.Program

/-!
# Walking a script

A visitor sees each node of a script when it is finished, children before parents, with the current
text of the script, and may replace the text of any node that it has seen. `transform` does this for
plain code; `walk` masks the lines that are no code first and unmasks the result, and hands the
script back as it was if it cannot be parsed.
-/

namespace GameArchive
namespace Script

open Grammar (Visit Kind Refusal)

/-- A text that is put in place of a node. -/
structure Edit where
  node : Visit
  text : Text

/-- A visitor with a memory. For a node and the script as it is then it answers the edits to make
one after another, of this node or of others that it remembers, or stops the walk. -/
abbrev Visitor (σ ε : Type) := σ → Visit → Chunks → Except ε (σ × List Edit)

/-- A visitor that changes nothing. -/
def Visitor.idle {ε : Type} : Visitor Unit ε := fun _ _ _ => .ok ((), [])

/-- Why a walk ends without an answer. -/
inductive Halt (ε : Type) where
  | visitor (e : ε)
  /-- A template starts in its middle. -/
  | strayTemplate
  /-- A number that does not belong where it stands has too many digits to be written. -/
  | longNumber

/-- The current text of a visited node. -/
def sourceOf (chunks : Chunks) (v : Visit) : Text := chunks.read v.start v.stop

/-- Puts a text in place of its node. -/
def Edit.apply (chunks : Chunks) (e : Edit) : Chunks :=
  (chunks.write e.node.start e.node.stop e.text).1

/-- Makes edits one after another. -/
def update (chunks : Chunks) (edits : List Edit) : Chunks := edits.foldl Edit.apply chunks

/-- The visits in order, and what they make of the memory and the text. -/
def runVisits {σ ε : Type} (visitor : Visitor σ ε) : List Visit → σ → Chunks → Except ε (σ × Chunks)
  | [], memory, chunks => .ok (memory, chunks)
  | v :: visits, memory, chunks =>
    match visitor memory v chunks with
    | .error e => .error e
    | .ok (memory, edits) => runVisits visitor visits memory (update chunks edits)

/-- A node as it is listed after a walk. -/
structure Node where
  kind : Kind
  start : Nat
  stop : Nat
deriving DecidableEq

/-- The memory of the visitor after the last visit; the new code and the nodes, unless the code
cannot be parsed. -/
structure Transformed (σ : Type) where
  memory : σ
  result : Except Refusal (Text × List Node)

def nodesOf (visits : List Visit) (changes : List (Nat × Kind)) : List Node :=
  (visits.zip (Grammar.finalKinds visits changes)).map fun (v, kind) => ⟨kind, v.start, v.stop⟩

/-- Visits the nodes of plain code. -/
def transform {σ ε : Type} (visitor : Visitor σ ε) (memory : σ) (code : Text) :
    Except (Halt ε) (Transformed σ) :=
  let reading := Grammar.read code
  match runVisits visitor reading.visits memory (Chunks.ofText code) with
  | .error e => .error (.visitor e)
  | .ok (memory, chunks) =>
    match reading.outcome with
    | .error .strayTemplate => .error .strayTemplate
    | .error .longNumber => .error .longNumber
    | .error (.refused refusal) => .ok ⟨memory, .error refusal⟩
    | .ok changes => .ok ⟨memory, .ok (chunks.render, nodesOf reading.visits changes)⟩

/-- A finished walk. -/
structure Walk (σ : Type) where
  memory : σ
  code : Text
  nodes : List Node
  transformed : Bool
  /-- Why the script was left as it was. -/
  refusal : Option Refusal

/-- Visits the nodes of a script with masked lines. -/
def walk {σ ε : Type} (visitor : Visitor σ ε) (memory : σ) (code : Text) :
    Except (Halt ε) (Walk σ) :=
  (transform visitor memory (Mask.sanitize code)).map fun t =>
    match t.result with
    | .error refusal => ⟨t.memory, code, [], false, some refusal⟩
    | .ok (edited, nodes) => ⟨t.memory, Mask.unsanitize edited, nodes, true, none⟩

/-- What is said about code that cannot be parsed. -/
def parseFailure (refusal : Refusal) : Text := "Failed to parse script: " ++ refusal.message

end Script
end GameArchive
