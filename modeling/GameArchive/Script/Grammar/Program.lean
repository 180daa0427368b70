import GameArchive.Script.Grammar.Statement

/-!
# Programs

The reading of a whole script: the visits in the order in which nodes were finished, and either the
fault that ended it or the kinds that nodes were turned into after their visits.
-/

namespace GameArchive
namespace Script
namespace Grammar

/-- The production of a goal; the first argument bounds how deep productions nest. -/
def produce : (fuel : Nat) → Goal → Parser Tree
  | 0, _ => refuseAhead
  | fuel + 1, goal =>
    match goal with
    | .assignment => assignment (produce fuel)
    | .unary => unary (produce fuel)
    | .power => power (produce fuel)
    | .callee => callee (produce fuel)
    | .call => call (produce fuel)
    | .statement => statement (produce fuel)
    | .item => item (produce fuel)
    | .pattern binding => pattern (produce fuel) binding

/-- No production nests deeper than eight levels for each character. -/
def depthBound (t : Text) : Nat := 8 * t.length + 16

/-- The state before the first token is read. -/
def State.initial (t : Text) : State :=
  let c := Cursor.atStart t
  { lookahead := c.token .endOfText [] 0 0
    before := c
    cursor := c
    lineBreak := false
    last := 0
    lastLine := c.line
    context := .initial
    visits := []
    count := 0
    changes := [] }

/-- A whole script. -/
def program (below : Below) : Parser Tree := do
  let _ ← advance
  modify fun s => { s with last := s.cursor.index, lastLine := s.cursor.line }
  let start ← here
  let opening ← directives below
  let items ← collect atEnd (below .item)
  finish start .program ((opening ++ items).map some)

/-- What reading a text as a script gives: the visits in their order, and the kinds that nodes have
been turned into, the latest first. -/
structure Reading where
  visits : List Visit
  outcome : Except Fault (List (Nat × Kind))

/-- Reads a text as a script. -/
def read (t : Text) : Reading :=
  match program (produce (depthBound t)) (State.initial t) with
  | .ok _ s => ⟨s.visits.reverse, .ok s.changes⟩
  | .error fault s => ⟨s.visits.reverse, .error fault⟩

/-- The kinds of visited nodes in the end: the latest that a node has been turned into, and else the
kind at its visit. -/
def finalKinds (visits : List Visit) (changes : List (Nat × Kind)) : List Kind :=
  visits.zipIdx.map fun (visit, number) => (changes.lookup number).getD visit.kind

end Grammar
end Script
end GameArchive
