import GameArchive.Script.Grammar.Lexeme
import GameArchive.Script.Grammar.Node

/-!
# Parser steps

A parser reads tokens with one token of lookahead and records a visit for every node that it
finishes. Its state stays when it fails, so the visits before a fault are known.
-/

namespace GameArchive
namespace Script
namespace Grammar

/-- What decides how code is read at a place. -/
structure Context where
  strict : Bool
  async : Bool
  /-- `in` is an operator here. -/
  allowIn : Bool
  /-- `yield` is a name here. -/
  allowYield : Bool
  /-- The parameters allow the body to declare itself strict. -/
  allowStrictDirective : Bool
  inFunction : Bool
  inIteration : Bool
  inSwitch : Bool
  labels : List Text
  /-- What has been read may be the target of an assignment. -/
  assignable : Bool
  /-- What has been read may be a parameter. -/
  bindable : Bool
  /-- The line of the default of a property, which only a pattern may have. -/
  pendingDefault : Option Nat

def Context.initial : Context :=
  { strict := false
    async := false
    allowIn := true
    allowYield := true
    allowStrictDirective := true
    inFunction := false
    inIteration := false
    inSwitch := false
    labels := []
    assignable := false
    bindable := false
    pendingDefault := none }

structure State where
  lookahead : Token
  /-- The first character of the token ahead, and the place behind it. -/
  before : Cursor
  cursor : Cursor
  /-- The token ahead ends on another line than the token before it. -/
  lineBreak : Bool
  /-- Where the last consumed token ends, and on which line. -/
  last : Nat
  lastLine : Nat
  context : Context
  /-- Finished nodes, the latest first, and how many they are. -/
  visits : List Visit
  count : Nat
  /-- The kinds that finished nodes have been turned into, the latest first. -/
  changes : List (Nat × Kind)

abbrev Parser := EStateM Fault State

def lookahead : Parser Token := return (← get).lookahead

def context : Parser Context := return (← get).context

def setContext (f : Context → Context) : Parser Unit :=
  modify fun s => { s with context := f s.context }

/-- The greatest number of digits of an integer that is named. A decimal never has more, because it
is a floating-point number. -/
def digitLimit : Nat := 4300

/-- An integer with too many digits to be named. -/
def Token.isLongNumber (t : Token) : Bool :=
  t.kind = .numeric && (basedValue? t.raw t.octal).any (Nat.pow 10 digitLimit ≤ ·)

/-- Fails for a cause that a token gives. -/
def refuseFor {α : Type} (cause : Cause) (token : Token) : Parser α :=
  throw (if token.isLongNumber then .longNumber else .refused ⟨token.line, cause⟩)

/-- Fails because of a token. -/
def refuse {α : Type} (token : Token) : Parser α := do
  refuseFor (token.cause (← context).strict) token

def refuseIf (condition : Bool) (token : Token) : Parser Unit :=
  if condition then refuse token else pure ()

/-- Fails because of the token ahead. -/
def refuseAhead {α : Type} : Parser α := do refuse (← lookahead)

/-- Fails because of the token ahead unless the condition holds. -/
def requireAhead (condition : Bool) : Parser Unit := if condition then pure () else refuseAhead

/-- Fails on the line to which the reading has come. -/
def failAhead {α : Type} (cause : Cause) : Parser α := do
  throw (.refused ⟨(← lookahead).line, cause⟩)

/-- Fails on the line of the last consumed token. -/
def failBehind {α : Type} (cause : Cause) : Parser α := do
  throw (.refused ⟨(← get).lastLine, cause⟩)

/-- Names that are reserved in strict code are keywords there. -/
def Token.inContext (t : Token) (strict : Bool) : Token :=
  if strict ∧ t.kind = .identifier ∧ strictReserved.contains t.value then
    { t with kind := .keyword }
  else t

/-- The token at a cursor becomes the token ahead. -/
def look (c : Cursor) (line : Nat) : Parser Unit := do
  match c.readToken with
  | .error fault => throw fault
  | .ok (token, after) =>
    modify fun s =>
      { s with
        lookahead := token.inContext s.context.strict
        before := c
        cursor := after
        lineBreak := line ≠ token.line }

/-- Moves to the token behind a cursor. -/
def lookBehind (c : Cursor) (line : Nat) : Parser Unit := do
  modify fun s => { s with last := c.index, lastLine := c.line }
  match c.toToken with
  | .error fault => throw fault
  | .ok c => look c line

/-- Consumes the token ahead. -/
def advance : Parser Token := do
  let s ← get
  lookBehind s.cursor s.lookahead.line
  return s.lookahead

/-- Consumes the regular expression that the token ahead starts. -/
def advanceRegularExpression : Parser Token := do
  let s ← get
  match s.before.readRegularExpression with
  | .error fault => throw fault
  | .ok (token, after) =>
    lookBehind after token.line
    return token

/-- The token behind the token ahead. A brace counts as open or closed once it has been looked at,
so it counts twice when it is read later. -/
def peek : Parser Token := do
  match (← get).cursor.next with
  | .error fault => throw fault
  | .ok (token, after) =>
    modify fun s => { s with cursor := { s.cursor with braces := after.braces } }
    return token

def atSign (sign : String) : Parser Bool := return (← lookahead).isSign sign

def atAnySign (signs : List String) : Parser Bool := return (← lookahead).isAnySign signs

def atKeyword (word : String) : Parser Bool := return (← lookahead).isKeyword word

def atAnyKeyword (words : List String) : Parser Bool := return (← lookahead).isAnyKeyword words

def atContextual (word : String) : Parser Bool := return (← lookahead).isContextual word

def atEnd : Parser Bool := return (← lookahead).kind = .endOfText

/-- Where the token ahead starts. -/
def here : Parser Nat := return (← lookahead).start

def lineBreakAhead : Parser Bool := return (← get).lineBreak

/-- Consumes the token ahead, which must satisfy the test. -/
def expect (test : Token → Bool) : Parser Unit := do
  let token ← lookahead
  let _ ← advance
  refuseIf (!test token) token

def expectSign (sign : String) : Parser Unit := expect (·.isSign sign)

def expectKeyword (word : String) : Parser Unit := expect (·.isKeyword word)

/-- A sign must be ahead. -/
def demandSign (sign : String) : Parser Unit := do if !(← atSign sign) then expectSign sign

/-- Consumes a sign if it is ahead, and says whether it was. -/
def skipSign (sign : String) : Parser Bool := do
  if ← atSign sign then
    let _ ← advance
    return true
  else return false

/-- The end of a statement: a semicolon, or a line break, a closing brace or the end of the text
ahead. Without a line break the statement reaches up to what is ahead. -/
def endStatement : Parser Unit := do
  if ← skipSign ";" then pure ()
  else if ← lineBreakAhead then pure ()
  else do
    requireAhead ((← atEnd) || (← atSign "\x7d"))
    modify fun s => { s with last := s.lookahead.start, lastLine := s.before.line }

/-- Records a visit. The node reaches from `start` to the end of the last consumed token. -/
def finishWith (start : Nat) (kind : Kind) (name raw text : Option Text)
    (parts : List (Option Tree)) : Parser Tree := do
  let s ← get
  let visit : Visit := ⟨kind, min start s.cursor.total, min s.last s.cursor.total, name, raw⟩
  set { s with visits := visit :: s.visits, count := s.count + 1 }
  return .node ⟨s.count, s.lastLine⟩ kind text parts

/-- A finished node that is neither name nor literal. -/
def finish (start : Nat) (kind : Kind) (parts : List (Option Tree)) : Parser Tree :=
  finishWith start kind none none none parts

def finishName (start : Nat) (name : Text) : Parser Tree :=
  finishWith start .identifier (some name) none (some name) []

def finishLiteral (start : Nat) (token : Token) : Parser Tree :=
  finishWith start .literal none (some token.raw)
    (if token.kind = .string then some token.value else none) []

/-- Notes the kinds that the nodes of a tree have now. -/
def noteKinds (t : Tree) : Parser Unit := modify fun s => { s with changes := t.kinds ++ s.changes }

/-- Turns a finished node into a pattern. -/
def turnIntoPattern (t : Tree) : Parser Tree := do
  let pattern := t.asPattern
  noteKinds pattern
  return pattern

/-- Runs a step until the test holds. The first argument bounds how often. -/
def collectAux {α : Type} (done : Parser Bool) (step : Parser α) : (fuel : Nat) → Parser (List α)
  | 0 => refuseAhead
  | fuel + 1 => do
    if ← done then return []
    let first ← step
    let more ← collectAux done step fuel
    return first :: more

/-- A bound for steps that each consume a token. -/
def tokensLeft : Parser Nat := return (← get).cursor.remaining + 2

/-- Runs a step that consumes tokens until the test holds. -/
def collect {α : Type} (done : Parser Bool) (step : Parser α) : Parser (List α) := do
  collectAux done step (← tokensLeft)

/-- Reads an expression for itself: what it says of assignments stays inside, and no default of a
property may be left in it. -/
def isolate {α : Type} (p : Parser α) : Parser α := do
  let outer ← context
  setContext fun c => { c with assignable := true, bindable := true, pendingDefault := none }
  let result ← p
  match (← context).pendingDefault with
  | some line => throw (.refused ⟨line, .token "="⟩)
  | none => pure ()
  setContext fun c =>
    { c with
      assignable := outer.assignable
      bindable := outer.bindable
      pendingDefault := outer.pendingDefault }
  return result

/-- Reads a part of an expression: the whole may be assigned to or bound only if the part may. -/
def inherit {α : Type} (p : Parser α) : Parser α := do
  let outer ← context
  setContext fun c => { c with assignable := true, bindable := true, pendingDefault := none }
  let result ← p
  setContext fun c =>
    { c with
      assignable := c.assignable && outer.assignable
      bindable := c.bindable && outer.bindable
      pendingDefault := outer.pendingDefault.or c.pendingDefault }
  return result

/-- What has been read can be neither assigned to nor bound. -/
def isValue : Parser Unit := setContext fun c => { c with assignable := false, bindable := false }

/-- What has been read can be assigned to but not bound. -/
def isTarget : Parser Unit := setContext fun c => { c with assignable := true, bindable := false }

def withAllowIn {α : Type} (allowed : Bool) (p : Parser α) : Parser α := do
  let outer ← context
  setContext fun c => { c with allowIn := allowed }
  let result ← p
  setContext fun c => { c with allowIn := outer.allowIn }
  return result

def withAllowYield {α : Type} (allowed : Bool) (p : Parser α) : Parser α := do
  let outer ← context
  setContext fun c => { c with allowYield := allowed }
  let result ← p
  setContext fun c => { c with allowYield := outer.allowYield }
  return result

def withIteration {α : Type} (p : Parser α) : Parser α := do
  let outer ← context
  setContext fun c => { c with inIteration := true }
  let result ← p
  setContext fun c => { c with inIteration := outer.inIteration }
  return result

/-- How `let` is used where a name is bound. -/
inductive Binding where
  | plain
  | var
  | lexical
deriving DecidableEq

/-- The productions that contain each other. -/
inductive Goal where
  | assignment
  | unary
  | power
  /-- What stands behind `new`: members, no call. -/
  | callee
  /-- Members and calls. -/
  | call
  | statement
  /-- A statement or declaration. -/
  | item
  | pattern (binding : Binding)

/-- How to read the productions below the one at hand. -/
abbrev Below := Goal → Parser Tree

/-- Further expressions after commas. -/
def commaExpressions (below : Below) : Parser (List Tree) := do
  collect (return !(← atSign ",")) do
    let _ ← advance
    isolate (below .assignment)

/-- An expression: one, or several with commas between them. -/
def expression (below : Below) : Parser Tree := do
  let start ← here
  let first ← isolate (below .assignment)
  if ← atSign "," then
    let more ← commaExpressions below
    finish start .sequenceExpression ((first :: more).map some)
  else return first

end Grammar
end Script
end GameArchive
