import GameArchive.Script.Grammar.Pattern

/-!
# Parameters and bodies of functions

What a body declares about strictness decides afterwards whether the name and the parameters of its
function were allowed.
-/

namespace GameArchive
namespace Script
namespace Grammar

/-- What strict code refuses in the head of a function: the line of the function's own name or of
the first parameter that must not be bound, the line of the latest other parameter, and the cause
that was noted last. -/
structure Objections where
  restricted : Option Nat
  other : Option Nat
  cause : Cause

def Objections.none : Objections := ⟨.none, .none, .strictParameter⟩

/-- The line on which strict code refuses the head of a function. -/
def Objections.line? (o : Objections) : Option Nat := o.restricted.or o.other

/-- Parameters of a function. -/
structure Params where
  items : List Tree
  /-- All are plain names. -/
  simple : Bool
  names : List Text
  objections : Objections

def Params.none (objections : Objections) : Params := ⟨[], true, [], objections⟩

/-- What a name that parameters bind adds to the objections; `known` holds if they bind it
already. -/
def Objections.bind (strict known : Bool) (o : Objections) (name : Text) (line : Nat) :
    Objections :=
  let isRestricted := Grammar.restricted.contains name
  if strict then
    if known then { o with other := some line, cause := .duplicateParameter }
    else if isRestricted then { o with other := some line, cause := .strictParameter }
    else o
  else if o.restricted.isSome then o
  else if isRestricted then { o with restricted := some line, cause := .strictParameter }
  else if strictReserved.contains name then
    { o with restricted := some line, cause := .strictReservedWord }
  else if known then { o with other := some line, cause := .duplicateParameter }
  else o

/-- One more name that parameters bind. -/
def Params.bind (strict : Bool) (p : Params) (name : Text × Nat) : Params :=
  { p with
    names := name.1 :: p.names
    objections := p.objections.bind strict (p.names.contains name.1) name.1 name.2 }

/-- One more parameter. -/
def Params.add (strict : Bool) (p : Params) (item : Tree) : Params :=
  let p := item.boundNames.foldl (Params.bind strict) p
  { p with items := p.items ++ [item], simple := p.simple && item.is .identifier }

/-- Parameters after the opening parenthesis. -/
def paramsFrom (below : Below) : (fuel : Nat) → Params → Parser Params
  | 0, _ => refuseAhead
  | fuel + 1, p => do
    let item ← if ← atSign "..." then restParameter below else patternWithDefault below .plain
    let p := p.add (← context).strict item
    if ← atSign ")" then return p
    else
      expectSign ","
      if ← atSign ")" then return p else paramsFrom below fuel p

/-- Parameters in parentheses. -/
def formalParams (below : Below) (objections : Objections) : Parser Params := do
  expectSign "("
  let p ← if ← atSign ")" then pure (Params.none objections)
    else paramsFrom below (← tokensLeft) (Params.none objections)
  expectSign ")"
  return p

/-- A statement that starts with a string, and the text between the quotes if it is a directive. -/
def directive (below : Below) : Parser (Tree × Option Text) := do
  let token ← lookahead
  let value ← expression below
  endStatement
  let statement ← finish token.start .expressionStatement [value]
  let inner := (token.raw.drop 1).dropLast
  return (statement, if value.is .literal ∧ !inner.isEmpty then some inner else none)

/-- Directives at the start of a body. `octal` is the line of the first directive with an octal
escape. -/
def directivesFrom (below : Below) : (fuel : Nat) → (octal : Option Nat) → Parser (List Tree)
  | 0, _ => refuseAhead
  | fuel + 1, octal => do
    let token ← lookahead
    if token.kind ≠ .string then return []
    match ← directive below with
    | (statement, none) => return [statement]
    | (statement, some text) =>
      let strict := text = Text.ofString "use strict"
      if strict then
        setContext fun c => { c with strict := true }
        match octal with
        | some line => throw (.refused ⟨line, .strictOctal⟩)
        | none => pure ()
        if !(← context).allowStrictDirective then refuseFor .strictDirective token
      let found := if !strict && token.octal then some token.line else none
      let more ← directivesFrom below fuel (octal.or found)
      return statement :: more

def directives (below : Below) : Parser (List Tree) := do
  directivesFrom below (← tokensLeft) none

/-- The body of a function in braces. -/
def functionBody (below : Below) : Parser Tree := do
  let start ← here
  expectSign "\x7b"
  let opening ← directives below
  let outer ← context
  setContext fun c =>
    { c with labels := [], inIteration := false, inSwitch := false, inFunction := true }
  let items ← collect (atSign "\x7d") (below .item)
  expectSign "\x7d"
  setContext fun c =>
    { c with
      labels := outer.labels
      inIteration := outer.inIteration
      inSwitch := outer.inSwitch
      inFunction := outer.inFunction }
  finish start .blockStatement ((opening ++ items).map some)

/-- A body under its parameters: refused if it is strict and they must not be. Its strictness ends
with it. -/
def bodyUnder (p : Params) (body : Parser Tree) : Parser Tree := do
  let outer ← context
  setContext fun c => { c with allowStrictDirective := p.simple }
  let result ← body
  match (← context).strict, p.objections.line? with
  | true, some line => throw (.refused ⟨line, p.objections.cause⟩)
  | _, _ => pure ()
  setContext fun c =>
    { c with strict := outer.strict, allowStrictDirective := outer.allowStrictDirective }
  return result

/-- The name of a function, and what strict code refuses in it. -/
def functionName (read : Parser Tree) : Parser (Tree × Objections) := do
  let token ← lookahead
  let name ← read
  if restricted.contains token.value then
    if (← context).strict then refuseFor .strictFunctionName token
    return (name, ⟨some token.line, none, .strictFunctionName⟩)
  else if !(← context).strict && strictReserved.contains token.value then
    return (name, ⟨some token.line, none, .strictReservedWord⟩)
  else return (name, .none)

/-- The words before the name of a function; whether it is asynchronous, and a generator. -/
def functionWords : Parser (Bool × Bool) := do
  let async ← atContextual "async"
  if async then
    let _ ← advance
  expectKeyword "function"
  let generator ← if async then pure false else skipSign "*"
  return (async, generator)

/-- Parameters and body of a function with the given name. -/
def functionRest (below : Below) (name : Option Tree) (objections : Objections) :
    Parser (List (Option Tree)) := do
  let p ← formalParams below objections
  let body ← bodyUnder p (functionBody below)
  return name :: (p.items.map some ++ [some body])

/-- Reads under the rules for names in an asynchronous function or a generator. -/
def withFunctionKind {α : Type} (async generator : Bool) (p : Parser α) : Parser α := do
  let outer ← context
  setContext fun c => { c with async := async, allowYield := !generator }
  let result ← p
  setContext fun c => { c with async := outer.async, allowYield := outer.allowYield }
  return result

/-- A function declaration, and whether it is a generator. -/
def functionDeclaration (below : Below) : Parser (Tree × Bool) := do
  let start ← here
  let (async, generator) ← functionWords
  let (name, objections) ← functionName (variableName .plain)
  let parts ← withFunctionKind async generator (functionRest below name objections)
  return (← finish start .functionDeclaration parts, generator)

/-- A function with an optional name. -/
def functionExpression (below : Below) : Parser Tree := do
  let start ← here
  let (async, generator) ← functionWords
  let parts ← withFunctionKind async generator do
    if ← atSign "(" then functionRest below none .none
    else
      let anyWord := !(← context).strict && !generator && (← atKeyword "yield")
      let (name, objections) ← functionName (if anyWord then wordName else variableName .plain)
      functionRest below name objections
  finish start .functionExpression parts

/-! ## Methods -/

/-- The body of a method. -/
def methodBody (below : Below) (p : Params) : Parser Tree := do
  isValue
  bodyUnder p (isolate (functionBody below))

def finishMethod (start : Nat) (p : Params) (body : Tree) : Parser Tree :=
  finish start .functionExpression (p.items.map some ++ [some body])

def plainMethod (below : Below) : Parser Tree := do
  let start ← here
  withAllowYield true do
    let p ← formalParams below .none
    let body ← methodBody below p
    finishMethod start p body

def asyncMethod (below : Below) : Parser Tree := do
  let start ← here
  withFunctionKind true true do
    let p ← formalParams below .none
    let body ← methodBody below p
    finishMethod start p body

def getterMethod (below : Below) : Parser Tree := do
  let start ← here
  withAllowYield true do
    let p ← formalParams below .none
    if !p.items.isEmpty then failAhead .getterParameters
    let body ← methodBody below p
    finishMethod start p body

def setterMethod (below : Below) : Parser Tree := do
  let start ← here
  withAllowYield true do
    let p ← formalParams below .none
    if p.items.length ≠ 1 then failAhead .setterParameters
    if p.items.any (·.is .restElement) then failAhead .setterRest
    let body ← methodBody below p
    finishMethod start p body

def generatorMethod (below : Below) : Parser Tree := do
  let start ← here
  withAllowYield true do
    let p ← formalParams below .none
    setContext fun c => { c with allowYield := false }
    let body ← methodBody below p
    finishMethod start p body

end Grammar
end Script
end GameArchive
