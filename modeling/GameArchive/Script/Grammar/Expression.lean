import GameArchive.Script.Grammar.Class

/-!
# Expressions

From templates and literals up to assignments. What stands in parentheses is read as an expression
first and turned into parameters if an arrow follows.
-/

namespace GameArchive
namespace Script
namespace Grammar

/-! ## Templates and arrays -/

/-- The part of a template that is ahead, and whether it ends the template. -/
def templatePart : Parser (Tree × Bool) := do
  let token ← advance
  return (← finish token.start .templateElement [], token.tail)

/-- Expressions and parts behind the first part of a template. -/
def templateRest (below : Below) : (fuel : Nat) → Parser (List Tree)
  | 0 => refuseAhead
  | fuel + 1 => do
    let value ← expression below
    if (← lookahead).kind ≠ .template then failBehind .illegal
    let (part, tail) ← templatePart
    let more ← if tail then pure [] else templateRest below fuel
    return value :: part :: more

def templateLiteral (below : Below) : Parser Tree := do
  let first ← lookahead
  if !first.head then throw .strayTemplate
  let (part, tail) ← templatePart
  let more ← if tail then pure [] else templateRest below (← tokensLeft)
  finish first.start .templateLiteral ((part :: more).map some)

/-- One element of an array literal, with the comma after it; none is an elision. -/
def arrayElement (below : Below) : Parser (Option Tree) := do
  if ← skipSign "," then return none
  else if ← atSign "..." then
    let element ← spread below
    if !(← atSign "]") then
      isValue
      expectSign ","
    return element
  else
    let element ← inherit (below .assignment)
    if !(← atSign "]") then expectSign ","
    return element

def arrayLiteral (below : Below) : Parser Tree := do
  let start ← here
  expectSign "["
  let elements ← collect (atSign "]") (arrayElement below)
  expectSign "]"
  finish start .arrayExpression elements

/-! ## Parentheses -/

/-- Items behind the first one in parentheses, the latest first, up to the closing sign or behind
it; whether they can be nothing but parameters. -/
def groupItems (below : Below) : (fuel : Nat) → List Tree → Parser (List Tree × Bool)
  | 0, _ => refuseAhead
  | fuel + 1, items => do
    if !(← skipSign ",") then return (items, false)
    else if ← skipSign ")" then return (items, true)
    else if ← atSign "..." then
      requireAhead (← context).bindable
      let rest ← restParameter below
      expectSign ")"
      demandSign "=>"
      setContext fun c => { c with bindable := false }
      return (rest :: items, true)
    else
      let item ← inherit (below .assignment)
      groupItems below fuel (item :: items)

/-- The end of an expression in parentheses, and its change into parameters if an arrow follows. -/
def closeGroup (value : Tree) (items : List Tree) : Parser Tree := do
  expectSign ")"
  let result ← if ← atSign "=>" then
      if value.name? = some (Text.ofString "yield") then pure (Tree.parameters false [value])
      else
        requireAhead (← context).bindable
        pure (Tree.parameters false (← items.mapM turnIntoPattern))
    else pure value
  setContext fun c => { c with bindable := false }
  return result

def group (below : Below) : Parser Tree := do
  expectSign "("
  let start ← here
  if ← skipSign ")" then
    demandSign "=>"
    return .parameters false []
  else if ← atSign "..." then
    let rest ← restParameter below
    expectSign ")"
    demandSign "=>"
    return .parameters false [rest]
  else
    setContext fun c => { c with bindable := true }
    let first ← inherit (below .assignment)
    if ← atSign "," then
      setContext fun c => { c with assignable := false }
      let (items, parametersOnly) ← groupItems below (← tokensLeft) [first]
      let items := items.reverse
      if parametersOnly then return .parameters false (← items.mapM turnIntoPattern)
      else closeGroup (← finish start .sequenceExpression (items.map some)) items
    else closeGroup first [first]

/-! ## Operands -/

/-- Arguments after the opening parenthesis. -/
def argumentsFrom (below : Below) (read : Parser Tree) : (fuel : Nat) → Parser (List Tree)
  | 0 => refuseAhead
  | fuel + 1 => do
    let first ← if ← atSign "..." then spread below else isolate read
    if ← atSign ")" then return [first]
    else
      expectSign ","
      if ← atSign ")" then return [first]
      else
        let more ← argumentsFrom below read fuel
        return first :: more

/-- Arguments in parentheses, each read by `read`. -/
def argumentsOf (below : Below) (read : Parser Tree) : Parser (List Tree) := do
  expectSign "("
  let items ← if ← atSign ")" then pure [] else argumentsFrom below read (← tokensLeft)
  expectSign ")"
  return items

def arguments (below : Below) : Parser (List Tree) := argumentsOf below (below .assignment)

/-- Arguments that may turn out to be parameters, in which a property may have a default. -/
def asyncArguments (below : Below) : Parser (List Tree) :=
  argumentsOf below do
    let item ← below .assignment
    setContext fun c => { c with pendingDefault := none }
    return item

/-- `new` with what it creates, or the property of it that a function may ask for. -/
def newExpression (below : Below) : Parser Tree := do
  let start ← here
  let word ← wordName
  if ← skipSign "." then
    requireAhead ((← atContextual "target") && (← context).inFunction)
    let name ← wordName
    finish start .metaProperty [word, name]
  else
    requireAhead !(← atKeyword "import")
    let callee ← isolate (below .callee)
    let items ← if ← atSign "(" then arguments below else pure []
    isValue
    finish start .newExpression (callee :: items.map some)

/-- `import` as a function: a parenthesis must follow. -/
def atImportCall : Parser Bool := do
  if ← atKeyword "import" then return (← peek).isSign "("
  else return false

/-- `async` with `function` behind it on the same line. -/
def atAsyncFunction : Parser Bool := do
  if ← atContextual "async" then
    let line := (← get).cursor.line
    let next ← peek
    return next.line = line && next.isKeyword "function"
  else return false

/-- An operand that starts with a keyword. -/
def keywordOperand (below : Below) : Parser Tree := do
  let start ← here
  let c ← context
  if !c.strict && c.allowYield && (← atKeyword "yield") then wordName
  else if !c.strict && (← atKeyword "let") then
    let token ← advance
    finishName start token.value
  else
    isValue
    if ← atKeyword "function" then functionExpression below
    else if ← atKeyword "this" then
      let _ ← advance
      finish start .thisExpression []
    else if ← atKeyword "class" then classExpression below
    else if ← atImportCall then
      let _ ← advance
      finish start .importCall []
    else refuse (← advance)

/-- An operand that starts with a sign. -/
def signOperand (below : Below) : Parser Tree := do
  let start ← here
  if ← atSign "(" then
    setContext fun c => { c with bindable := false }
    inherit (group below)
  else if ← atSign "[" then inherit (arrayLiteral below)
  else if ← atSign "\x7b" then inherit (objectLiteral below)
  else if ← atAnySign ["/", "/="] then
    isValue
    let token ← advanceRegularExpression
    finishLiteral start token
  else refuse (← advance)

def operand (below : Below) : Parser Tree := do
  let token ← lookahead
  let c ← context
  match token.kind with
  | .identifier =>
    refuseIf (c.async && token.value = Text.ofString "await") token
    if ← atAsyncFunction then functionExpression below
    else
      let _ ← advance
      finishName token.start token.value
  | .numeric | .string =>
    if c.strict && token.octal then refuseFor .strictOctal token
    isValue
    let _ ← advance
    finishLiteral token.start token
  | .boolean | .null =>
    isValue
    let _ ← advance
    finishLiteral token.start token
  | .template => templateLiteral below
  | .punctuator => signOperand below
  | .keyword => keywordOperand below
  | .regularExpression | .endOfText => refuse (← advance)

/-! ## Members and calls -/

/-- A member by name or by an expression in brackets, or a template after its tag; none if nothing
of the kind is ahead. -/
def memberStep? (below : Below) (start : Nat) (object : Tree) : Parser (Option Tree) := do
  if ← atSign "." then
    isTarget
    let _ ← advance
    let name ← wordName
    finish start .memberExpression [object, name]
  else if ← atSign "[" then
    isTarget
    let _ ← advance
    let name ← isolate (expression below)
    expectSign "]"
    finish start .memberExpression [object, name]
  else if (← lookahead).isTemplateHead then
    let template ← templateLiteral below
    finish start .taggedTemplateExpression [object, template]
  else return none

def calleeFrom (below : Below) (start : Nat) : (fuel : Nat) → Tree → Parser Tree
  | 0, _ => refuseAhead
  | fuel + 1, object => do
    match ← memberStep? below start object with
    | some member => calleeFrom below start fuel member
    | none => return object

/-- An operand with its members, no call. -/
def callee (below : Below) : Parser Tree := do
  let start ← here
  let object ← if (← atKeyword "super") && (← context).inFunction then do
      let _ ← advance
      requireAhead (← atAnySign ["[", "."])
      finish start .super []
    else if ← atKeyword "new" then inherit (newExpression below)
    else inherit (operand below)
  calleeFrom below start (← tokensLeft) object

/-- A call. After `async` on one line its arguments are parameters if an arrow follows. -/
def callStep (below : Below) (first : Token) (function : Tree) : Parser Tree := do
  let async := first.isContextual "async" && first.line = (← lookahead).line
  isValue
  let items ← if async then asyncArguments below else arguments below
  if function.is .importCall && items.length ≠ 1 then failAhead .misplaced
  let call ← finish first.start .callExpression (function :: items.map some)
  if async && (← atSign "=>") then return .parameters true (← items.mapM turnIntoPattern)
  else return call

def callFrom (below : Below) (first : Token) : (fuel : Nat) → Tree → Parser Tree
  | 0, _ => refuseAhead
  | fuel + 1, object => do
    if ← atSign "(" then
      let call ← callStep below first object
      callFrom below first fuel call
    else match ← memberStep? below first.start object with
      | some member => callFrom below first fuel member
      | none => return object

/-- An operand with its members and calls. -/
def call (below : Below) : Parser Tree := do
  let first ← lookahead
  withAllowIn true do
    let object ← if (← atKeyword "super") && (← context).inFunction then do
        let _ ← advance
        let word ← finish first.start .super []
        requireAhead (← atAnySign ["(", ".", "["])
        pure word
      else if ← atKeyword "new" then inherit (newExpression below)
      else inherit (operand below)
    callFrom below first (← tokensLeft) object

/-! ## Operators -/

/-- A target of `++` or `--`. In strict code it is no restricted name; `cause` says which of them
stands where. -/
def requireUpdatable (target : Tree) (cause : Cause) : Parser Unit := do
  if (← context).strict && target.isRestricted then failAhead cause
  if !(← context).assignable then failAhead .assignmentTarget

def update (below : Below) : Parser Tree := do
  let start ← here
  if ← atAnySign ["++", "--"] then
    let _ ← advance
    let target ← inherit (below .unary)
    requireUpdatable target .strictPrefix
    let result ← finish start .updateExpression [target]
    isValue
    return result
  else
    let target ← inherit (below .call)
    if !(← lineBreakAhead) && (← atAnySign ["++", "--"]) then
      requireUpdatable target .strictPostfix
      isValue
      let _ ← advance
      finish start .updateExpression [target]
    else return target

def unary (below : Below) : Parser Tree := do
  let token ← lookahead
  if token.isAnySign ["+", "-", "~", "!"] || token.isAnyKeyword ["delete", "void", "typeof"] then
    let _ ← advance
    let value ← inherit (below .unary)
    let result ← finish token.start .unaryExpression [value]
    if (← context).strict && token.isKeyword "delete" && value.is .identifier then
      failAhead .strictDelete
    isValue
    return result
  else if (← context).async && token.isContextual "await" then
    let _ ← advance
    let value ← below .unary
    finish token.start .awaitExpression [value]
  else update below

/-- Powers group to the right; an operand with a sign has none. -/
def power (below : Below) : Parser Tree := do
  let start ← here
  let base ← inherit (below .unary)
  if !base.is .unaryExpression && (← atSign "**") then
    let _ ← advance
    isValue
    let exponent ← isolate (below .power)
    finish start .binaryExpression [base, exponent]
  else return base

/-- How tightly the operator ahead binds, if there is one. -/
def precedenceAhead : Parser (Option Nat) := do
  let token ← lookahead
  match token.kind with
  | .punctuator => return signPrecedence? token.value
  | .keyword =>
    let isOperator := token.isKeyword "instanceof" || ((← context).allowIn && token.isKeyword "in")
    return if isOperator then some 7 else none
  | _ => return none

/-- An operand and the operator behind it that wait for the right operand. -/
structure Pending where
  start : Nat
  left : Tree
  operator : Text
  precedence : Nat

/-- The operation that a pending operand and a right operand make. -/
def reduce (p : Pending) (right : Tree) : Parser Tree :=
  let logical := p.operator = Text.ofString "||" ∨ p.operator = Text.ofString "&&"
  finish p.start (if logical then .logicalExpression else .binaryExpression) [p.left, right]

/-- Makes operations of the pending operands that bind at least as tightly as `precedence`. `start`
is where the right operand starts. -/
def reduceWhile (precedence start : Nat) : List Pending → Tree → Parser (Nat × Tree × List Pending)
  | [], right => return (start, right, [])
  | p :: pending, right => do
    if precedence ≤ p.precedence then
      let left ← reduce p right
      reduceWhile precedence p.start pending left
    else return (start, right, p :: pending)

/-- Operands and operators from a right operand on. -/
def binaryFrom (below : Below) : (fuel : Nat) → List Pending → (start : Nat) → Tree → Parser Tree
  | 0, _, _, _ => refuseAhead
  | fuel + 1, pending, start, right => do
    match ← precedenceAhead with
    | none =>
      let (_, result, _) ← reduceWhile 0 start pending right
      return result
    | some precedence =>
      let (start, left, pending) ← reduceWhile precedence start pending right
      let operator ← advance
      let next ← here
      let right ← isolate (power below)
      binaryFrom below fuel (⟨start, left, operator.value, precedence⟩ :: pending) next right

/-- Operands with binary operators between them. -/
def binary (below : Below) : Parser Tree := do
  let start ← here
  let first ← inherit (power below)
  if (← precedenceAhead).isSome then
    isValue
    binaryFrom below (← tokensLeft) [] start first
  else return first

def conditional (below : Below) : Parser Tree := do
  let start ← here
  let test ← inherit (binary below)
  if ← skipSign "?" then
    let yes ← withAllowIn true (isolate (below .assignment))
    expectSign ":"
    let no ← isolate (below .assignment)
    let result ← finish start .conditionalExpression [test, yes, no]
    isValue
    return result
  else return test

/-- `yield` with an optional value on the same line. -/
def yieldExpression (below : Below) : Parser Tree := do
  let start ← here
  expectKeyword "yield"
  let value ← if ← lineBreakAhead then pure none
    else withAllowYield false do
      if ← skipSign "*" then some <$> below .assignment
      else if (← lookahead).startsExpression then some <$> below .assignment
      else pure none
  finish start .yieldExpression (value.toList.map some)

/-! ## Arrow functions and assignments -/

/-- The parameters that an expression before an arrow gives, and whether they are asynchronous. -/
def parametersOf? : Tree → Option (Bool × List Tree)
  | .parameters async items => some (async, items)
  | t => if t.is .identifier then some (false, [t]) else none

/-- A parameter of an arrow function. A default `yield` without a value is a name there. -/
def arrowParameter (async : Bool) (item : Tree) : Parser Tree := do
  match item with
  | .node mark .assignmentPattern text [target, some (.node yielding .yieldExpression _ parts)] =>
    requireAhead parts.isEmpty
    let value : Tree := .node yielding .identifier (some "yield") []
    noteKinds value
    return .node mark .assignmentPattern text [target, some value]
  | _ =>
    requireAhead !(async && item.name? = some (Text.ofString "await"))
    return item

/-- The checked parameters of an arrow function. -/
def arrowParams (async : Bool) (items : List Tree) : Parser Params := do
  let c ← context
  let items ← items.mapM (arrowParameter async)
  let p := items.foldl (Params.add c.strict) (Params.none .none)
  requireAhead !((c.strict || !c.allowYield) && items.any (·.is .yieldExpression))
  if p.objections.cause = .duplicateParameter then failBehind .duplicateParameter
  return p

/-- An arrow function from the arrow on. -/
def arrowFunction (below : Below) (start : Nat) (async : Bool) (items : List Tree) :
    Parser Tree := do
  let p ← arrowParams async items
  requireAhead !(← lineBreakAhead)
  setContext fun c => { c with pendingDefault := none }
  let outer ← context
  setContext fun c =>
    { c with allowStrictDirective := p.simple, allowYield := true, async := async }
  expectSign "=>"
  let body ← if ← atSign "\x7b" then withAllowIn true (functionBody below)
    else isolate (below .assignment)
  if (← context).strict && p.objections.line?.isSome then failBehind p.objections.cause
  let result ← finish start .arrowFunctionExpression (p.items.map some ++ [some body])
  setContext fun c =>
    { c with
      strict := outer.strict
      allowStrictDirective := outer.allowStrictDirective
      allowYield := outer.allowYield
      async := outer.async }
  return result

/-- The one parameter without parentheses of an asynchronous arrow function. -/
def asyncParameter (below : Below) (first : Token) (value : Tree) : Parser Tree := do
  let ahead ← lookahead
  if first.isContextual "async" && first.line = ahead.line &&
      (ahead.kind = .identifier || ahead.isKeyword "yield") then
    let item ← operand below
    return .parameters true [← turnIntoPattern item]
  else return value

/-- An assignment from its sign on; it begins with the token `first`. -/
def assign (below : Below) (first : Token) (target : Tree) : Parser Tree := do
  let c ← context
  if !c.assignable then failAhead .assignmentTarget
  if c.strict && target.isRestricted then refuseFor .strictAssignment first
  if c.strict && target.name?.any strictReserved.contains then refuseFor .strictReservedWord first
  let isPlain ← atSign "="
  if !isPlain then isValue
  let _ ← advance
  let value ← isolate (below .assignment)
  let target ← if isPlain then turnIntoPattern target else pure target
  let result ← finish first.start .assignmentExpression [target, value]
  setContext fun c => { c with pendingDefault := none }
  return result

/-- An expression without a comma. -/
def assignment (below : Below) : Parser Tree := do
  if !(← context).allowYield && (← atKeyword "yield") then yieldExpression below
  else
    let first ← lookahead
    let value ← conditional below
    let value ← asyncParameter below first value
    let isArrow := (value matches .parameters ..) || (← atSign "=>")
    if isArrow then
      isValue
      match parametersOf? value with
      | some (async, items) => arrowFunction below first.start async items
      | none => return value
    else if (← lookahead).isAssignment then assign below first value
    else return value

end Grammar
end Script
end GameArchive
