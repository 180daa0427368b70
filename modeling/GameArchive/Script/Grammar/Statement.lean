import GameArchive.Script.Grammar.Expression

/-!
# Statements and declarations
-/

namespace GameArchive
namespace Script
namespace Grammar

/-! ## Declarations -/

/-- One declared variable, and whether it has a value. -/
structure Declarator where
  tree : Tree
  target : Tree
  hasValue : Bool

/-- The value behind an equals sign, if there is one. -/
def initializer? (below : Below) : Parser (Option Tree) := do
  if ← skipSign "=" then some <$> isolate (below .assignment) else return none

def finishDeclarator (start : Nat) (target : Tree) (value : Option Tree) : Parser Declarator := do
  let tree ← finish start .variableDeclarator (some target :: value.toList.map some)
  return ⟨tree, target, value.isSome⟩

/-- A variable. In strict code it is no restricted name. -/
def requireBindable (target : Tree) (cause : Cause) : Parser Unit := do
  if (← context).strict && target.isRestricted then failAhead cause

/-- A variable declared by `var`; a pattern needs a value outside the head of a loop. -/
def varDeclarator (below : Below) (inFor : Bool) : Parser Declarator := do
  let start ← here
  let target ← below (.pattern .var)
  requireBindable target .strictVariable
  let value ← initializer? below
  if value.isNone && !target.is .identifier && !inFor then expectSign "="
  finishDeclarator start target value

/-- A variable declared by `let` or `const`; a constant needs a value unless a loop gives it one. -/
def lexicalDeclarator (below : Below) (isConst inFor : Bool) : Parser Declarator := do
  let start ← here
  let target ← below (.pattern .lexical)
  requireBindable target .strictVariable
  let given := (← atKeyword "in") || (← atContextual "of")
  let value ← if isConst && given then pure none else initializer? below
  if value.isNone then
    if isConst then
      if !given then failBehind .missingConstant
    else if !inFor && !target.is .identifier then expectSign "="
  finishDeclarator start target value

def declarators (read : Parser Declarator) : Parser (List Declarator) := do
  let first ← read
  let more ← collect (return !(← atSign ",")) do
    let _ ← advance
    read
  return first :: more

def finishDeclaration (start : Nat) (items : List Declarator) : Parser Tree :=
  finish start .variableDeclaration (items.map (some ·.tree))

def varStatement (below : Below) : Parser Tree := do
  let start ← here
  expectKeyword "var"
  let items ← declarators (varDeclarator below false)
  endStatement
  finishDeclaration start items

def lexicalDeclaration (below : Below) : Parser Tree := do
  let start ← here
  let word ← advance
  let items ← declarators (lexicalDeclarator below (word.isKeyword "const") false)
  endStatement
  finishDeclaration start items

/-- Whether `let` starts a declaration: a name or a pattern must follow. -/
def letDeclares : Parser Bool := do
  let next ← peek
  return next.kind = .identifier || next.isAnySign ["[", "\x7b"] ||
      next.isAnyKeyword ["let", "yield"]

/-! ## Simple statements -/

def block (below : Below) : Parser Tree := do
  let start ← here
  expectSign "\x7b"
  let items ← collect (atSign "\x7d") (below .item)
  expectSign "\x7d"
  finish start .blockStatement (items.map some)

def expressionStatement (below : Below) : Parser Tree := do
  let start ← here
  let value ← expression below
  endStatement
  finish start .expressionStatement [value]

/-- A statement that is a keyword alone. -/
def wordStatement (kind : Kind) : Parser Tree := do
  let start ← here
  let _ ← advance
  endStatement
  finish start kind []

/-- An expression in parentheses behind a keyword. -/
def condition (below : Below) : Parser Tree := do
  expectSign "("
  let test ← expression below
  expectSign ")"
  return test

/-- A branch; strict code has no function declaration there. -/
def branch (below : Below) : Parser Tree := do
  if (← context).strict && (← atKeyword "function") then failAhead .strictFunction
  below .statement

def ifStatement (below : Below) : Parser Tree := do
  let start ← here
  expectKeyword "if"
  let test ← condition below
  let yes ← branch below
  if ← atKeyword "else" then
    let _ ← advance
    let no ← branch below
    finish start .ifStatement [test, yes, no]
  else finish start .ifStatement [test, yes]

def withStatement (below : Below) : Parser Tree := do
  if (← context).strict then failAhead .strictWith
  let start ← here
  expectKeyword "with"
  let object ← condition below
  let body ← below .statement
  finish start .withStatement [object, body]

/-- The label behind `break` or `continue`, which must be in force. -/
def knownLabel? : Parser (Option Tree) := do
  if (← lookahead).kind = .identifier && !(← lineBreakAhead) then
    let label ← variableName .plain
    let name := label.name?.getD []
    if !(← context).labels.contains name then failBehind (.unknownLabel name)
    return some label
  else return none

def continueStatement : Parser Tree := do
  let start ← here
  expectKeyword "continue"
  let label ← knownLabel?
  endStatement
  if label.isNone && !(← context).inIteration then failBehind .strayContinue
  finish start .continueStatement [label]

def breakStatement : Parser Tree := do
  let start ← here
  expectKeyword "break"
  let label ← knownLabel?
  endStatement
  let c ← context
  if label.isNone && !c.inIteration && !c.inSwitch then failBehind .strayBreak
  finish start .breakStatement [label]

/-- A return value stands on the same line, unless it starts with a string or template. -/
def returnStatement (below : Below) : Parser Tree := do
  if !(← context).inFunction then failAhead .strayReturn
  let start ← here
  expectKeyword "return"
  let ahead ← lookahead
  let onLine := !ahead.isAnySign [";", "\x7d"] && !(← lineBreakAhead) && ahead.kind ≠ .endOfText
  let value ← if onLine || ahead.kind = .string || ahead.kind = .template then
      some <$> expression below
    else pure none
  endStatement
  finish start .returnStatement [value]

def throwStatement (below : Below) : Parser Tree := do
  let start ← here
  expectKeyword "throw"
  if ← lineBreakAhead then failBehind .lineAfterThrow
  let value ← expression below
  endStatement
  finish start .throwStatement [value]

/-! ## Loops -/

def whileStatement (below : Below) : Parser Tree := do
  let start ← here
  expectKeyword "while"
  let test ← condition below
  let body ← withIteration (below .statement)
  finish start .whileStatement [test, body]

def doStatement (below : Below) : Parser Tree := do
  let start ← here
  expectKeyword "do"
  let body ← withIteration (below .statement)
  expectKeyword "while"
  let test ← condition below
  let _ ← skipSign ";"
  finish start .doWhileStatement [body, test]

/-- The body of a loop behind its head. -/
def loopBody (below : Below) : Parser Tree := do
  expectSign ")"
  withIteration (isolate (below .statement))

/-- A loop over what an expression gives, from its word on. -/
def loopOver (below : Below) (start : Nat) (kind : Kind) (target : Tree) : Parser Tree := do
  let _ ← advance
  let source ← if kind = .forInStatement then expression below else below .assignment
  let body ← loopBody below
  finish start kind [target, source, body]

/-- A loop with a test and a step, from the test on. -/
def loopWith (below : Below) (start : Nat) (init : Option Tree) : Parser Tree := do
  let test ← if ← atSign ";" then pure none else some <$> expression below
  expectSign ";"
  let step ← if ← atSign ")" then pure none else some <$> expression below
  let body ← loopBody below
  finish start .forStatement [init, test, step, body]

/-- A loop whose head starts with `var`. -/
def varLoop (below : Below) (start : Nat) : Parser Tree := do
  let word ← advance
  let items ← withAllowIn false (declarators (varDeclarator below true))
  match items with
  | [item] =>
    if ← atKeyword "in" then
      if item.hasValue && (item.target.is .arrayPattern || item.target.is .objectPattern ||
          (← context).strict) then
        failAhead .keyValue
      loopOver below start .forInStatement (← finishDeclaration word.start items)
    else if !item.hasValue && (← atContextual "of") then
      loopOver below start .forOfStatement (← finishDeclaration word.start items)
    else
      let init ← finishDeclaration word.start items
      expectSign ";"
      loopWith below start init
  | _ =>
    let init ← finishDeclaration word.start items
    expectSign ";"
    loopWith below start init

/-- A loop whose head starts with `let` or `const`. Outside strict code such a word is a name before
`in`. -/
def lexicalLoop (below : Below) (start : Nat) : Parser Tree := do
  let word ← advance
  if !(← context).strict && (← lookahead).value = Text.ofString "in" then
    loopOver below start .forInStatement (← finishName word.start word.value)
  else
    let items ←
      withAllowIn false (declarators (lexicalDeclarator below (word.isKeyword "const") true))
    let single := items.length = 1 && !items.any (·.hasValue)
    if single && (← atKeyword "in") then
      loopOver below start .forInStatement (← finishDeclaration word.start items)
    else if single && (← atContextual "of") then
      loopOver below start .forOfStatement (← finishDeclaration word.start items)
    else
      endStatement
      loopWith below start (← finishDeclaration word.start items)

/-- A loop whose head starts with an expression. -/
def expressionLoop (below : Below) (start : Nat) : Parser Tree := do
  let first ← here
  let init ← withAllowIn false (inherit (below .assignment))
  if (← atKeyword "in") || (← atContextual "of") then
    let overKeys ← atKeyword "in"
    if !(← context).assignable || init.is .assignmentExpression then
      failAhead (if overKeys then .keyTarget else .valueTarget)
    let kind := if overKeys then .forInStatement else .forOfStatement
    loopOver below start kind (← turnIntoPattern init)
  else
    let more ← commaExpressions below
    let init ← if more.isEmpty then pure init
      else finish first .sequenceExpression ((init :: more).map some)
    expectSign ";"
    loopWith below start init

def forStatement (below : Below) : Parser Tree := do
  let start ← here
  expectKeyword "for"
  expectSign "("
  if ← skipSign ";" then loopWith below start none
  else if ← atKeyword "var" then varLoop below start
  else if ← atAnyKeyword ["const", "let"] then lexicalLoop below start
  else expressionLoop below start

/-! ## Compound statements -/

/-- A clause of a switch, and whether it is the default one. -/
def switchCase (below : Below) : Parser (Tree × Bool) := do
  let start ← here
  let test ← if ← atKeyword "default" then do
      let _ ← advance
      pure none
    else do
      expectKeyword "case"
      some <$> expression below
  expectSign ":"
  let items ← collect (return (← atSign "\x7d") || (← atAnyKeyword ["default", "case"]))
    (below .item)
  return (← finish start .switchCase (test :: items.map some), test.isNone)

/-- Clauses up to the closing brace; `known` holds once there is a default one. -/
def switchCases (below : Below) : (fuel : Nat) → (known : Bool) → Parser (List Tree)
  | 0, _ => refuseAhead
  | fuel + 1, known => do
    if ← atSign "\x7d" then return []
    else
      let (clause, isDefault) ← switchCase below
      if known && isDefault then failBehind .secondDefault
      let more ← switchCases below fuel (known || isDefault)
      return clause :: more

def switchStatement (below : Below) : Parser Tree := do
  let start ← here
  expectKeyword "switch"
  let value ← condition below
  let outer ← context
  setContext fun c => { c with inSwitch := true }
  expectSign "\x7b"
  let cases ← switchCases below (← tokensLeft) false
  expectSign "\x7d"
  setContext fun c => { c with inSwitch := outer.inSwitch }
  finish start .switchStatement (some value :: cases.map some)

/-- The first name in a list that is known from before. -/
def repeated? (known : List Text) : List Text → Option Text
  | [] => none
  | name :: names => if known.contains name then some name else repeated? (name :: known) names

def catchClause (below : Below) : Parser Tree := do
  let start ← here
  expectKeyword "catch"
  expectSign "("
  requireAhead !(← atSign ")")
  let target ← below (.pattern .plain)
  match repeated? [] (target.boundNames.map (·.1)) with
  | some name => failAhead (.duplicateBinding name)
  | none => pure ()
  requireBindable target .strictCatch
  expectSign ")"
  let body ← block below
  finish start .catchClause [target, body]

def tryStatement (below : Below) : Parser Tree := do
  let start ← here
  expectKeyword "try"
  let body ← block below
  let handler ← if ← atKeyword "catch" then some <$> catchClause below else pure none
  let finalizer ← if ← atKeyword "finally" then do
      let _ ← advance
      some <$> block below
    else pure none
  if handler.isNone && finalizer.isNone then failBehind .noHandler
  finish start .tryStatement [some body, handler, finalizer]

/-- What a label stands before. -/
def labelled (below : Below) : Parser Tree := do
  if ← atKeyword "class" then refuseAhead
  else if ← atKeyword "function" then
    let token ← lookahead
    let (declaration, generator) ← functionDeclaration below
    if (← context).strict then refuseFor .strictFunction token
    if generator then refuseFor .labelledGenerator token
    return declaration
  else below .statement

/-- A statement that starts with a name: a label, or an expression. -/
def nameStatement (below : Below) : Parser Tree := do
  let start ← here
  let value ← expression below
  match value.name?, ← atSign ":" with
  | some name, true =>
    let _ ← advance
    if (← context).labels.contains name then failBehind (.duplicateLabel name)
    setContext fun c => { c with labels := name :: c.labels }
    let body ← labelled below
    setContext fun c => { c with labels := c.labels.erase name }
    finish start .labeledStatement [value, body]
  | _, _ =>
    endStatement
    finish start .expressionStatement [value]

/-- A statement that starts with a keyword. -/
def keywordStatement (below : Below) (token : Token) : Parser Tree :=
  if token.isKeyword "break" then breakStatement
  else if token.isKeyword "continue" then continueStatement
  else if token.isKeyword "debugger" then wordStatement .debuggerStatement
  else if token.isKeyword "do" then doStatement below
  else if token.isKeyword "for" then forStatement below
  else if token.isKeyword "function" then (·.1) <$> functionDeclaration below
  else if token.isKeyword "if" then ifStatement below
  else if token.isKeyword "return" then returnStatement below
  else if token.isKeyword "switch" then switchStatement below
  else if token.isKeyword "throw" then throwStatement below
  else if token.isKeyword "try" then tryStatement below
  else if token.isKeyword "var" then varStatement below
  else if token.isKeyword "while" then whileStatement below
  else if token.isKeyword "with" then withStatement below
  else expressionStatement below

def emptyStatement : Parser Tree := do
  let start ← here
  expectSign ";"
  finish start .emptyStatement []

def statement (below : Below) : Parser Tree := do
  let token ← lookahead
  match token.kind with
  | .punctuator =>
    if token.isSign "\x7b" then block below
    else if token.isSign ";" then emptyStatement
    else expressionStatement below
  | .identifier =>
    if ← atAsyncFunction then (·.1) <$> functionDeclaration below else nameStatement below
  | .keyword => keywordStatement below token
  | .endOfText => refuse token
  | _ => expressionStatement below

/-- A statement or declaration. `import` is only a function here, and `export` is nothing. -/
def item (below : Below) : Parser Tree := do
  setContext fun c => { c with assignable := true, bindable := true }
  let token ← lookahead
  if token.isKeyword "export" then refuseFor .misplaced token
  else if token.isKeyword "import" then
    if ← atImportCall then expressionStatement below else refuseFor .misplaced token
  else if token.isKeyword "const" then lexicalDeclaration below
  else if token.isKeyword "function" then (·.1) <$> functionDeclaration below
  else if token.isKeyword "class" then classDeclaration below
  else if token.isKeyword "let" then
    if ← letDeclares then lexicalDeclaration below else statement below
  else statement below

end Grammar
end Script
end GameArchive
