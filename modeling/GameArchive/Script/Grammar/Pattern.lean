import GameArchive.Script.Grammar.Parser

/-!
# Names, property names and binding patterns
-/

namespace GameArchive
namespace Script
namespace Grammar

/-- A name where a variable is bound. -/
def variableName (binding : Binding) : Parser Tree := do
  let token ← advance
  let c ← context
  if token.isKeyword "yield" then
    refuseIf (c.strict || !c.allowYield) token
  else if token.kind ≠ .identifier then
    refuseIf (c.strict || token.value ≠ Text.ofString "let" || binding ≠ .var) token
  else
    refuseIf (c.async && token.value = Text.ofString "await") token
  finishName token.start token.value

/-- Any word as a name, keywords included. -/
def wordName : Parser Tree := do
  let token ← advance
  refuseIf (!token.isWord) token
  finishName token.start token.value

/-- The name of a property: a word, a string, a number, or an expression in brackets. -/
def propertyName (below : Below) : Parser Tree := do
  let token ← advance
  if token.kind = .string ∨ token.kind = .numeric then
    if (← context).strict && token.octal then refuseFor .strictOctal token
    finishLiteral token.start token
  else if token.isWord then finishName token.start token.value
  else
    refuseIf (!token.isSign "[") token
    let key ← isolate (below .assignment)
    expectSign "]"
    return key

/-- A pattern with an optional default. -/
def patternWithDefault (below : Below) (binding : Binding) : Parser Tree := do
  let start ← here
  let target ← below (.pattern binding)
  if ← skipSign "=" then
    let value ← withAllowYield true (isolate (below .assignment))
    finish start .assignmentPattern [target, value]
  else return target

/-- One element of an array pattern, with the comma after it; none is an elision. -/
def arrayPatternElement (below : Below) (binding : Binding) : Parser (Option Tree) := do
  let start ← here
  if ← skipSign "," then return none
  else if ← skipSign "..." then
    let target ← below (.pattern binding)
    let element ← finish start .restElement [target]
    demandSign "]"
    return element
  else
    let element ← patternWithDefault below binding
    if !(← atSign "]") then expectSign ","
    return element

def arrayPattern (below : Below) (binding : Binding) : Parser Tree := do
  let start ← here
  expectSign "["
  let elements ← collect (atSign "]") (arrayPatternElement below binding)
  expectSign "]"
  finish start .arrayPattern elements

/-- A property of an object pattern. A name alone binds itself and is visited twice. -/
def propertyPattern (below : Below) (binding : Binding) : Parser Tree := do
  let token ← lookahead
  if token.kind = .identifier then
    let key ← variableName .plain
    let target ← finishName token.start token.value
    if ← skipSign "=" then
      let default ← below .assignment
      let value ← finish token.start .assignmentPattern [target, default]
      finish token.start .property [key, value]
    else if ← skipSign ":" then
      let value ← patternWithDefault below binding
      finish token.start .property [key, value]
    else finish token.start .property [key, target]
  else
    let key ← propertyName below
    expectSign ":"
    let value ← patternWithDefault below binding
    finish token.start .property [key, value]

/-- A target for what is left, the last thing before a closing sign. `otherwise` is what is wrong if
more follows. -/
def restElement (below : Below) (closing : String) (otherwise : Cause) : Parser Tree := do
  let start ← here
  expectSign "..."
  let target ← below (.pattern .plain)
  if ← atSign "=" then failBehind .restDefault
  if !(← atSign closing) then failBehind otherwise
  finish start .restElement [target]

/-- A parameter for the arguments that are left. -/
def restParameter (below : Below) : Parser Tree := restElement below ")" .parameterAfterRest

def objectPatternElement (below : Below) (binding : Binding) : Parser (Option Tree) := do
  let element ← if ← atSign "..." then restElement below "\x7d" .misplaced
    else propertyPattern below binding
  if !(← atSign "\x7d") then expectSign ","
  return element

def objectPattern (below : Below) (binding : Binding) : Parser Tree := do
  let start ← here
  expectSign "\x7b"
  let elements ← collect (atSign "\x7d") (objectPatternElement below binding)
  expectSign "\x7d"
  finish start .objectPattern elements

/-- A name, or an array or object pattern. -/
def pattern (below : Below) (binding : Binding) : Parser Tree := do
  if ← atSign "[" then arrayPattern below binding
  else if ← atSign "\x7b" then objectPattern below binding
  else
    if (← atKeyword "let") && binding = .lexical then refuseFor .letBound (← lookahead)
    variableName binding

end Grammar
end Script
end GameArchive
