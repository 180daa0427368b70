import GameArchive.Script.Grammar.Function

/-!
# Object literals and classes
-/

namespace GameArchive
namespace Script
namespace Grammar

/-- A spread argument, element or property. -/
def spread (below : Below) : Parser Tree := do
  let start ← here
  expectSign "..."
  let value ← inherit (below .assignment)
  finish start .spreadElement [value]

/-- The value of a property that starts with a colon, a default or a parameter list, or that is its
own name. `first` is the token of the property, `plain` holds unless it is asynchronous, and `proto`
once a property has set the prototype. Also says whether this one does. -/
def propertyValue (below : Below) (first : Token) (key : Tree) (plain proto : Bool) :
    Parser (Tree × Bool) := do
  if plain && (← atSign ":") then
    let sets := !first.isSign "[" && key.spells "__proto__"
    if proto && sets then failAhead .duplicatePrototype
    let _ ← advance
    return (← inherit (below .assignment), sets)
  else if ← atSign "(" then
    return (← if plain then plainMethod below else asyncMethod below, false)
  else
    if first.kind ≠ .identifier then refuse (← advance)
    let name ← finishName first.start first.value
    if ← atSign "=" then
      let line := (← lookahead).line
      setContext fun c => { c with pendingDefault := some line }
      let _ ← advance
      let default ← isolate (below .assignment)
      return (← finish first.start .assignmentPattern [name, default], false)
    else return (name, false)

/-- The first words of a property: its key so far, and whether it is asynchronous. -/
def propertyKey (below : Below) (token : Token) : Parser (Option Tree × Bool) := do
  if token.kind = .identifier then
    let _ ← advance
    let async := token.value = Text.ofString "async" && !(← lineBreakAhead) &&
      !(← atAnySign [":", "(", "*", ","])
    if async then return (some (← propertyName below), true)
    else return (some (← finishName token.start token.value), false)
  else if ← skipSign "*" then return (none, false)
  else return (some (← propertyName below), false)

/-- A property of an object literal, and whether it sets the prototype. -/
def property (below : Below) (proto : Bool) : Parser (Tree × Bool) := do
  let first ← lookahead
  let (key, async) ← propertyKey below first
  let named := (← lookahead).startsPropertyName
  let accessor := first.kind = .identifier && !async && named
  if accessor && first.value = Text.ofString "get" then
    let name ← propertyName below
    setContext fun c => { c with allowYield := false }
    let value ← getterMethod below
    return (← finish first.start .property [key, name, value], false)
  else if accessor && first.value = Text.ofString "set" then
    let name ← propertyName below
    let value ← setterMethod below
    return (← finish first.start .property [key, name, value], false)
  else match key with
    | none =>
      requireAhead named
      let name ← propertyName below
      let value ← generatorMethod below
      return (← finish first.start .property [name, value], false)
    | some key =>
      let (value, sets) ← propertyValue below first key (!async) proto
      return (← finish first.start .property [key, value], sets)

/-- Properties up to the closing brace; `proto` holds once the prototype has been set. -/
def propertiesFrom (below : Below) : (fuel : Nat) → (proto : Bool) → Parser (List Tree)
  | 0, _ => refuseAhead
  | fuel + 1, proto => do
    if ← atSign "\x7d" then return []
    else
      let (item, sets) ← if ← atSign "..." then pure (← spread below, false)
        else property below proto
      if !(← atSign "\x7d") then expectSign ","
      let more ← propertiesFrom below fuel (proto || sets)
      return item :: more

def objectLiteral (below : Below) : Parser Tree := do
  let start ← here
  expectSign "\x7b"
  let items ← propertiesFrom below (← tokensLeft) false
  expectSign "\x7d"
  finish start .objectExpression (items.map some)

/-! ## Classes -/

/-- What the words before the parameters of a class member say. `first` is the token that decides
what the words mean: the one behind `static`, or behind `async`. -/
structure Member where
  first : Token
  key : Option Tree
  computed : Bool
  static : Bool
  async : Bool
  /-- Nodes of words before the key. -/
  words : List (Option Tree)

/-- The words `static` and `async` and the key behind them. -/
def memberHead (below : Below) : Parser Member := do
  let first ← lookahead
  if ← skipSign "*" then return ⟨first, none, false, false, false, []⟩
  else
    let computed := first.isSign "["
    let key ← propertyName below
    let ahead ← lookahead
    let static := key.name? = some (Text.ofString "static") &&
      (ahead.startsPropertyName || ahead.isSign "*")
    let m : Member ← if !static then pure ⟨first, some key, computed, false, false, []⟩
      else if ← skipSign "*" then pure ⟨ahead, some key, false, true, false, []⟩
      else pure ⟨ahead, some (← propertyName below), ahead.isSign "[", true, false, [some key]⟩
    let next ← lookahead
    if m.first.isContextual "async" && !(← lineBreakAhead) &&
        [":", "(", "*"].all (next.value ≠ Text.ofString ·) then
      let name ← propertyName below
      if next.isContextual "constructor" then refuseFor .asyncConstructor next
      return { m with first := next, key := some name, async := true, words := m.words ++ [m.key] }
    else return m

/-- How a member is called in the rules about constructors. -/
inductive MemberKind where
  | method
  | generator
  | accessor
deriving DecidableEq

/-- The rest of a member: its key, whether it is computed, its value and kind. -/
def memberValue (below : Below) (m : Member) : Parser (Tree × Bool × Tree × MemberKind) := do
  let ahead ← lookahead
  let named := ahead.startsPropertyName
  if named && m.first.isContextual "get" then
    let key ← propertyName below
    setContext fun c => { c with allowYield := false }
    return (key, ahead.isSign "[", ← getterMethod below, .accessor)
  else if named && m.first.isContextual "set" then
    let key ← propertyName below
    return (key, ahead.isSign "[", ← setterMethod below, .accessor)
  else if named && m.first.isSign "*" then
    let key ← propertyName below
    return (key, ahead.isSign "[", ← generatorMethod below, .generator)
  else
    refuseIf (!ahead.isSign "(") ahead
    match m.key with
    | none => refuseAhead
    | some key =>
      return (key, m.computed, ← if m.async then asyncMethod below else plainMethod below, .method)

/-- A member of a class, and whether it is the constructor; `known` holds once there is one. -/
def classMember (below : Below) (known : Bool) : Parser (Tree × Bool) := do
  let start ← here
  let m ← memberHead below
  let (key, computed, value, kind) ← memberValue below m
  if !computed && m.static && key.spells "prototype" then refuseFor .staticPrototype m.first
  let isConstructor := !computed && !m.static && key.spells "constructor"
  if isConstructor && kind ≠ .method then refuseFor .specialConstructor m.first
  if isConstructor && known then refuseFor .duplicateConstructor m.first
  let words := m.words ++ if kind = .accessor then [m.key] else []
  return (← finish start .methodDefinition (words ++ [some key, some value]), isConstructor)

/-- Members up to the closing brace, with any number of semicolons between them. -/
def membersFrom (below : Below) : (fuel : Nat) → (known : Bool) → Parser (List Tree)
  | 0, _ => refuseAhead
  | fuel + 1, known => do
    if ← atSign "\x7d" then return []
    else if ← skipSign ";" then membersFrom below fuel known
    else
      let (member, isConstructor) ← classMember below known
      let more ← membersFrom below fuel (known || isConstructor)
      return member :: more

def classBody (below : Below) : Parser Tree := do
  let start ← here
  expectSign "\x7b"
  let members ← membersFrom below (← tokensLeft) false
  expectSign "\x7d"
  finish start .classBody (members.map some)

/-- A class with the name that `read` reads. All of it is strict. -/
def classWith (below : Below) (kind : Kind) (read : Parser (Option Tree)) : Parser Tree := do
  let start ← here
  let outer ← context
  setContext fun c => { c with strict := true }
  expectKeyword "class"
  let name ← read
  let parent ← if ← atKeyword "extends" then do
      let _ ← advance
      pure (some (← isolate (below .call)))
    else pure none
  let body ← classBody below
  setContext fun c => { c with strict := outer.strict }
  finish start kind [name, parent, body]

def classDeclaration (below : Below) : Parser Tree :=
  classWith below .classDeclaration (some <$> variableName .plain)

def classExpression (below : Below) : Parser Tree :=
  classWith below .classExpression do
    if (← lookahead).kind = .identifier then some <$> variableName .plain else pure none

end Grammar
end Script
end GameArchive
