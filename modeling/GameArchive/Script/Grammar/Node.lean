import GameArchive.Script.Grammar.Token

/-!
# Nodes

A finished production gives a node. `Visit` is what is known of it when it is finished; `Tree` is
what the reader of the enclosing production still has to look at. A literal that turns out to be a
pattern changes its kind after its visit.
-/

namespace GameArchive
namespace Script
namespace Grammar

inductive Kind where
  | arrayExpression
  | arrayPattern
  | arrowFunctionExpression
  | assignmentExpression
  | assignmentPattern
  | awaitExpression
  | binaryExpression
  | blockStatement
  | breakStatement
  | callExpression
  | catchClause
  | classBody
  | classDeclaration
  | classExpression
  | conditionalExpression
  | continueStatement
  | debuggerStatement
  | doWhileStatement
  | emptyStatement
  | expressionStatement
  | forInStatement
  | forOfStatement
  | forStatement
  | functionDeclaration
  | functionExpression
  | identifier
  | ifStatement
  | importCall
  | labeledStatement
  | literal
  | logicalExpression
  | memberExpression
  | metaProperty
  | methodDefinition
  | newExpression
  | objectExpression
  | objectPattern
  | program
  | property
  | restElement
  | returnStatement
  | sequenceExpression
  | spreadElement
  | super
  | switchCase
  | switchStatement
  | taggedTemplateExpression
  | templateElement
  | templateLiteral
  | thisExpression
  | throwStatement
  | tryStatement
  | unaryExpression
  | updateExpression
  | variableDeclaration
  | variableDeclarator
  | whileStatement
  | withStatement
  | yieldExpression
deriving DecidableEq

def Kind.name : Kind → Text
  | .arrayExpression => "ArrayExpression"
  | .arrayPattern => "ArrayPattern"
  | .arrowFunctionExpression => "ArrowFunctionExpression"
  | .assignmentExpression => "AssignmentExpression"
  | .assignmentPattern => "AssignmentPattern"
  | .awaitExpression => "AwaitExpression"
  | .binaryExpression => "BinaryExpression"
  | .blockStatement => "BlockStatement"
  | .breakStatement => "BreakStatement"
  | .callExpression => "CallExpression"
  | .catchClause => "CatchClause"
  | .classBody => "ClassBody"
  | .classDeclaration => "ClassDeclaration"
  | .classExpression => "ClassExpression"
  | .conditionalExpression => "ConditionalExpression"
  | .continueStatement => "ContinueStatement"
  | .debuggerStatement => "DebuggerStatement"
  | .doWhileStatement => "DoWhileStatement"
  | .emptyStatement => "EmptyStatement"
  | .expressionStatement => "ExpressionStatement"
  | .forInStatement => "ForInStatement"
  | .forOfStatement => "ForOfStatement"
  | .forStatement => "ForStatement"
  | .functionDeclaration => "FunctionDeclaration"
  | .functionExpression => "FunctionExpression"
  | .identifier => "Identifier"
  | .ifStatement => "IfStatement"
  | .importCall => "Import"
  | .labeledStatement => "LabeledStatement"
  | .literal => "Literal"
  | .logicalExpression => "LogicalExpression"
  | .memberExpression => "MemberExpression"
  | .metaProperty => "MetaProperty"
  | .methodDefinition => "MethodDefinition"
  | .newExpression => "NewExpression"
  | .objectExpression => "ObjectExpression"
  | .objectPattern => "ObjectPattern"
  | .program => "Program"
  | .property => "Property"
  | .restElement => "RestElement"
  | .returnStatement => "ReturnStatement"
  | .sequenceExpression => "SequenceExpression"
  | .spreadElement => "SpreadElement"
  | .super => "Super"
  | .switchCase => "SwitchCase"
  | .switchStatement => "SwitchStatement"
  | .taggedTemplateExpression => "TaggedTemplateExpression"
  | .templateElement => "TemplateElement"
  | .templateLiteral => "TemplateLiteral"
  | .thisExpression => "ThisExpression"
  | .throwStatement => "ThrowStatement"
  | .tryStatement => "TryStatement"
  | .unaryExpression => "UnaryExpression"
  | .updateExpression => "UpdateExpression"
  | .variableDeclaration => "VariableDeclaration"
  | .variableDeclarator => "VariableDeclarator"
  | .whileStatement => "WhileStatement"
  | .withStatement => "WithStatement"
  | .yieldExpression => "YieldExpression"

/-- A finished node: its kind at that time, its place, the name of an identifier and the text of a
literal as the script has it. -/
structure Visit where
  kind : Kind
  start : Nat
  stop : Nat
  name : Option Text
  raw : Option Text
deriving DecidableEq

/-- The number of the visit of a node, and the line on which the node ends. -/
structure Mark where
  visit : Nat
  line : Nat

inductive Tree where
  /-- A visited node. `text` is the name of an identifier or the content of a string, and `parts`
  are the nodes below it in the order of the production. -/
  | node (mark : Mark) (kind : Kind) (text : Option Text) (parts : List (Option Tree))
  /-- The parameters of an arrow function in parentheses, which are no node. -/
  | parameters (async : Bool) (items : List Tree)

namespace Tree

def kind? : Tree → Option Kind
  | node _ kind _ _ => some kind
  | parameters .. => none

def is (t : Tree) (kind : Kind) : Bool := t.kind? = some kind

/-- The name of an identifier. -/
def name? : Tree → Option Text
  | node _ .identifier text _ => text
  | _ => none

/-- An identifier or a string of this text. -/
def spells (t : Tree) (text : String) : Bool :=
  match t with
  | node _ .identifier s _ => s = some (Text.ofString text)
  | node _ .literal s _ => s = some (Text.ofString text)
  | _ => false

/-- Identifiers that code in strict mode must not assign to. -/
def isRestricted (t : Tree) : Bool := t.name?.any restricted.contains

/-! ## Patterns -/

mutual

/-- The node as a pattern: literals, spreads and assignments change their kind, down to the
targets. -/
def asPattern : Tree → Tree
  | node mark .spreadElement text parts => node mark .restElement text (asPatterns parts)
  | node mark .arrayExpression text parts => node mark .arrayPattern text (asPatterns parts)
  | node mark .objectExpression text parts => node mark .objectPattern text (asProperties parts)
  | node mark .assignmentExpression text parts =>
    node mark .assignmentPattern text (asPatternFirst parts)
  | t => t

def asPatterns : List (Option Tree) → List (Option Tree)
  | [] => []
  | none :: rest => none :: asPatterns rest
  | some t :: rest => some (asPattern t) :: asPatterns rest

/-- The target of an assignment is a pattern, its value is not. -/
def asPatternFirst : List (Option Tree) → List (Option Tree)
  | some t :: rest => some (asPattern t) :: rest
  | parts => parts

/-- The values of properties become patterns, and spreads. -/
def asProperties : List (Option Tree) → List (Option Tree)
  | [] => []
  | some (node mark .property text [key, some value]) :: rest =>
    some (node mark .property text [key, some (asPattern value)]) :: asProperties rest
  | some t :: rest => some (asPattern t) :: asProperties rest
  | none :: rest => none :: asProperties rest

end

mutual

/-- The kinds that visited nodes have in a tree. -/
def kinds : Tree → List (Nat × Kind)
  | node mark kind _ parts => (mark.visit, kind) :: kindsOf parts
  | parameters _ items => kindsOfAll items

def kindsOf : List (Option Tree) → List (Nat × Kind)
  | [] => []
  | none :: rest => kindsOf rest
  | some t :: rest => kinds t ++ kindsOf rest

def kindsOfAll : List Tree → List (Nat × Kind)
  | [] => []
  | t :: rest => kinds t ++ kindsOfAll rest

end

mutual

/-- The names that a pattern binds, in order, with their lines. -/
def boundNames : Tree → List (Text × Nat)
  | node mark .identifier text _ => text.toList.map (·, mark.line)
  | node _ .restElement _ parts => boundNamesOf parts
  | node _ .arrayPattern _ parts => boundNamesOf parts
  | node _ .objectPattern _ parts => boundNamesOf parts
  | node _ .assignmentPattern _ (some target :: _) => boundNames target
  | node _ .property _ [_, some value] => boundNames value
  | _ => []

def boundNamesOf : List (Option Tree) → List (Text × Nat)
  | [] => []
  | none :: rest => boundNamesOf rest
  | some t :: rest => boundNames t ++ boundNamesOf rest

end

end Tree

end Grammar
end Script
end GameArchive
