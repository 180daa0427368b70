import GameArchive.Script.Grammar.Character
import GameArchive.Script.Grammar.Fault

/-!
# Tokens

A token knows its place and its text in the script, and its value: the name, the content of a string
or the sign itself.
-/

namespace GameArchive
namespace Script
namespace Grammar

inductive TokenKind where
  | boolean
  | endOfText
  | identifier
  | keyword
  | null
  | numeric
  | punctuator
  | regularExpression
  | string
  | template
deriving DecidableEq

structure Token where
  kind : TokenKind
  value : Text
  /-- The characters of the token as the script has them. -/
  raw : Text
  start : Nat
  stop : Nat
  /-- The number of the line on which the token ends. -/
  line : Nat
  /-- A number or string with an octal digit sequence. -/
  octal : Bool
  /-- A part of a template that starts with its opening quote. -/
  head : Bool
  /-- A part of a template that ends with its closing quote. -/
  tail : Bool

def keywords : List Text := List.map Text.ofString
  ["if", "in", "do", "var", "for", "new", "try", "let", "this", "else", "case", "void", "with",
    "enum", "while", "break", "catch", "throw", "const", "yield", "class", "super", "return",
    "typeof", "delete", "switch", "export", "import", "default", "finally", "extends", "function",
    "continue", "debugger", "instanceof"]

/-- Names that are reserved in strict code only. -/
def strictReserved : List Text := List.map Text.ofString
  ["implements", "interface", "package", "private", "protected", "public", "static", "yield", "let"]

/-- Keywords that are kept for the future. -/
def reserved : List Text := List.map Text.ofString ["enum", "export", "import", "super"]

/-- Names that strict code must not bind. -/
def restricted : List Text := List.map Text.ofString ["eval", "arguments"]

/-- The kind of a token that is spelled like a name. -/
def wordKind (word : Text) : TokenKind :=
  if word.length = 1 then .identifier
  else if keywords.contains word then .keyword
  else if word = Text.ofString "null" then .null
  else if word = Text.ofString "true" ∨ word = Text.ofString "false" then .boolean
  else .identifier

/-- Signs of more than one character, longer ones before shorter ones. -/
def longPunctuators : List Text := List.map Text.ofString
  [">>>=", "...", "===", "!==", ">>>", "<<=", ">>=", "**=", "&&", "||", "==", "!=", "+=", "-=",
    "*=", "/=", "++", "--", "<<", ">>", "&=", "|=", "^=", "%=", "<=", ">=", "=>", "**"]

/-- Signs of one character. -/
def shortPunctuators : Text := "()\x7b\x7d[];,:?~.<>=!+-*%&|^/"

/-- The sign at the start of a text. -/
def punctuator? (t : Text) : Option Text :=
  match longPunctuators.find? (·.isPrefixOf t) with
  | some sign => some sign
  | none => match t with
    | c :: _ => if shortPunctuators.contains c then some [c] else none
    | [] => none

/-- Signs that assign. -/
def assignmentSigns : List Text := List.map Text.ofString
  ["=", "*=", "**=", "/=", "%=", "+=", "-=", "<<=", ">>=", ">>>=", "&=", "^=", "|="]

/-- How tightly a sign binds its operands; none for what is no such operator. -/
def signPrecedence? (sign : Text) : Option Nat :=
  [("||", 1), ("&&", 2), ("|", 3), ("^", 4), ("&", 5), ("==", 6), ("!=", 6), ("===", 6), ("!==", 6),
    ("<", 7), (">", 7), ("<=", 7), (">=", 7), ("<<", 8), (">>", 8), (">>>", 8), ("+", 9), ("-", 9),
    ("*", 11), ("/", 11), ("%", 11)].findSome? fun (text, level) =>
      if sign = Text.ofString text then some level else none

namespace Token

def isSign (t : Token) (sign : String) : Bool :=
  t.kind = .punctuator && t.value = Text.ofString sign

def isKeyword (t : Token) (word : String) : Bool :=
  t.kind = .keyword && t.value = Text.ofString word

/-- An ordinary name with a meaning in its place. -/
def isContextual (t : Token) (word : String) : Bool :=
  t.kind = .identifier && t.value = Text.ofString word

def isAnySign (t : Token) (signs : List String) : Bool := signs.any t.isSign

def isAnyKeyword (t : Token) (words : List String) : Bool := words.any t.isKeyword

def isAssignment (t : Token) : Bool := t.kind = .punctuator && assignmentSigns.contains t.value

def isWord (t : Token) : Bool :=
  t.kind = .identifier || t.kind = .keyword || t.kind = .boolean || t.kind = .null

/-- Starts the name of a property. -/
def startsPropertyName (t : Token) : Bool :=
  t.isWord || t.kind = .string || t.kind = .numeric || t.isSign "["

/-- The beginning of a template literal or one that follows a tag. -/
def isTemplateHead (t : Token) : Bool := t.kind = .template && t.head

/-- What is wrong where the token does not belong. -/
def cause (t : Token) (strict : Bool) : Cause :=
  match t.kind with
  | .endOfText => .endOfText
  | .identifier => .identifier
  | .numeric => .number
  | .string => .string
  | .template => .template t.value
  | .keyword =>
    if reserved.contains t.value then .reservedWord
    else if strict && strictReserved.contains t.value then .strictReservedWord
    else .token t.value
  | _ => .token t.value

/-- Whether an operand may start with this token where it is optional. -/
def startsExpression (t : Token) : Bool :=
  match t.kind with
  | .punctuator => t.isAnySign ["[", "(", "\x7b", "+", "-", "!", "~", "++", "--", "/", "/="]
  | .keyword =>
    t.isAnyKeyword ["class", "delete", "function", "let", "new", "super", "this", "typeof", "void",
      "yield"]
  | _ => true

end Token

end Grammar
end Script
end GameArchive
