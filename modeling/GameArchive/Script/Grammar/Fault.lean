import GameArchive.Text.Basic

/-!
# Faults of scripts

The first thing that keeps a text from being a script ends the reading. Mostly it is refused with
the line where the reading has come to and a cause, and each cause has one text.
-/

namespace GameArchive
namespace Script
namespace Grammar

/-- What is wrong with a script where its reading ends. -/
inductive Cause where
  /-- Characters that make no token, or a part that is missing. -/
  | illegal
  /-- A sign or a word. -/
  | token (text : Text)
  /-- Something that has no name of its own. -/
  | misplaced
  | endOfText
  | identifier
  | number
  | string
  /-- A part of a template. -/
  | template (text : Text)
  | reservedWord
  | strictReservedWord
  | escapedKeyword
  | hexEscape
  | templateOctal
  | unterminatedRegularExpression
  | invalidRegularExpression
  | assignmentTarget
  /-- What a loop over keys assigns to. -/
  | keyTarget
  /-- What a loop over values assigns to. -/
  | valueTarget
  /-- A value of the variable of a loop over keys. -/
  | keyValue
  | missingConstant
  | letBound
  | restDefault
  | parameterAfterRest
  | duplicateParameter
  | duplicateBinding (name : Text)
  | duplicateLabel (name : Text)
  | unknownLabel (name : Text)
  | duplicatePrototype
  | duplicateConstructor
  | specialConstructor
  | asyncConstructor
  | staticPrototype
  | getterParameters
  | setterParameters
  | setterRest
  | strayBreak
  | strayContinue
  | strayReturn
  | lineAfterThrow
  | noHandler
  | secondDefault
  | labelledGenerator
  /-- A body that declares itself strict under parameters that do not let it. -/
  | strictDirective
  | strictAssignment
  | strictCatch
  | strictDelete
  | strictFunction
  | strictFunctionName
  | strictOctal
  | strictParameter
  | strictPostfix
  | strictPrefix
  | strictVariable
  | strictWith
deriving DecidableEq

def Cause.message : Cause → Text
  | illegal => "Unexpected token ILLEGAL"
  | token text => "Unexpected token " ++ text
  | misplaced => "Unexpected token"
  | endOfText => "Unexpected end of input"
  | identifier => "Unexpected identifier"
  | number => "Unexpected number"
  | string => "Unexpected string"
  | template text => "Unexpected quasi " ++ text
  | reservedWord => "Unexpected reserved word"
  | strictReservedWord => "Use of future reserved word in strict mode"
  | escapedKeyword => "Keyword must not contain escaped characters"
  | hexEscape => "Invalid hexadecimal escape sequence"
  | templateOctal => "Octal literals are not allowed in template strings."
  | unterminatedRegularExpression => "Invalid regular expression: missing /"
  | invalidRegularExpression => "Invalid regular expression"
  | assignmentTarget => "Invalid left-hand side in assignment"
  | keyTarget => "Invalid left-hand side in for-in"
  | valueTarget => "Invalid left-hand side in for-loop"
  | keyValue => "for-in loop variable declaration may not have an initializer"
  | missingConstant => "Missing initializer in const declaration"
  | letBound => "let is disallowed as a lexically bound name"
  | restDefault => "Unexpected token ="
  | parameterAfterRest => "Rest parameter must be last formal parameter"
  | duplicateParameter => "Duplicate parameter name not allowed in this context"
  | duplicateBinding name => "Duplicate binding " ++ name
  | duplicateLabel name => "Label '" ++ name ++ "' has already been declared"
  | unknownLabel name => "Undefined label '" ++ name ++ "'"
  | duplicatePrototype => "Duplicate __proto__ fields are not allowed in object literals"
  | duplicateConstructor => "A class may only have one constructor"
  | specialConstructor => "Class constructor may not be an accessor"
  | asyncConstructor => "Class constructor may not be an async method"
  | staticPrototype => "Classes may not have static property named prototype"
  | getterParameters => "Getter must not have any formal parameters"
  | setterParameters => "Setter must have exactly one formal parameter"
  | setterRest => "Setter function argument must not be a rest parameter"
  | strayBreak => "Illegal break statement"
  | strayContinue => "Illegal continue statement"
  | strayReturn => "Illegal return statement"
  | lineAfterThrow => "Illegal newline after throw"
  | noHandler => "Missing catch or finally after try"
  | secondDefault => "More than one default clause in switch statement"
  | labelledGenerator => "Generator declarations are not allowed in legacy contexts"
  | strictDirective =>
    "Illegal 'use strict' directive in function with non-simple parameter list"
  | strictAssignment => "Assignment to eval or arguments is not allowed in strict mode"
  | strictCatch => "Catch variable may not be eval or arguments in strict mode"
  | strictDelete => "Delete of an unqualified identifier in strict mode."
  | strictFunction => Text.ofString "In strict mode code, functions can only be declared at top " ++
    "level or inside a block"
  | strictFunctionName => "Function name may not be eval or arguments in strict mode"
  | strictOctal => "Octal literals are not allowed in strict mode."
  | strictParameter => "Parameter name eval or arguments is not allowed in strict mode"
  | strictPostfix =>
    "Postfix increment/decrement may not have eval or arguments operand in strict mode"
  | strictPrefix =>
    "Prefix increment/decrement may not have eval or arguments operand in strict mode"
  | strictVariable => "Variable name may not be eval or arguments in strict mode"
  | strictWith => "Strict mode code may not include a with statement"

/-- The line where a script is refused, and why. -/
structure Refusal where
  line : Nat
  cause : Cause
deriving DecidableEq

def Refusal.message (r : Refusal) : Text :=
  "Line " ++ Text.ofNat r.line ++ ": " ++ r.cause.message

/-- Why a text is no script. The first fault ends the reading. -/
inductive Fault where
  | refused (refusal : Refusal)
  /-- A literal starts with the middle or the end of a template. -/
  | strayTemplate
  /-- A number is not allowed where it stands, and too long to be named. -/
  | longNumber
deriving DecidableEq

end Grammar
end Script
end GameArchive
