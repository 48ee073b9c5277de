import Lexis.Position
import Lexis.Text.Quoted

/-!
What can be wrong with a lexeme, and the errors that report it.
-/

set_option autoImplicit false
set_option relaxedAutoImplicit false

namespace Lexis

inductive Fault where
  | malformedInteger
  | malformedAssignment
  | newlineInString
  | unterminatedString
  | unterminatedComment
  | incompleteOperator (expected : Char)
  | unknownCharacter (found : Char)
  deriving DecidableEq, Repr

inductive Category where
  | malformedLiteral
  | unterminated
  | invalidOperator
  | unknownCharacter
  deriving DecidableEq, Repr

namespace Fault

def category : Fault → Category
  | malformedInteger | malformedAssignment => .malformedLiteral
  | newlineInString | unterminatedString | unterminatedComment => .unterminated
  | incompleteOperator _ => .invalidOperator
  | unknownCharacter _ => .unknownCharacter

def message : Fault → String
  | malformedInteger => "Integer literal may not be followed by a letter"
  | malformedAssignment => "Assignment operator may not be followed by an identifier character"
  | newlineInString => "String literal may not span multiple lines"
  | unterminatedString => "Unterminated string literal"
  | unterminatedComment => "Unterminated multi-line comment"
  | incompleteOperator expected =>
    "Incomplete operator, expected '" ++ String.singleton expected ++ "'"
  | unknownCharacter found => "Unknown character " ++ Text.quoteChar found

end Fault

/-- A refused lexeme: what was read of it, the character that did not fit, and where it stands. -/
structure LexError where
  span : Span
  location : Location
  lexeme : String
  offending : Option Char
  fault : Fault
  deriving DecidableEq, Repr

namespace LexError

def message (e : LexError) : String := e.fault.message ++ " at " ++ e.location.text

end LexError

end Lexis
