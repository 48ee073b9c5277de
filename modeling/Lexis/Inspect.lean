import Lexis.Event

/-!
Values spelled out for a developer: every part of a value, each under the name that the traces
use for it.
-/

set_option autoImplicit false
set_option relaxedAutoImplicit false

namespace Lexis

def inspectRecord (name : String) (fields : List (String × String)) : String :=
  name ++ " \x7b " ++ ", ".intercalate (fields.map fun (field, value) => field ++ ": " ++ value) ++
    " \x7d"

def inspectSymbol : Option Char → String
  | none => "None"
  | some c => "Some(" ++ Text.quoteChar c ++ ")"

def Offset.inspect (a : Offset) : String := "Bytes(" ++ a.repr ++ ")"

def Span.inspect (s : Span) : String := s.start.repr ++ ".." ++ s.stop.repr

def Location.inspect (l : Location) : String :=
  inspectRecord "Location" [("line", l.line.repr), ("column", l.column.repr)]

def Kind.inspect : Kind → String
  | .endOfInput => "Eof"
  | .identifier => "Id"
  | .integer => "IntVal"
  | .string => "StrVal"
  | .keyword .entero => "Entero"
  | .keyword .cadena => "Cadena"
  | .keyword .si => "Si"
  | .keyword .sino => "Sino"
  | .keyword .mientras => "Mientras"
  | .keyword .fin => "Fin"
  | .keyword .imprimir => "Imprimir"
  | .assign => "Asign"
  | .additive => "Sum"
  | .multiplicative => "Mul"
  | .relational => "Rel"
  | .negation => "Neg"
  | .disjunction => "Or"
  | .conjunction => "And"
  | .openParen => "IPar"
  | .closeParen => "DPar"

def Token.inspect (t : Token) : String :=
  inspectRecord "Token"
    [("kind", t.kind.inspect), ("text", Text.quote t.text), ("source", t.span.inspect),
      ("location", t.location.inspect)]

def Fault.inspect : Fault → String
  | .malformedInteger => "MalformedInteger"
  | .malformedAssignment => "MalformedAssignment"
  | .newlineInString => "NewlineInString"
  | .unterminatedString => "UnterminatedString"
  | .unterminatedComment => "UnterminatedComment"
  | .incompleteOperator expected =>
    inspectRecord "IncompleteOperator" [("expected", Text.quoteChar expected)]
  | .unknownCharacter found => "UnknownCharacter(" ++ Text.quoteChar found ++ ")"

def Category.inspect : Category → String
  | .malformedLiteral => "MalformedLiteral"
  | .unterminated => "Unterminated"
  | .invalidOperator => "InvalidOperator"
  | .unknownCharacter => "UnknownCharacter"

def LexError.inspect (e : LexError) : String :=
  inspectRecord "LexError"
    [("range", e.span.inspect), ("location", e.location.inspect), ("lexeme", Text.quote e.lexeme),
      ("offending", inspectSymbol e.offending), ("error_type", e.fault.inspect)]

def State.inspect : State → String
  | .start => "Start"
  | .identifier => "Identifier"
  | .integer => "Integer"
  | .stringBody => "StringBody"
  | .stringEnd => "StringEnd"
  | .slash => "Slash"
  | .lineComment => "LineComment"
  | .blockComment => "BlockComment"
  | .blockCommentStar => "BlockCommentStar"
  | .additive => "Additive"
  | .multiplicative => "Multiplicative"
  | .relational => "Relational"
  | .less => "Less"
  | .greater => "Greater"
  | .negation => "Negation"
  | .pipe => "Pipe"
  | .doublePipe => "DoublePipe"
  | .ampersand => "Ampersand"
  | .doubleAmpersand => "DoubleAmpersand"
  | .colon => "Colon"
  | .assign => "Assign"
  | .openParen => "OpenParen"
  | .closeParen => "CloseParen"

def Action.inspect : Action → String
  | .keep next => "Advance(" ++ next.inspect ++ ")"
  | .drop next => "Discard(" ++ next.inspect ++ ")"
  | .enter next => "Goto(" ++ next.inspect ++ ")"
  | .emit kind => "Emit(" ++ kind.inspect ++ ")"
  | .restart => "Restart"
  | .fail fault => "Fail(" ++ fault.inspect ++ ")"

end Lexis
