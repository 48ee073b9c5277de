import Lexis.Automaton
import Lexis.Token

/-!
What a run of the automaton does, one event after the other.
-/

set_option autoImplicit false
set_option relaxedAutoImplicit false

namespace Lexis

inductive Event where
  | step (state : State) (symbol : Option Char) (action : Action)
  | emit (token : Token)
  /-- A comment that began at the location is left behind. -/
  | skip (lexeme : String) (location : Location)
  | fail (error : LexError)
  deriving DecidableEq, Repr

end Lexis
