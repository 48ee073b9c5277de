import Lexis.Inspect
import Lexis.Scan

/-!
The log of a run: each event as a line of text with a level of detail.
-/

set_option autoImplicit false
set_option relaxedAutoImplicit false

namespace Lexis

inductive Level where
  | warn
  | info
  | debug
  | trace
  deriving DecidableEq, Repr

namespace Level

def detail : Level → Nat
  | warn => 0
  | info => 1
  | debug => 2
  | trace => 3

def shows (kept level : Level) : Bool := level.detail ≤ kept.detail

def name : Level → String
  | warn => "WARN"
  | info => "INFO"
  | debug => "DEBUG"
  | trace => "TRACE"

end Level

structure Entry where
  level : Level
  message : String
  deriving DecidableEq, Repr

namespace Event

/-- The event in words: steps of the automaton are traces, their outcomes are for debugging. -/
def entry : Event → Entry
  | step state symbol action =>
    { level := .trace
      message := state.inspect ++ " on " ++ inspectSymbol symbol ++ ": " ++ action.inspect }
  | emit token =>
    { level := .debug
      message := "Emit " ++ token.display ++ " at " ++ token.location.text }
  | skip lexeme location =>
    { level := .debug
      message := "Skip " ++ Text.quote lexeme ++ " at " ++ location.text }
  | fail error =>
    { level := .debug
      message := "Fail at " ++ error.location.text ++ ": " ++ error.fault.message }

end Event

def entriesAt (kept : Level) (entries : List Entry) : List Entry :=
  entries.filter fun entry => kept.shows entry.level

theorem entriesAt_trace (entries : List Entry) : entriesAt .trace entries = entries := by
  rw [entriesAt, List.filter_eq_self]
  intro entry _
  cases entry.level <;> rfl

def logAt (kept : Level) (source : String) : List Entry :=
  entriesAt kept ((events source).map Event.entry)

end Lexis
