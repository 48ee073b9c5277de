import Lexis.Cursor
import Lexis.Event

/-!
The automaton at work on a source. A scanner is the automaton in the middle of a lexeme; one step
carries out the action that the transition asks for, and a run repeats steps until an item, a token
or an error, is finished.

All that a step can do is said once, for the steps that go on (`Scanner.Moves`) and for those that
finish an item (`Scanner.Ends`). A step that goes on lowers `Scanner.rank`: it reads a character, or
it is one of the two moves that read none, from the start into a word or from a line comment back to
the start.
-/

set_option autoImplicit false
set_option relaxedAutoImplicit false

namespace Lexis

/-- A finished lexeme: a token, or the reason why there is none. -/
abbrev Item := Except LexError Token

namespace Item

def isEnd : Item → Bool
  | .ok token => token.isEnd
  | .error _ => false

def isError : Item → Bool
  | .ok _ => false
  | .error _ => true

def token? : Item → Option Token
  | .ok token => some token
  | .error _ => none

def error? : Item → Option LexError
  | .ok _ => none
  | .error error => some error

theorem error?_eq_some_iff {item : Item} {e : LexError} :
    item.error? = some e ↔ item = .error e := by
  cases item <;> simp [error?]

end Item

/-- The automaton in the middle of a lexeme that began at `start`, which is at `origin`. -/
structure Scanner where
  state : State
  lexeme : String
  start : Offset
  origin : Location
  cursor : Cursor
  deriving DecidableEq, Repr

inductive Progress where
  | more (scanner : Scanner)
  | done (item : Item) (cursor : Cursor)

/-- A finished run: the item, the events that led to it, and the place behind it. -/
structure Scan where
  item : Item
  log : List Event
  cursor : Cursor

namespace Scanner

def ofCursor (cursor : Cursor) : Scanner where
  state := .start
  lexeme := ""
  start := cursor.offset
  origin := cursor.location
  cursor

def action (s : Scanner) : Action := transition s.state s.cursor.current? s.lexeme

def extended (s : Scanner) : String :=
  match s.cursor.current? with
  | some c => s.lexeme.push c
  | none => s.lexeme

def token (s : Scanner) (kind : Kind) : Token where
  kind
  text := s.lexeme
  span := { start := s.start, stop := s.cursor.offset }
  location := s.origin

/-- The lexeme as an error that ends behind the character under the cursor. -/
def error (s : Scanner) (fault : Fault) : LexError where
  span := { start := s.start, stop := s.cursor.advance.offset }
  location := s.origin
  lexeme := s.lexeme
  offending := s.cursor.current?
  fault

def perform (s : Scanner) : Action → Progress
  | .keep next =>
    .more { s with state := next, lexeme := s.extended, cursor := s.cursor.advance }
  | .drop next => .more { s with state := next, cursor := s.cursor.advance }
  | .enter next => .more { s with state := next }
  | .emit kind => .done (.ok (s.token kind)) s.cursor
  | .restart => .more (ofCursor s.cursor.advance)
  | .fail fault => .done (.error (s.error fault)) s.cursor.advance

/-- What there is to tell about an action besides the action itself. A restart is worth telling
only when something was read into the lexeme. -/
def consequences (s : Scanner) : Action → List Event
  | .emit kind => [.emit (s.token kind)]
  | .restart => if s.lexeme = "" then [] else [.skip s.lexeme s.origin]
  | .fail fault => [.fail (s.error fault)]
  | .keep _ | .drop _ | .enter _ => []

def step (s : Scanner) : Progress := s.perform s.action

def log (s : Scanner) : List Event :=
  .step s.state s.cursor.current? s.action :: s.consequences s.action

/-- The ways in which a step leads on. -/
inductive Moves (s : Scanner) : Scanner → Prop
  | keep {c : Char} {next : State} : s.cursor.current? = some c → s.action = .keep next →
      Moves s { s with state := next, lexeme := s.extended, cursor := s.cursor.advance }
  | drop {c : Char} {next : State} : s.cursor.current? = some c → s.action = .drop next →
      Moves s { s with state := next, cursor := s.cursor.advance }
  | enter {c : Char} {next : State} : s.cursor.current? = some c → s.action = .enter next →
      s.state = .start → ((next = .integer ∧ isDigit c = true) ∨
        (next = .identifier ∧ isLetter c = true)) →
      Moves s { s with state := next }
  | restart {c : Char} : s.cursor.current? = some c → s.action = .restart →
      Moves s (ofCursor s.cursor.advance)
  | restartAtEnd : s.cursor.rest = [] → s.state = .lineComment → s.action = .restart →
      Moves s (ofCursor s.cursor)

theorem moves_of_step {s t : Scanner} (h : s.step = .more t) : s.Moves t := by
  rw [step] at h
  cases ha : s.action with
  | keep next =>
    simp only [ha, perform, Progress.more.injEq] at h
    subst h
    cases hsym : s.cursor.current? with
    | none =>
      rw [action, hsym] at ha
      exact absurd ha (transition_none_ne_keep s.state next s.lexeme)
    | some c => exact .keep hsym ha
  | drop next =>
    simp only [ha, perform, Progress.more.injEq] at h
    subst h
    cases hsym : s.cursor.current? with
    | none =>
      rw [action, hsym] at ha
      exact absurd ha (transition_none_ne_drop s.state next s.lexeme)
    | some c => exact .drop hsym ha
  | enter next =>
    simp only [ha, perform, Progress.more.injEq] at h
    subst h
    obtain ⟨hstate, hnext⟩ := transition_eq_enter ha
    cases hsym : s.cursor.current? with
    | none => simp [hsym] at hnext
    | some c =>
      rw [hsym, Option.any_some, Option.any_some] at hnext
      exact .enter hsym ha hstate hnext
  | restart =>
    simp only [ha, perform, Progress.more.injEq] at h
    subst h
    cases hsym : s.cursor.current? with
    | none =>
      have hnil := Cursor.current?_eq_none_iff.mp hsym
      have hend := ha
      rw [action, hsym] at hend
      rw [Cursor.advance_of_nil hnil]
      exact .restartAtEnd hnil (eq_lineComment_of_restart hend) ha
    | some c => exact .restart hsym ha
  | emit kind => simp [ha, perform] at h
  | fail fault => simp [ha, perform] at h

inductive Ends (s : Scanner) : Item → Cursor → Prop
  | emit {kind : Kind} : s.action = .emit kind → Ends s (.ok (s.token kind)) s.cursor
  | fail {fault : Fault} : s.action = .fail fault →
      Ends s (.error (s.error fault)) s.cursor.advance

theorem ends_of_step {s : Scanner} {item : Item} {cursor : Cursor}
    (h : s.step = .done item cursor) : s.Ends item cursor := by
  rw [step] at h
  cases ha : s.action with
  | emit kind =>
    simp only [ha, perform, Progress.done.injEq] at h
    obtain ⟨rfl, rfl⟩ := h
    exact .emit ha
  | fail fault =>
    simp only [ha, perform, Progress.done.injEq] at h
    obtain ⟨rfl, rfl⟩ := h
    exact .fail ha
  | _ => simp [ha, perform] at h

/-- How many moves without reading a state may still have before it. -/
def moves : State → Nat
  | .lineComment => 2
  | .start => 1
  | _ => 0

/-- Bounds the number of steps to the end of a run. -/
def rank (s : Scanner) : Nat := 3 * s.cursor.remaining + moves s.state

private theorem moves_le_two (state : State) : moves state ≤ 2 := by
  cases state <;> simp [moves]

private theorem rank_lt_of_read {s t : Scanner} {c : Char} (hc : s.cursor.current? = some c)
    (ht : t.cursor = s.cursor.advance) : t.rank < s.rank := by
  have hread := Cursor.remaining_advance_lt hc
  have hmoves := moves_le_two t.state
  simp only [rank, ht]
  omega

theorem rank_lt_of_step {s t : Scanner} (h : s.step = .more t) : t.rank < s.rank := by
  cases moves_of_step h with
  | keep hsym _ => exact rank_lt_of_read hsym rfl
  | drop hsym _ => exact rank_lt_of_read hsym rfl
  | restart hsym _ => exact rank_lt_of_read hsym rfl
  | enter _ _ hstate hnext =>
    rcases hnext with ⟨rfl, _⟩ | ⟨rfl, _⟩ <;> simp [rank, moves, hstate]
  | restartAtEnd _ hstate _ => simp [rank, ofCursor, moves, hstate]

def run (s : Scanner) : Scan :=
  let log := s.log
  match _h : s.step with
  | .more t =>
    let later := t.run
    { later with log := log ++ later.log }
  | .done item cursor => { item, log, cursor }
termination_by s.rank
decreasing_by exact rank_lt_of_step _h

theorem run_of_more {s t : Scanner} (h : s.step = .more t) :
    s.run = { t.run with log := s.log ++ t.run.log } := by
  rw [run]
  split
  · next u hu => cases h.symm.trans hu; rfl
  · next hu => cases h.symm.trans hu

theorem run_of_done {s : Scanner} {item : Item} {cursor : Cursor}
    (h : s.step = .done item cursor) : s.run = { item, log := s.log, cursor } := by
  rw [run]
  split
  · next hu => cases h.symm.trans hu
  · next hu => cases h.symm.trans hu; rfl

end Scanner

end Lexis
