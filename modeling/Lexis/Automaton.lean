import Lexis.Alphabet
import Lexis.Fault
import Lexis.Token.Kind

/-!
The automaton that recognises lexemes. A transition looks at the state, at the character under the
cursor and, where a word ends, at the lexeme read so far; it says what to do and moves nothing
itself.

Only three facts about it are needed to see that a run ends: at the end of the input nothing is
kept or dropped, only a line comment restarts there, and a state is entered without reading a
character only from the start.
-/

set_option autoImplicit false
set_option relaxedAutoImplicit false

namespace Lexis

/-- How much of a lexeme has been seen. -/
inductive State where
  | start
  | identifier
  | integer
  | stringBody
  | stringEnd
  | slash
  | lineComment
  | blockComment
  | blockCommentStar
  | additive
  | multiplicative
  | relational
  | less
  | greater
  | negation
  | pipe
  | doublePipe
  | ampersand
  | doubleAmpersand
  | colon
  | assign
  | openParen
  | closeParen
  deriving DecidableEq, Repr

namespace State

def all : List State :=
  [start, identifier, integer, stringBody, stringEnd, slash, lineComment, blockComment,
    blockCommentStar, additive, multiplicative, relational, less, greater, negation, pipe,
    doublePipe, ampersand, doubleAmpersand, colon, assign, openParen, closeParen]

end State

inductive Action where
  /-- Read the character into the lexeme. -/
  | keep (next : State)
  /-- Read the character and forget it. -/
  | drop (next : State)
  /-- Change the state without reading. -/
  | enter (next : State)
  /-- Finish a token without reading. -/
  | emit (kind : Kind)
  /-- Read the character, forget the lexeme and begin anew. -/
  | restart
  /-- Read the offending character and give up the lexeme. -/
  | fail (fault : Fault)
  deriving DecidableEq, Repr

def opening? : Char → Option State
  | '"' => some .stringBody
  | ':' => some .colon
  | '+' => some .additive
  | '-' => some .additive
  | '*' => some .multiplicative
  | '/' => some .slash
  | '=' => some .relational
  | '<' => some .less
  | '>' => some .greater
  | '!' => some .negation
  | '|' => some .pipe
  | '&' => some .ampersand
  | '(' => some .openParen
  | ')' => some .closeParen
  | _ => none

def begin : Option Char → Action
  | none => .emit .endOfInput
  | some c =>
    if isDigit c then .enter .integer
    else if isLetter c then .enter .identifier
    else if isBlank c then .restart
    else
      match opening? c with
      | some next => .keep next
      | none => .fail (.unknownCharacter c)

/-- Inside a string: the closing quote ends it, and so does, as a fault, the end of the line. -/
def inString : Option Char → Action
  | none => .fail .unterminatedString
  | some c =>
    if c = '"' then .keep .stringEnd
    else if isLineBreak c then .fail .newlineInString
    else .keep .stringBody

def inBlockComment : Option Char → Action
  | none => .fail .unterminatedComment
  | some c => if c = '*' then .drop .blockCommentStar else .drop .blockComment

def behindStar : Option Char → Action
  | none => .fail .unterminatedComment
  | some c =>
    if c = '/' then .restart
    else if c = '*' then .drop .blockCommentStar
    else .drop .blockComment

/-- What the automaton does in a state, given the character under the cursor (none at the end of
the input) and the lexeme read so far. -/
def transition (state : State) (next : Option Char) (lexeme : String) : Action :=
  match state with
  | .start => begin next
  | .identifier =>
    if next.any isWordChar then .keep .identifier else .emit (Kind.ofWord lexeme)
  | .integer =>
    if next.any isDigit then .keep .integer
    else if next.any isWordChar then .fail .malformedInteger
    else .emit .integer
  | .stringBody => inString next
  | .stringEnd => .emit .string
  | .slash =>
    if next = some '/' then .drop .lineComment
    else if next = some '*' then .drop .blockComment
    else .emit .multiplicative
  | .lineComment => if next.all isLineBreak then .restart else .drop .lineComment
  | .blockComment => inBlockComment next
  | .blockCommentStar => behindStar next
  | .additive => .emit .additive
  | .multiplicative => .emit .multiplicative
  | .relational => .emit .relational
  | .less =>
    if next = some '=' ∨ next = some '>' then .keep .relational else .emit .relational
  | .greater => if next = some '=' then .keep .relational else .emit .relational
  | .negation => .emit .negation
  | .pipe => if next = some '|' then .keep .doublePipe else .fail (.incompleteOperator '|')
  | .doublePipe => .emit .disjunction
  | .ampersand =>
    if next = some '&' then .keep .doubleAmpersand else .fail (.incompleteOperator '&')
  | .doubleAmpersand => .emit .conjunction
  | .colon => if next = some '=' then .keep .assign else .fail (.incompleteOperator '=')
  | .assign => if next.any isWordChar then .fail .malformedAssignment else .emit .assign
  | .openParen => .emit .openParen
  | .closeParen => .emit .closeParen

theorem transition_none_ne_keep (state next : State) (lexeme : String) :
    transition state none lexeme ≠ .keep next := by
  cases state <;> simp [transition, begin, inString, inBlockComment, behindStar]

theorem transition_none_ne_drop (state next : State) (lexeme : String) :
    transition state none lexeme ≠ .drop next := by
  cases state <;> simp [transition, begin, inString, inBlockComment, behindStar]

theorem transition_eq_restart {state : State} {symbol : Option Char} {lexeme : String}
    (h : transition state symbol lexeme = .restart) :
    (state = .start ∧ ∃ c, symbol = some c ∧ isBlank c = true) ∨
      (state = .lineComment ∧ symbol.all isLineBreak = true) ∨
      (state = .blockCommentStar ∧ symbol = some '/') := by
  cases state with
  | start =>
    cases symbol with
    | none => cases h
    | some c =>
      simp only [transition, begin] at h
      repeat' split at h
      all_goals cases h
      next hblank => exact .inl ⟨rfl, c, rfl, hblank⟩
  | lineComment =>
    simp only [transition] at h
    split at h
    · next hbreak => exact .inr (.inl ⟨rfl, hbreak⟩)
    · cases h
  | blockCommentStar =>
    cases symbol with
    | none => cases h
    | some c =>
      simp only [transition, behindStar] at h
      repeat' split at h
      all_goals cases h
      next hslash => exact .inr (.inr ⟨rfl, congrArg some hslash⟩)
  | stringBody | blockComment =>
    cases symbol <;> simp only [transition, inString, inBlockComment] at h
    all_goals
      repeat' split at h
      all_goals cases h
  | _ =>
    simp only [transition] at h
    repeat' split at h
    all_goals cases h

theorem eq_lineComment_of_restart {state : State} {lexeme : String}
    (h : transition state none lexeme = .restart) : state = .lineComment := by
  obtain ⟨_, c, hc, _⟩ | ⟨hstate, _⟩ | ⟨_, hslash⟩ := transition_eq_restart h
  · cases hc
  · exact hstate
  · cases hslash

theorem transition_eq_emit_endOfInput {state : State} {symbol : Option Char} {lexeme : String}
    (h : transition state symbol lexeme = .emit .endOfInput) : state = .start ∧ symbol = none := by
  cases state with
  | start =>
    cases symbol with
    | none => exact ⟨rfl, rfl⟩
    | some c =>
      simp only [transition, begin] at h
      repeat' split at h
      all_goals cases h
  | identifier =>
    simp only [transition, Kind.ofWord] at h
    repeat' split at h
    all_goals cases h
  | stringBody | blockComment | blockCommentStar =>
    cases symbol <;> simp only [transition, inString, inBlockComment, behindStar] at h
    all_goals
      repeat' split at h
      all_goals cases h
  | _ =>
    simp only [transition] at h
    repeat' split at h
    all_goals cases h

private theorem begin_eq_enter {symbol : Option Char} {next : State}
    (h : begin symbol = .enter next) :
    (next = .integer ∧ symbol.any isDigit) ∨ (next = .identifier ∧ symbol.any isLetter) := by
  cases symbol with
  | none => simp [begin] at h
  | some c =>
    simp only [begin] at h
    split at h
    · simp_all
    · split at h
      · simp_all
      · split at h
        · simp at h
        · split at h <;> simp at h

private theorem inString_ne_enter (symbol : Option Char) (next : State) :
    inString symbol ≠ .enter next := by
  cases symbol <;> simp only [inString] <;> repeat' split
  all_goals simp

private theorem inBlockComment_ne_enter (symbol : Option Char) (next : State) :
    inBlockComment symbol ≠ .enter next := by
  cases symbol <;> simp only [inBlockComment] <;> repeat' split
  all_goals simp

private theorem behindStar_ne_enter (symbol : Option Char) (next : State) :
    behindStar symbol ≠ .enter next := by
  cases symbol <;> simp only [behindStar] <;> repeat' split
  all_goals simp

theorem transition_eq_enter {state next : State} {symbol : Option Char} {lexeme : String}
    (h : transition state symbol lexeme = .enter next) :
    state = .start ∧ ((next = .integer ∧ symbol.any isDigit) ∨
      (next = .identifier ∧ symbol.any isLetter)) := by
  cases state
  case start => exact ⟨rfl, begin_eq_enter h⟩
  case stringBody => exact absurd h (inString_ne_enter symbol next)
  case blockComment => exact absurd h (inBlockComment_ne_enter symbol next)
  case blockCommentStar => exact absurd h (behindStar_ne_enter symbol next)
  all_goals
    simp only [transition] at h
    repeat' split at h
    all_goals simp at h

end Lexis
