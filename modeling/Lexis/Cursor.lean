import Lexis.Alphabet
import Lexis.Position

/-!
A reading position in a source. The cursor knows the characters still to be read and, of those
already read, the byte offset, the location they lead to and whether the last one was a carriage
return: a line feed right behind a carriage return belongs to the same line break.
-/

set_option autoImplicit false
set_option relaxedAutoImplicit false

namespace Lexis

/-- A place between two characters of a source. -/
structure Cursor where
  rest : List Char
  offset : Offset := 0
  location : Location := .first
  afterReturn : Bool := false
  deriving DecidableEq, Repr

namespace Cursor

def ofString (source : String) : Cursor := { rest := source.toList }

def current? (c : Cursor) : Option Char := c.rest.head?

/-- Where the cursor stands after reading the character. -/
def locationAfter (c : Cursor) (ch : Char) : Location :=
  if ch = '\n' ∧ c.afterReturn then c.location
  else if isLineBreak ch then c.location.nextLine
  else c.location.nextColumn

/-- Reads one character; at the end of the source nothing changes. -/
def advance (c : Cursor) : Cursor :=
  match c.rest with
  | [] => c
  | ch :: rest =>
    { rest
      offset := c.offset + ch.utf8Size
      location := c.locationAfter ch
      afterReturn := ch = '\r' }

def remaining (c : Cursor) : Nat := c.rest.length

theorem current?_eq_none_iff {c : Cursor} : c.current? = none ↔ c.rest = [] := by
  simp [current?]

@[simp] theorem advance_of_nil {c : Cursor} (h : c.rest = []) : c.advance = c := by
  simp [advance, h]

@[simp] theorem rest_advance (c : Cursor) : c.advance.rest = c.rest.tail := by
  unfold advance
  split <;> simp_all

theorem remaining_advance_le (c : Cursor) : c.advance.remaining ≤ c.remaining := by
  simp [remaining]

theorem remaining_advance_lt {c : Cursor} {ch : Char} (h : c.current? = some ch) :
    c.advance.remaining < c.remaining := by
  cases hr : c.rest with
  | nil => simp [current?, hr] at h
  | cons d rest => simp [remaining, hr]

end Cursor

end Lexis
