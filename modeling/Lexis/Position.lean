import Lexis.Text.Slice

/-!
Places in a source text: byte offsets, spans between two of them, and locations by line and column.
Offsets are counts of bytes in a machine word of 64 bits, so their arithmetic is partial.
-/

set_option autoImplicit false
set_option relaxedAutoImplicit false

namespace Lexis

abbrev Offset := Nat

namespace Offset

/-- The first count that no longer fits in a word. -/
def limit : Nat := UInt64.size

def add? (a : Offset) (n : Nat) : Option Offset :=
  if a + n < limit then some (a + n) else none

def sub? (a b : Offset) : Option Nat :=
  if b ≤ a then some (a - b) else none

theorem add?_eq_some {a n : Nat} (h : a + n < limit) : add? a n = some (a + n) := if_pos h

theorem sub?_add_left (a n : Nat) : sub? (a + n) a = some n := by
  rw [sub?, if_pos (Nat.le_add_right a n), Nat.add_sub_cancel_left]

end Offset

/-- The bytes from `start` up to, but not including, `stop`. -/
structure Span where
  start : Offset := 0
  stop : Offset := 0
  deriving DecidableEq, Repr, Inhabited

namespace Span

def length? (s : Span) : Option Nat := Offset.sub? s.stop s.start

/-- The part of the source that the span covers, when both ends are edges of characters. -/
def lookup? (s : Span) (source : String) : Option String :=
  (Text.slice? source.toList s.start s.stop).map String.ofList

end Span

/-- A line and a column, both counted from one; columns count characters. -/
structure Location where
  line : Nat := 1
  column : Nat := 1
  deriving DecidableEq, Repr

namespace Location

def first : Location := {}

/-- Earlier lines come first, and within a line earlier columns. -/
def compare (a b : Location) : Ordering :=
  (Ord.compare a.line b.line).then (Ord.compare a.column b.column)

def nextColumn (l : Location) : Location := { l with column := l.column + 1 }

def nextLine (l : Location) : Location := { line := l.line + 1 }

def text (l : Location) : String := l.line.repr ++ ":" ++ l.column.repr

end Location

end Lexis
