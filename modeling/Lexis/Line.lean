import Lexis.Alphabet
import Lexis.Position

/-!
The lines of a source. A line ends behind a line feed, or behind a carriage return that no line
feed follows, and keeps its ending; what stands behind the last ending is a line too, even when it
is empty.
-/

set_option autoImplicit false
set_option relaxedAutoImplicit false

namespace Lexis

structure Line where
  number : Nat
  start : Offset
  text : List Char
  deriving DecidableEq, Repr

namespace Line

def span (l : Line) : Span := { start := l.start, stop := l.start + Text.width l.text }

def visible (l : Line) : List Char := l.text.filter fun c => !isLineBreak c

def endsBehind (c : Char) (rest : List Char) : Bool :=
  c = '\n' || c = '\r' && rest.head? ≠ some '\n'

def extendFirst (c : Char) : List (List Char) → List (List Char)
  | [] => [[c]]
  | line :: lines => (c :: line) :: lines

def split : List Char → List (List Char)
  | [] => [[]]
  | c :: rest => if endsBehind c rest then [c] :: split rest else extendFirst c (split rest)

/-- Of lines that are numbered from `number` and begin at `start`, the one that holds the byte at
the position; the last one if all end before it. -/
def pick (position : Offset) (number : Nat) (start : Offset) : List (List Char) → Line
  | [] => { number, start, text := [] }
  | [text] => { number, start, text }
  | text :: lines =>
    if position < start + Text.width text then { number, start, text }
    else pick position (number + 1) (start + Text.width text) lines

/-- The line that holds the byte at a position; the last one if the position is at the end of the
source or behind it. -/
def find (source : String) (position : Offset) : Line :=
  pick position 1 0 (split source.toList)

/-- Splits what follows the offset `position` as `split` does, by slices of the source. The line that
is being read begins at `start`, and `ahead` is the source from there on. There is none if a slice
would end in front of its beginning, inside a character or behind the source, or if an offset does
not fit in a word. -/
def splitFrom? (ahead : List Char) (start position : Offset) :
    List Char → Option (List (List Char))
  | [] => do
    let (line, _) ← Text.cut? ahead (← Offset.sub? position start)
    return [line]
  | c :: rest => do
    let next ← Offset.add? position c.utf8Size
    if endsBehind c rest then
      let (line, below) ← Text.cut? ahead (← Offset.sub? next start)
      return line :: (← splitFrom? below next next rest)
    else splitFrom? ahead start next rest

/-- Picks a line as `pick` does. There is none if no line is left, or if an offset or a number does
not fit in a word; `index` is the number of lines passed by. -/
def pick? (position : Offset) (index : Nat) (start : Offset) : List (List Char) → Option Line
  | [] => none
  | text :: lines => do
    let stop ← Offset.add? start (Text.width text)
    if position < stop ∨ lines = [] then
      let number ← Offset.add? index 1
      return { number, start, text }
    else pick? position (index + 1) stop lines

/-- Finds a line as `find` does, with every slice, sum and choice on the way to it checked. -/
def find? (source : String) (position : Offset) : Option Line := do
  pick? position 0 0 (← splitFrom? source.toList 0 0 source.toList)

theorem extendFirst_ne_nil (c : Char) (lines : List (List Char)) : extendFirst c lines ≠ [] := by
  cases lines <;> simp [extendFirst]

theorem split_ne_nil (cs : List Char) : split cs ≠ [] := by
  cases cs with
  | nil => simp [split]
  | cons c rest =>
    rw [split]
    split
    · simp
    · exact extendFirst_ne_nil c (split rest)

theorem flatten_extendFirst (c : Char) (lines : List (List Char)) :
    (extendFirst c lines).flatten = c :: lines.flatten := by
  cases lines <;> simp [extendFirst]

theorem flatten_split (cs : List Char) : (split cs).flatten = cs := by
  induction cs with
  | nil => simp [split]
  | cons c rest ih =>
    rw [split]
    split
    · simp [ih]
    · rw [flatten_extendFirst, ih]

example : split "abc\r\nd\n\re".toList =
    ["abc\r\n".toList, "d\n".toList, "\r".toList, "e".toList] := by decide +kernel

end Line

end Lexis
