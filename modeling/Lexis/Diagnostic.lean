import Lexis.Fault
import Lexis.Line
import Lexis.Text.Columns

/-!
Complaints about a place in a source, shown under the line that they are about. The place is marked
by carets as far as the line is visible, by one at least; tabs before it are kept, so that the
carets stand under what they mark.
-/

set_option autoImplicit false
set_option relaxedAutoImplicit false

namespace Lexis

/-- A complaint about the bytes of a span that begins on the numbered line. -/
structure Diagnostic where
  span : Span
  line : Nat
  description : String
  deriving DecidableEq, Repr

namespace Diagnostic

def padding (c : Char) : Char := if c = '\t' then '\t' else ' '

/-- The end of what is shown of a line, but nothing before the marked place. -/
def visibleStop? (line : Line) (start : Offset) : Option Offset :=
  (Offset.add? line.start (Text.width line.visible)).map (max · start)

/-- The line and, under it, the marked place with the description. There is none when the span is
backwards, begins behind the source, or has an end inside a character, or when an offset does not
fit in a word; an end behind the visible part of the line is moved back to it first. -/
def render? (d : Diagnostic) (source : String) : Option String := do
  let line ← Line.find? source d.span.start
  let length ← d.span.length?
  let stop ← Offset.add? d.span.start length
  let before ← Text.slice? source.toList line.start d.span.start
  let visibleStop ← visibleStop? line d.span.start
  let marked ← Text.slice? source.toList d.span.start (min stop visibleStop)
  let gutter := d.line.repr
  let carets := List.replicate (max marked.length 1) '^'
  return gutter ++ "| " ++ String.ofList line.visible ++ "\n" ++
    Text.blanks gutter.length ++ "| " ++ String.ofList (before.map padding ++ carets) ++
    "--- " ++ d.description

example :
    render? { span := { start := 3, stop := 7 }, line := 12, description := "no" } "\tab\tcd\nx" =
      some "12| \tab\tcd\n  | \t  ^^^--- no" := by
  decide +kernel

end Diagnostic

namespace LexError

def diagnostic (e : LexError) : Diagnostic where
  span := e.span
  line := e.location.line
  description := e.fault.message

end LexError

end Lexis
