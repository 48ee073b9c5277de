import Lexis.Text.Unprintable

/-!
Quoted characters and texts. A quoted text stands between two copies of its quotation mark; the
mark itself, the backslash and the characters without a picture are written by escapes, so that a
quoted text stays on one line.
-/

set_option autoImplicit false
set_option relaxedAutoImplicit false

namespace Lexis.Text

def hexDigits (c : Char) : List Char := Nat.toDigits 16 c.toNat

/-- What stands for a character between two quotation marks. -/
def escape (mark c : Char) : List Char :=
  if c = '\x00' then ['\\', '0']
  else if c = '\t' then ['\\', 't']
  else if c = '\n' then ['\\', 'n']
  else if c = '\r' then ['\\', 'r']
  else if c = '\\' ∨ c = mark then ['\\', c]
  else if isUnprintable c then ['\\', 'u', '\x7b'] ++ hexDigits c ++ ['\x7d']
  else [c]

def enclose (mark : Char) (cs : List Char) : List Char :=
  mark :: cs.flatMap (escape mark) ++ [mark]

def quote (s : String) : String := String.ofList (enclose '"' s.toList)

def quoteChar (c : Char) : String := String.ofList (enclose '\x27' [c])

example : quote "it's \"\\\" \x01\n" = "\"it's \\\"\\\\\\\" \\u\x7b1\x7d\\n\"" := by
  decide +kernel

end Lexis.Text
