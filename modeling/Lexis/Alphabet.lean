import Lexis.Text.Whitespace
import Lexis.Text.Alphabetic

/-!
The classes into which the automaton sorts the characters of a source. Digits are the ten ASCII
digits; letters and blanks are taken from all scripts.
-/

set_option autoImplicit false
set_option relaxedAutoImplicit false

namespace Lexis

def isDigit (c : Char) : Bool := c.isDigit

def isLetter (c : Char) : Bool := Text.isAlphabetic c

def isWordChar (c : Char) : Bool := isLetter c || isDigit c

def isBlank (c : Char) : Bool := Text.isWhitespace c

def isLineBreak (c : Char) : Bool := c == '\n' || c == '\r'

end Lexis
