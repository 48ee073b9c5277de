/-!
Fields of a fixed least width, filled up with blanks. A longer text is never cut.
-/

set_option autoImplicit false
set_option relaxedAutoImplicit false

namespace Lexis.Text

def alignRight (size : Nat) (s : String) : String := String.ofList (s.toList.leftpad size ' ')

def alignLeft (size : Nat) (s : String) : String := String.ofList (s.toList.rightpad size ' ')

def blanks (size : Nat) : String := String.ofList (List.replicate size ' ')

end Lexis.Text
