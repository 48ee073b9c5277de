import Lexis.Position
import Lexis.Text.Quoted
import Lexis.Token.Kind

/-!
Tokens: a lexeme with its kind and its place in the source.
-/

set_option autoImplicit false
set_option relaxedAutoImplicit false

namespace Lexis

structure Token where
  kind : Kind
  text : String
  span : Span
  location : Location
  deriving DecidableEq, Repr

namespace Token

def isEnd (t : Token) : Bool := t.kind = .endOfInput

def unquote? : List Char → Option (List Char)
  | '"' :: body => if body.getLast? = some '"' then some body.dropLast else none
  | _ => none

theorem unquote?_eq_some_iff {text body : List Char} :
    unquote? text = some body ↔ text = '"' :: body ++ ['"'] := by
  constructor
  · intro h
    unfold unquote? at h
    split at h
    · next inner =>
      split at h
      · next hlast =>
        have hbody : inner.dropLast = body := Option.some.inj h
        obtain ⟨front, rfl⟩ := List.getLast?_eq_some_iff.mp hlast
        rw [← hbody, List.dropLast_concat]
        rfl
      · simp at h
    · simp at h
  · rintro rfl
    simp [unquote?]

def stringValue? (t : Token) : Option String :=
  if t.kind = .string then (unquote? t.text.toList).map String.ofList else none

/-- The name of the kind, followed by the quoted lexeme except at the end of the source. -/
def display (t : Token) : String :=
  if t.isEnd then t.kind.name else t.kind.name ++ " " ++ Text.quote t.text

end Token

end Lexis
