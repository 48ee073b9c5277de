/-!
The kinds of lexemes. A word that is spelled like a keyword is that keyword; every other word is an
identifier.
-/

set_option autoImplicit false
set_option relaxedAutoImplicit false

namespace Lexis

inductive Keyword where
  | entero
  | cadena
  | si
  | sino
  | mientras
  | fin
  | imprimir
  deriving DecidableEq, Repr

namespace Keyword

def all : List Keyword := [entero, cadena, si, sino, mientras, fin, imprimir]

def word : Keyword → String
  | entero => "entero"
  | cadena => "cadena"
  | si => "si"
  | sino => "sino"
  | mientras => "mientras"
  | fin => "fin"
  | imprimir => "imprimir"

def ofWord? (s : String) : Option Keyword := all.find? fun k => k.word == s

theorem ofWord?_eq_some_iff {s : String} {k : Keyword} : ofWord? s = some k ↔ k.word = s := by
  constructor
  · intro h
    simpa using List.find?_some h
  · rintro rfl
    cases k <;> decide

end Keyword

inductive Kind where
  | endOfInput
  | identifier
  | integer
  | string
  | keyword (k : Keyword)
  | assign
  | additive
  | multiplicative
  | relational
  | negation
  | disjunction
  | conjunction
  | openParen
  | closeParen
  deriving DecidableEq, Repr

namespace Kind

def all : List Kind :=
  [endOfInput, identifier, integer, string] ++ Keyword.all.map keyword ++
    [assign, additive, multiplicative, relational, negation, disjunction, conjunction, openParen,
      closeParen]

def name : Kind → String
  | endOfInput => "EOF"
  | identifier => "ID"
  | integer => "INTVAL"
  | string => "STRVAL"
  | keyword .entero => "ENTERO"
  | keyword .cadena => "CADENA"
  | keyword .si => "SI"
  | keyword .sino => "SINO"
  | keyword .mientras => "MIENTRAS"
  | keyword .fin => "FIN"
  | keyword .imprimir => "IMPRIMIR"
  | assign => "ASIGN"
  | additive => "SUM"
  | multiplicative => "MUL"
  | relational => "REL"
  | negation => "NEG"
  | disjunction => "OR"
  | conjunction => "AND"
  | openParen => "IPAR"
  | closeParen => "DPAR"

theorem mem_all (kind : Kind) : kind ∈ all := by
  cases kind with
  | keyword k => cases k <;> decide
  | _ => decide

theorem name_injective {kind other : Kind} (h : kind.name = other.name) : kind = other := by
  have table : ∀ k ∈ all, ∀ l ∈ all, k.name = l.name → k = l := by decide
  exact table kind kind.mem_all other other.mem_all h

def isKeyword : Kind → Bool
  | keyword _ => true
  | _ => false

/-- The kind of a word: the keyword it spells, or else an identifier. -/
def ofWord (s : String) : Kind :=
  match Keyword.ofWord? s with
  | some k => keyword k
  | none => identifier

end Kind

end Lexis
