import Lexis.Alphabet
import Lexis.Proofs.Splitting
import Lexis.Token.Kind

/-!
The lexemes of the language, said without the automaton: which texts they are, of which kind each
of them is, and in front of which characters a lexeme would not end where it does.

The classes of characters that begin a lexeme are apart, so a lexeme has only one kind
(`Lexeme.kind_unique`), and a lexeme that continues another one begins with a character that the
shorter one runs into (`Lexeme.clashes_of_append`).
-/

set_option autoImplicit false
set_option relaxedAutoImplicit false

namespace Lexis

theorem isLetter_eq_false_of_isDigit {c : Char} (h : isDigit c = true) : isLetter c = false := by
  have hle : c.toNat ≤ 57 := by
    simp only [isDigit, Char.isDigit, Bool.and_eq_true, decide_eq_true_eq] at h
    exact h.2
  have hfirst : Text.alphabetic = (0x41, 0x5A) :: Text.alphabetic.tail := rfl
  have hbelow : decide (0x41 ≤ c.toNat) = false := by
    rw [decide_eq_false_iff_not]
    omega
  rw [isLetter, Text.isAlphabetic, hfirst, Text.Ranges.covers_cons, hbelow, Bool.false_and]

theorem isDigit_eq_false_of_isLetter {c : Char} (h : isLetter c = true) : isDigit c = false := by
  by_contra hdigit
  rw [isLetter_eq_false_of_isDigit (Bool.of_not_eq_false hdigit)] at h
  cases h

/-- A blank has no code point of a letter or a digit: the few there are can be tried. -/
theorem isWordChar_eq_false_of_isBlank {c : Char} (h : isBlank c = true) :
    isWordChar c = false := by
  obtain ⟨r, hr, hfirst, hlast⟩ := Text.Ranges.exists_of_covers h
  have hmem : c.toNat ∈ List.range' r.1 (r.2 + 1 - r.1) := by
    rw [List.mem_range'_1]
    omega
  have apart : ∀ r ∈ Text.whitespace, ∀ n ∈ List.range' r.1 (r.2 + 1 - r.1),
      Text.alphabetic.covers n = false ∧ (n < 48 ∨ 57 < n) := by decide +kernel
  obtain ⟨hletter, hdigit⟩ := apart r hr c.toNat hmem
  have hnot : isDigit c = false := by
    rw [Bool.eq_false_iff]
    intro hc
    simp only [isDigit, Char.isDigit, Bool.and_eq_true, decide_eq_true_eq] at hc
    have hlow : 48 ≤ c.toNat := hc.1
    have hhigh : c.toNat ≤ 57 := hc.2
    omega
  rw [isWordChar, hnot, Bool.or_false]
  exact hletter

theorem isWordChar_of_isLetter {c : Char} (h : isLetter c = true) : isWordChar c = true := by
  rw [isWordChar, h, Bool.true_or]

theorem isWordChar_of_isDigit {c : Char} (h : isDigit c = true) : isWordChar c = true := by
  rw [isWordChar, h, Bool.or_true]

def IsWord : List Char → Prop
  | [] => False
  | c :: cs => isLetter c = true ∧ ∀ d ∈ cs, isWordChar d = true

def IsNumber (text : List Char) : Prop := text ≠ [] ∧ ∀ c ∈ text, isDigit c = true

def IsPlain (body : List Char) : Prop := ∀ c ∈ body, c ≠ '"' ∧ isLineBreak c = false

def IsQuoted (text : List Char) : Prop := ∃ body, IsPlain body ∧ text = '"' :: (body ++ ['"'])

-- Only the characters of the text are tried, not all that there are.
instance : DecidablePred IsWord
  | [] => isFalse id
  | _ :: cs => @instDecidableAnd _ _ _ (List.decidableBAll (isWordChar · = true) cs)

instance : DecidablePred IsNumber := fun text =>
  @instDecidableAnd _ _ _ (List.decidableBAll (isDigit · = true) text)

theorem isWord_concat {text : List Char} {c : Char} (h : IsWord text) (hc : isWordChar c = true) :
    IsWord (text ++ [c]) := by
  cases text with
  | nil => exact h.elim
  | cons d ds =>
    have hlast : ∀ e ∈ [c], isWordChar e = true := List.forall_mem_singleton.mpr hc
    exact ⟨h.1, List.forall_mem_append.mpr ⟨h.2, hlast⟩⟩

theorem isNumber_concat {text : List Char} {c : Char} (h : ∀ d ∈ text, isDigit d = true)
    (hc : isDigit c = true) : IsNumber (text ++ [c]) := by
  have hlast : ∀ d ∈ [c], isDigit d = true := List.forall_mem_singleton.mpr hc
  exact ⟨by simp, List.forall_mem_append.mpr ⟨h, hlast⟩⟩

theorem IsPlain.concat {body : List Char} {c : Char} (h : IsPlain body) (hquote : c ≠ '"')
    (hbreak : isLineBreak c = false) : IsPlain (body ++ [c]) :=
  List.forall_mem_append.mpr ⟨h, List.forall_mem_singleton.mpr ⟨hquote, hbreak⟩⟩

def operators : List (List Char × Kind) :=
  [(['+'], .additive), (['-'], .additive), (['*'], .multiplicative), (['/'], .multiplicative),
    (['='], .relational), (['<'], .relational), (['<', '='], .relational),
    (['<', '>'], .relational), (['>'], .relational), (['>', '='], .relational),
    (['!'], .negation), (['|', '|'], .disjunction), (['&', '&'], .conjunction),
    ([':', '='], .assign), (['('], .openParen), ([')'], .closeParen)]

/-- The text is a lexeme of the kind. A word that spells a keyword is no identifier. -/
inductive Lexeme : List Char → Kind → Prop
  | keyword (k : Keyword) : Lexeme k.word.toList (.keyword k)
  | identifier {text : List Char} :
      IsWord text → (∀ k : Keyword, k.word.toList ≠ text) → Lexeme text .identifier
  | integer {text : List Char} : IsNumber text → Lexeme text .integer
  | string {text : List Char} : IsQuoted text → Lexeme text .string
  | operator {text : List Char} {kind : Kind} : (text, kind) ∈ operators → Lexeme text kind

/-- The lexeme would not end in front of the character: the character continues it, or makes
something else of it. -/
inductive Clashes : List Char → Char → Prop
  | word {text : List Char} {c : Char} : IsWord text → isWordChar c = true → Clashes text c
  | number {text : List Char} {c : Char} : IsNumber text → isWordChar c = true → Clashes text c
  | assign {c : Char} : isWordChar c = true → Clashes [':', '='] c
  | less {c : Char} : c = '=' ∨ c = '>' → Clashes ['<'] c
  | greater {c : Char} : c = '=' → Clashes ['>'] c
  | slash {c : Char} : c = '/' ∨ c = '*' → Clashes ['/'] c

theorem not_isNumber_of_isWord {text : List Char} (h : IsWord text) : ¬ IsNumber text := by
  intro hnumber
  cases text with
  | nil => exact h
  | cons c cs =>
    have hletter := isLetter_eq_false_of_isDigit (hnumber.2 c List.mem_cons_self)
    rw [h.1] at hletter
    cases hletter

theorem isWord_word (k : Keyword) : IsWord k.word.toList := by
  cases k <;> decide

private theorem operator_head {text : List Char} {kind : Kind} (h : (text, kind) ∈ operators) :
    ∃ c cs, text = c :: cs ∧ isWordChar c = false ∧ c ≠ '"' := by
  have heads : ∀ p ∈ operators, p.1.head?.any (fun c => !isWordChar c && c != '"') = true := by
    decide
  have hhead := heads _ h
  cases text with
  | nil => simp at hhead
  | cons c cs => exact ⟨c, cs, rfl, by simpa using hhead⟩

theorem Lexeme.head {text : List Char} {kind : Kind} (h : Lexeme text kind) :
    ∃ c cs, text = c :: cs ∧
      ((isLetter c = true ∧ IsWord text ∧ kind = Kind.ofWord (String.ofList text)) ∨
        (isDigit c = true ∧ IsNumber text ∧ kind = .integer) ∨
        (c = '"' ∧ IsQuoted text ∧ kind = .string) ∨
        (isWordChar c = false ∧ c ≠ '"' ∧ (text, kind) ∈ operators)) := by
  cases h with
  | keyword k =>
    have hkind : .keyword k = Kind.ofWord (String.ofList k.word.toList) := by
      rw [String.ofList_toList, Kind.ofWord, Keyword.ofWord?_eq_some_iff.mpr rfl]
    have hword := isWord_word k
    cases htext : k.word.toList with
    | nil => simp [htext, IsWord] at hword
    | cons c cs =>
      rw [htext] at hkind hword
      exact ⟨c, cs, rfl, .inl ⟨hword.1, hword, hkind⟩⟩
  | identifier hword hnone =>
    have hkind : .identifier = Kind.ofWord (String.ofList text) := by
      have hfree : Keyword.ofWord? (String.ofList text) = none := by
        rw [Option.eq_none_iff_forall_ne_some]
        intro k hk
        refine hnone k ?_
        rw [Keyword.ofWord?_eq_some_iff.mp hk, String.toList_ofList]
      rw [Kind.ofWord, hfree]
    cases text with
    | nil => exact hword.elim
    | cons c cs => exact ⟨c, cs, rfl, .inl ⟨hword.1, hword, hkind⟩⟩
  | integer hnumber =>
    cases text with
    | nil => exact absurd rfl hnumber.1
    | cons c cs => exact ⟨c, cs, rfl, .inr (.inl ⟨hnumber.2 c List.mem_cons_self, hnumber, rfl⟩)⟩
  | string hquoted =>
    obtain ⟨body, hplain, rfl⟩ := hquoted
    exact ⟨'"', body ++ ['"'], rfl, .inr (.inr (.inl ⟨rfl, ⟨body, hplain, rfl⟩, rfl⟩))⟩
  | operator hmem =>
    obtain ⟨c, cs, htext, hword, hquote⟩ := operator_head hmem
    exact ⟨c, cs, htext, .inr (.inr (.inr ⟨hword, hquote, hmem⟩))⟩

section FirstCharacter

variable {c : Char} {cs : List Char} {kind : Kind}

theorem Lexeme.of_letter (h : Lexeme (c :: cs) kind) (hc : isLetter c = true) :
    IsWord (c :: cs) ∧ kind = Kind.ofWord (String.ofList (c :: cs)) := by
  obtain ⟨d, ds, htext, ⟨_, hword⟩ | ⟨hd, _⟩ | ⟨rfl, _⟩ | ⟨hd, _⟩⟩ := h.head <;>
    obtain ⟨rfl, rfl⟩ := List.cons.inj htext
  · exact hword
  · rw [isLetter_eq_false_of_isDigit hd] at hc
    cases hc
  · exact absurd hc (by decide)
  · rw [isWordChar_of_isLetter hc] at hd
    cases hd

theorem Lexeme.of_digit (h : Lexeme (c :: cs) kind) (hc : isDigit c = true) :
    IsNumber (c :: cs) ∧ kind = .integer := by
  obtain ⟨d, ds, htext, ⟨hd, _⟩ | ⟨_, hnumber⟩ | ⟨rfl, _⟩ | ⟨hd, _⟩⟩ := h.head <;>
    obtain ⟨rfl, rfl⟩ := List.cons.inj htext
  · rw [isLetter_eq_false_of_isDigit hc] at hd
    cases hd
  · exact hnumber
  · exact absurd hc (by decide)
  · rw [isWordChar_of_isDigit hc] at hd
    cases hd

theorem Lexeme.of_quote (h : Lexeme ('"' :: cs) kind) :
    IsQuoted ('"' :: cs) ∧ kind = .string := by
  obtain ⟨d, ds, htext, ⟨hd, _⟩ | ⟨hd, _⟩ | ⟨_, hquoted⟩ | ⟨_, hd, _⟩⟩ := h.head <;>
    obtain ⟨rfl, rfl⟩ := List.cons.inj htext
  · exact absurd hd (by decide)
  · exact absurd hd (by decide)
  · exact hquoted
  · exact absurd rfl hd

theorem Lexeme.of_symbol (h : Lexeme (c :: cs) kind) (hc : isWordChar c = false)
    (hquote : c ≠ '"') : (c :: cs, kind) ∈ operators := by
  obtain ⟨d, ds, htext, ⟨hd, _⟩ | ⟨hd, _⟩ | ⟨hd, _⟩ | ⟨_, _, hmem⟩⟩ := h.head <;>
    obtain ⟨rfl, rfl⟩ := List.cons.inj htext
  · rw [isWordChar_of_isLetter hd] at hc
    cases hc
  · rw [isWordChar_of_isDigit hd] at hc
    cases hc
  · exact absurd hd hquote
  · exact hmem

theorem Lexeme.of_slash (h : Lexeme ('/' :: cs) kind) : cs = [] := by
  have table : ∀ p ∈ operators, p.1.head? = some '/' → p.1 = ['/'] := by decide
  have htext := table _ (h.of_symbol (by decide) (by decide)) rfl
  exact (List.cons.inj htext).2

end FirstCharacter

theorem Lexeme.kind_unique {text : List Char} {kind other : Kind} (h : Lexeme text kind)
    (hother : Lexeme text other) : kind = other := by
  have functional : ∀ p ∈ operators, ∀ q ∈ operators, p.1 = q.1 → p.2 = q.2 := by decide
  obtain ⟨c, cs, rfl, ⟨hc, _, hkind⟩ | ⟨hc, _, hkind⟩ | ⟨rfl, _, hkind⟩ | ⟨hc, hquote, hmem⟩⟩ :=
    h.head
  · rw [hkind, (hother.of_letter hc).2]
  · rw [hkind, (hother.of_digit hc).2]
  · rw [hkind, hother.of_quote.2]
  · exact functional _ hmem _ (hother.of_symbol hc hquote) rfl

theorem Lexeme.ne_nil {text : List Char} {kind : Kind} (h : Lexeme text kind) : text ≠ [] := by
  obtain ⟨c, cs, rfl, _⟩ := h.head
  exact List.cons_ne_nil c cs

theorem Lexeme.kind_ne_endOfInput {text : List Char} {kind : Kind} (h : Lexeme text kind) :
    kind ≠ .endOfInput := by
  cases h with
  | operator hmem =>
    have kinds : ∀ p ∈ operators, p.2 ≠ .endOfInput := by decide
    exact kinds _ hmem
  | _ => exact Kind.noConfusion

theorem lexeme_of_isWord {text : List Char} (h : IsWord text) :
    Lexeme text (Kind.ofWord (String.ofList text)) := by
  rw [Kind.ofWord]
  split
  · next k hk =>
    have hword := Keyword.ofWord?_eq_some_iff.mp hk
    have htext : text = k.word.toList := by rw [hword, String.toList_ofList]
    rw [htext]
    exact .keyword k
  · next hnone =>
    refine .identifier h ?_
    rintro k rfl
    rw [String.ofList_toList, Keyword.ofWord?_eq_some_iff.mpr rfl] at hnone
    cases hnone

theorem IsPlain.append_quote_inj {body other tail rest : List Char} (hbody : IsPlain body)
    (hother : IsPlain other) (h : body ++ '"' :: tail = other ++ '"' :: rest) :
    body = other ∧ tail = rest := by
  have hcut := Text.append_inj_of_boundary h (p := (· ≠ '"')) (fun c hc => (hbody c hc).1)
    (fun c hc => (hother c hc).1) (by simp) (by simp)
  exact ⟨hcut.1, (List.cons.inj hcut.2).2⟩

theorem Lexeme.clashes_of_append {text tail : List Char} {c : Char} {kind other : Kind}
    (h : Lexeme text kind) (hother : Lexeme (text ++ c :: tail) other) : Clashes text c := by
  obtain ⟨d, ds, rfl, ⟨hd, hword, _⟩ | ⟨hd, hnumber, _⟩ | ⟨rfl, hquoted, _⟩ | ⟨hd, hquote, hmem⟩⟩ :=
    h.head
  · have hlong := (hother.of_letter hd).1
    exact .word hword (hlong.2 c (by simp))
  · have hlong := (hother.of_digit hd).1
    exact .number hnumber (isWordChar_of_isDigit (hlong.2 c (by simp)))
  · obtain ⟨body, hplain, hbody⟩ := hquoted
    obtain ⟨long, hlong, htext⟩ := hother.of_quote.1
    -- The closing quote of the shorter string would stand inside the longer one.
    have hcut : body ++ '"' :: c :: tail = long ++ '"' :: [] := by
      rw [(List.cons.inj hbody).2] at htext
      simpa using htext
    exact absurd (IsPlain.append_quote_inj hplain hlong hcut).2 (List.cons_ne_nil c tail)
  · have hlong := hother.of_symbol hd hquote
    have table : ∀ p ∈ operators, ∀ q ∈ operators, p.1 <+: q.1 → p.1 = q.1 ∨
        (p.1, q.1) ∈ [(['<'], ['<', '=']), (['<'], ['<', '>']), (['>'], ['>', '='])] := by decide
    rcases table _ hmem _ hlong (List.prefix_append _ _) with hsame | hpair
    · simp at hsame
    · simp only [List.mem_cons, List.not_mem_nil, or_false, Prod.mk.injEq] at hpair
      rcases hpair with ⟨hshort, hlonger⟩ | ⟨hshort, hlonger⟩ | ⟨hshort, hlonger⟩
      all_goals
        obtain ⟨rfl, rfl⟩ := List.cons.inj hshort
        obtain ⟨rfl, _⟩ := List.cons.inj (List.cons.inj hlonger).2
      · exact .less (.inl rfl)
      · exact .less (.inr rfl)
      · exact .greater rfl

section Clashes

variable {text : List Char} {c : Char}

theorem Clashes.of_isWord (h : Clashes text c) (hword : IsWord text) : isWordChar c = true := by
  cases h with
  | word _ hc => exact hc
  | number hnumber _ => exact absurd hnumber (not_isNumber_of_isWord hword)
  | _ => exact absurd hword (by decide)

theorem Clashes.of_isNumber (h : Clashes text c) (hnumber : IsNumber text) :
    isWordChar c = true := by
  cases h with
  | word hword _ => exact absurd hnumber (not_isNumber_of_isWord hword)
  | number _ hc => exact hc
  | _ => exact absurd hnumber (by decide)

theorem not_clashes_of_isQuoted (h : IsQuoted text) : ¬ Clashes text c := by
  obtain ⟨body, _, rfl⟩ := h
  intro hclash
  cases hclash with
  | word hword _ => exact absurd hword.1 (by decide)
  | number hnumber _ => exact absurd (hnumber.2 '"' List.mem_cons_self) (by decide)

theorem Clashes.of_operator (h : Clashes text c) (hmem : text ∈ operators.map Prod.fst) :
    (text = [':', '='] ∧ isWordChar c = true) ∨ (text = ['<'] ∧ (c = '=' ∨ c = '>')) ∨
      (text = ['>'] ∧ c = '=') ∨ (text = ['/'] ∧ (c = '/' ∨ c = '*')) := by
  have symbols : ∀ other ∈ operators.map Prod.fst, ¬ IsWord other ∧ ¬ IsNumber other := by decide
  cases h with
  | word hword _ => exact absurd hword (symbols _ hmem).1
  | number hnumber _ => exact absurd hnumber (symbols _ hmem).2
  | assign hc => exact .inl ⟨rfl, hc⟩
  | less hc => exact .inr (.inl ⟨rfl, hc⟩)
  | greater hc => exact .inr (.inr (.inl ⟨rfl, hc⟩))
  | slash hc => exact .inr (.inr (.inr ⟨rfl, hc⟩))

end Clashes

end Lexis
