import Lexis.Fault
import Lexis.Proofs.Gap
import Lexis.Proofs.Lexeme

/-!
What there is to say about a text that begins with no gap: it is empty, it begins with a lexeme
that ends in front of the next character, or it is refused for one of seven reasons. A text allows
at most one verdict (`Decides.unique`), and a text that allows one begins with no gap
(`Decides.isBare`).
-/

set_option autoImplicit false
set_option relaxedAutoImplicit false

namespace Lexis

def openers : List Char :=
  ['"', ':', '+', '-', '*', '/', '=', '<', '>', '!', '|', '&', '(', ')']

/-- The first and the second character of the operators that have no shorter form. -/
def pairs : List (Char × Char) := [('|', '|'), ('&', '&'), (':', '=')]

def IsUnknown (c : Char) : Prop := isWordChar c = false ∧ isBlank c = false ∧ c ∉ openers

/-- Why a text is refused: the fault, what was read of a lexeme, and the character behind it that
does not fit. -/
structure Refusal where
  fault : Fault
  lexeme : List Char
  offending : Option Char

inductive Refused : List Char → Refusal → Prop
  | malformedInteger {d c : Char} {digits rest : List Char} :
      IsNumber (d :: digits) → isLetter c = true →
      Refused (d :: digits ++ c :: rest) ⟨.malformedInteger, d :: digits, some c⟩
  | malformedAssignment {c : Char} {rest : List Char} : isWordChar c = true →
      Refused (':' :: '=' :: c :: rest) ⟨.malformedAssignment, [':', '='], some c⟩
  | newlineInString {body rest : List Char} {c : Char} : IsPlain body → isLineBreak c = true →
      Refused ('"' :: (body ++ c :: rest)) ⟨.newlineInString, '"' :: body, some c⟩
  | unterminatedString {body : List Char} : IsPlain body →
      Refused ('"' :: body) ⟨.unterminatedString, '"' :: body, none⟩
  | unterminatedComment {body : List Char} : ¬ ['*', '/'] <:+: body →
      Refused ('/' :: '*' :: body) ⟨.unterminatedComment, ['/'], none⟩
  | incompleteOperator {first second : Char} {rest : List Char} : (first, second) ∈ pairs →
      rest.head? ≠ some second →
      Refused (first :: rest) ⟨.incompleteOperator second, [first], rest.head?⟩
  | unknownCharacter {c : Char} {rest : List Char} : IsUnknown c →
      Refused (c :: rest) ⟨.unknownCharacter c, [], some c⟩

inductive Verdict where
  | finish
  | accept (lexeme : List Char) (kind : Kind)
  | refuse (refusal : Refusal)

/-- The verdict on a text: a lexeme is accepted unless it runs into the next character. -/
inductive Decides : List Char → Verdict → Prop
  | finish : Decides [] .finish
  | accept {lexeme rest : List Char} {kind : Kind} : Lexeme lexeme kind →
      (∀ c ∈ rest.head?, ¬ Clashes lexeme c) → Decides (lexeme ++ rest) (.accept lexeme kind)
  | refuse {text : List Char} {refusal : Refusal} : Refused text refusal →
      Decides text (.refuse refusal)

/-- The text that a refusal covers: the lexeme and the offending character, or all there is of a
comment without an end. -/
def Refusal.extent (refusal : Refusal) (text : List Char) : List Char :=
  if refusal.fault = .unterminatedComment then text
  else refusal.lexeme ++ refusal.offending.toList

def Verdict.extent (text : List Char) : Verdict → List Char
  | .finish => []
  | .accept lexeme _ => lexeme
  | .refuse refusal => refusal.extent text

theorem Refused.extent_prefix {text : List Char} {refusal : Refusal} (h : Refused text refusal) :
    refusal.extent text <+: text := by
  cases h with
  | unterminatedComment _ => exact List.prefix_rfl
  | @incompleteOperator _ _ rest _ _ =>
    cases rest with
    | nil => exact ⟨[], rfl⟩
    | cons c rest => exact ⟨rest, rfl⟩
  | malformedAssignment _ | unknownCharacter _ => exact ⟨_, rfl⟩
  | unterminatedString _ => exact ⟨[], by simp [Refusal.extent]⟩
  | malformedInteger _ _ | newlineInString _ _ => exact ⟨_, by simp [Refusal.extent]; rfl⟩

theorem Refused.extent_ne_nil {text : List Char} {refusal : Refusal} (h : Refused text refusal) :
    refusal.extent text ≠ [] := by
  cases h with
  | unterminatedComment _ => exact List.cons_ne_nil _ _
  | _ =>
    rw [Refusal.extent, if_neg (by simp)]
    simp

theorem Refused.ne_nil {text : List Char} {refusal : Refusal} (h : Refused text refusal) :
    text ≠ [] :=
  h.extent_prefix.ne_nil h.extent_ne_nil

theorem Refused.of_unterminatedComment {text : List Char} {refusal : Refusal}
    (h : Refused text refusal) (hfault : refusal.fault = .unterminatedComment) :
    refusal.lexeme = ['/'] ∧ refusal.offending = none ∧ ['/', '*'] <+: text := by
  cases h with
  | unterminatedComment _ => exact ⟨rfl, rfl, _, rfl⟩
  | _ => cases hfault

theorem Decides.eq_nil {text : List Char} (h : Decides text .finish) : text = [] := by
  cases h
  rfl

theorem Decides.accepted {text lexeme : List Char} {kind : Kind}
    (h : Decides text (.accept lexeme kind)) :
    Lexeme lexeme kind ∧ ∃ rest, text = lexeme ++ rest ∧ ∀ c ∈ rest.head?, ¬ Clashes lexeme c := by
  cases h with
  | accept hlexeme hnext => exact ⟨hlexeme, _, rfl, hnext⟩

theorem Decides.refused {text : List Char} {refusal : Refusal}
    (h : Decides text (.refuse refusal)) : Refused text refusal := by
  cases h
  assumption

theorem Decides.extent_prefix {text : List Char} {verdict : Verdict} (h : Decides text verdict) :
    verdict.extent text <+: text := by
  cases h with
  | finish => exact List.nil_prefix
  | accept _ _ => exact List.prefix_append _ _
  | refuse hrefused => exact hrefused.extent_prefix

section FirstCharacter

variable {c : Char} {cs : List Char} {refusal : Refusal}

private theorem pairs_head {first second : Char} (h : (first, second) ∈ pairs) :
    isWordChar first = false ∧ isBlank first = false ∧ first ∈ openers ∧ first ≠ '"' ∧
      first ≠ '/' := by
  have table : ∀ p ∈ pairs, isWordChar p.1 = false ∧ isBlank p.1 = false ∧ p.1 ∈ openers ∧
      p.1 ≠ '"' ∧ p.1 ≠ '/' := by decide
  exact table _ h

private theorem pairs_unique {first second other : Char} (h : (first, second) ∈ pairs)
    (hother : (first, other) ∈ pairs) : second = other := by
  have functional : ∀ p ∈ pairs, ∀ q ∈ pairs, p.1 = q.1 → p.2 = q.2 := by decide
  exact functional _ h _ hother rfl

private theorem openers_head (h : c ∈ openers) : isWordChar c = false ∧ isBlank c = false := by
  have table : openers.all (fun d => !isWordChar d && !isBlank d) = true := by decide
  simpa using List.all_eq_true.mp table c h

private theorem operator_head_mem {kind : Kind} (h : (c :: cs, kind) ∈ operators) :
    c ∈ openers := by
  have table : ∀ p ∈ operators, p.1.head?.all (fun d => decide (d ∈ openers)) = true := by decide
  exact of_decide_eq_true (table _ h)

theorem Refused.of_digit {text : List Char} (h : Refused text refusal) (hc : isDigit c = true)
    (htext : text = c :: cs) :
    ∃ digits d rest, IsNumber digits ∧ isLetter d = true ∧ text = digits ++ d :: rest ∧
      refusal = ⟨.malformedInteger, digits, some d⟩ := by
  have hword := isWordChar_of_isDigit hc
  have hnot : c ∉ openers := by
    intro hmem
    rw [(openers_head hmem).1] at hword
    cases hword
  cases h with
  | malformedInteger hnumber hd => exact ⟨_, _, _, hnumber, hd, rfl, rfl⟩
  | incompleteOperator hpair _ =>
    obtain ⟨rfl, rfl⟩ := List.cons.inj htext
    exact absurd (pairs_head hpair).2.2.1 hnot
  | unknownCharacter hunknown =>
    obtain ⟨rfl, rfl⟩ := List.cons.inj htext
    rw [hunknown.1] at hword
    cases hword
  | _ =>
    obtain ⟨rfl, rfl⟩ := List.cons.inj htext
    exact absurd (by decide) hnot

theorem Refused.of_quote {text : List Char} (h : Refused text refusal)
    (htext : text = '"' :: cs) :
    (∃ body d rest, IsPlain body ∧ isLineBreak d = true ∧ cs = body ++ d :: rest ∧
      refusal = ⟨.newlineInString, '"' :: body, some d⟩) ∨
    (IsPlain cs ∧ refusal = ⟨.unterminatedString, '"' :: cs, none⟩) := by
  cases h with
  | malformedInteger hnumber _ =>
    obtain ⟨rfl, rfl⟩ := List.cons.inj htext
    exact absurd (hnumber.2 _ List.mem_cons_self) (by decide)
  | newlineInString hbody hd =>
    obtain ⟨_, rfl⟩ := List.cons.inj htext
    exact .inl ⟨_, _, _, hbody, hd, rfl, rfl⟩
  | unterminatedString hbody =>
    obtain ⟨_, rfl⟩ := List.cons.inj htext
    exact .inr ⟨hbody, rfl⟩
  | incompleteOperator hpair _ =>
    obtain ⟨rfl, rfl⟩ := List.cons.inj htext
    exact absurd rfl (pairs_head hpair).2.2.2.1
  | unknownCharacter hunknown =>
    obtain ⟨rfl, rfl⟩ := List.cons.inj htext
    exact absurd (by decide) hunknown.2.2
  | _ => exact absurd (List.cons.inj htext).1 (by decide)

theorem Refused.of_slash {text : List Char} (h : Refused text refusal)
    (htext : text = '/' :: cs) :
    ∃ body, ¬ ['*', '/'] <:+: body ∧ cs = '*' :: body ∧
      refusal = ⟨.unterminatedComment, ['/'], none⟩ := by
  cases h with
  | malformedInteger hnumber _ =>
    obtain ⟨rfl, rfl⟩ := List.cons.inj htext
    exact absurd (hnumber.2 _ List.mem_cons_self) (by decide)
  | unterminatedComment hbody =>
    obtain ⟨_, rfl⟩ := List.cons.inj htext
    exact ⟨_, hbody, rfl, rfl⟩
  | incompleteOperator hpair _ =>
    obtain ⟨rfl, rfl⟩ := List.cons.inj htext
    exact absurd rfl (pairs_head hpair).2.2.2.2
  | unknownCharacter hunknown =>
    obtain ⟨rfl, rfl⟩ := List.cons.inj htext
    exact absurd (by decide) hunknown.2.2
  | _ => exact absurd (List.cons.inj htext).1 (by decide)

theorem Refused.of_pair {text : List Char} {second : Char} (h : Refused text refusal)
    (hpair : (c, second) ∈ pairs) (htext : text = c :: cs) :
    (cs.head? ≠ some second ∧ refusal = ⟨.incompleteOperator second, [c], cs.head?⟩) ∨
    (c = ':' ∧ ∃ d rest, isWordChar d = true ∧ cs = '=' :: d :: rest ∧
      refusal = ⟨.malformedAssignment, [':', '='], some d⟩) := by
  obtain ⟨hword, _, hopener, hquote, hslash⟩ := pairs_head hpair
  cases h with
  | malformedInteger hnumber _ =>
    obtain ⟨rfl, rfl⟩ := List.cons.inj htext
    rw [isWordChar_of_isDigit (hnumber.2 _ List.mem_cons_self)] at hword
    cases hword
  | malformedAssignment hd =>
    obtain ⟨rfl, rfl⟩ := List.cons.inj htext
    exact .inr ⟨rfl, _, _, hd, rfl, rfl⟩
  | incompleteOperator hother hnext =>
    obtain ⟨rfl, rfl⟩ := List.cons.inj htext
    obtain rfl := pairs_unique hpair hother
    exact .inl ⟨hnext, rfl⟩
  | unknownCharacter hunknown =>
    obtain ⟨rfl, rfl⟩ := List.cons.inj htext
    exact absurd hopener hunknown.2.2
  | unterminatedComment _ => exact absurd (List.cons.inj htext).1.symm hslash
  | _ => exact absurd (List.cons.inj htext).1.symm hquote

theorem Refused.of_unknown {text : List Char} (h : Refused text refusal) (hc : IsUnknown c)
    (htext : text = c :: cs) : refusal = ⟨.unknownCharacter c, [], some c⟩ := by
  cases h with
  | malformedInteger hnumber _ =>
    obtain ⟨rfl, rfl⟩ := List.cons.inj htext
    have hword := hc.1
    rw [isWordChar_of_isDigit (hnumber.2 _ List.mem_cons_self)] at hword
    cases hword
  | incompleteOperator hpair _ =>
    obtain ⟨rfl, rfl⟩ := List.cons.inj htext
    exact absurd (pairs_head hpair).2.2.1 hc.2.2
  | unknownCharacter _ =>
    obtain ⟨rfl, rfl⟩ := List.cons.inj htext
    rfl
  | _ =>
    obtain ⟨rfl, rfl⟩ := List.cons.inj htext
    exact absurd (by decide) hc.2.2

end FirstCharacter

theorem Refused.unique {text : List Char} {refusal other : Refusal} (h : Refused text refusal)
    (hother : Refused text other) : refusal = other := by
  cases h with
  | @malformedInteger d c digits rest hnumber hc =>
    obtain ⟨digits', c', rest', hnumber', hc', htext, rfl⟩ :=
      hother.of_digit (hnumber.2 d List.mem_cons_self) rfl
    -- Both cut the text at its first character that is no digit.
    obtain ⟨hdigits, hrest⟩ := Text.append_inj_of_boundary htext (p := (isDigit · = true))
      hnumber.2 hnumber'.2 (by simp [isDigit_eq_false_of_isLetter hc])
      (by simp [isDigit_eq_false_of_isLetter hc'])
    obtain ⟨rfl, _⟩ := List.cons.inj hrest
    rw [hdigits]
  | malformedAssignment hc =>
    rcases hother.of_pair (show (':', '=') ∈ pairs by decide) rfl with
      ⟨hnext, _⟩ | ⟨_, d, rest, _, heq, rfl⟩
    · exact absurd rfl hnext
    · obtain ⟨rfl, _⟩ := List.cons.inj (List.cons.inj heq).2
      rfl
  | @newlineInString body rest c hbody hc =>
    rcases hother.of_quote rfl with ⟨body', d, rest', hbody', hd, htext, rfl⟩ | ⟨hplain, _⟩
    · obtain ⟨rfl, hrest⟩ := Text.append_inj_of_boundary htext (p := (isLineBreak · = false))
        (fun e he => (hbody e he).2) (fun e he => (hbody' e he).2) (by simp [hc]) (by simp [hd])
      obtain ⟨rfl, _⟩ := List.cons.inj hrest
      rfl
    · have hbreak := (hplain c (by simp)).2
      rw [hc] at hbreak
      cases hbreak
  | @unterminatedString body hbody =>
    rcases hother.of_quote rfl with ⟨body', d, rest', _, hd, rfl, _⟩ | ⟨_, rfl⟩
    · have hbreak := (hbody d (by simp)).2
      rw [hd] at hbreak
      cases hbreak
    · rfl
  | unterminatedComment _ =>
    obtain ⟨_, _, _, rfl⟩ := hother.of_slash rfl
    rfl
  | incompleteOperator hpair hnext =>
    rcases hother.of_pair hpair rfl with ⟨_, rfl⟩ | ⟨rfl, d, rest, _, rfl, _⟩
    · rfl
    · rw [pairs_unique hpair (show (':', '=') ∈ pairs by decide)] at hnext
      exact absurd rfl hnext
  | unknownCharacter hunknown => rw [hother.of_unknown hunknown rfl]

private theorem operator_of_head {c : Char} {cs : List Char} {kind : Kind}
    (h : Lexeme (c :: cs) kind) (hc : c ∈ openers) (hquote : c ≠ '"') :
    (c :: cs, kind) ∈ operators :=
  h.of_symbol (openers_head hc).1 hquote

private theorem eq_pair_of_head {first second : Char} {cs : List Char} {kind : Kind}
    (h : Lexeme (first :: cs) kind) (hpair : (first, second) ∈ pairs) : cs = [second] := by
  have table : ∀ p ∈ pairs, ∀ q ∈ operators, q.1.head? = some p.1 → q.1 = [p.1, p.2] := by decide
  obtain ⟨_, _, hopener, hquote, _⟩ := pairs_head hpair
  have htext := table _ hpair _ (operator_of_head h hopener hquote) rfl
  exact (List.cons.inj htext).2

theorem Refused.clashes {text lexeme rest : List Char} {refusal : Refusal} {kind : Kind}
    (h : Refused text refusal) (hlexeme : Lexeme lexeme kind) (htext : text = lexeme ++ rest) :
    ∃ c ∈ rest.head?, Clashes lexeme c := by
  obtain ⟨d, ds, rfl, _⟩ := hlexeme.head
  rw [List.cons_append] at htext
  cases h with
  | @malformedInteger d' c digits rest' hdigits hc =>
    obtain ⟨rfl, htail⟩ := List.cons.inj htext
    have hnumber := (hlexeme.of_digit (hdigits.2 _ List.mem_cons_self)).1
    rcases List.append_eq_append_iff.mp htail with ⟨more, hmore, hrest⟩ | ⟨more, hmore, hrest⟩
    · cases more with
      | nil =>
        rw [List.nil_append] at hrest
        exact ⟨c, by rw [← hrest]; rfl, .number hnumber (isWordChar_of_isLetter hc)⟩
      | cons e more =>
        obtain ⟨rfl, _⟩ := List.cons.inj hrest
        have hdigit := hnumber.2 c (by simp [hmore])
        rw [isDigit_eq_false_of_isLetter hc] at hdigit
        cases hdigit
    · cases more with
      | nil => exact ⟨c, by simp [hrest], .number hnumber (isWordChar_of_isLetter hc)⟩
      | cons e more =>
        have hdigit := hdigits.2 e (by simp [hmore])
        exact ⟨e, by simp [hrest], .number hnumber (isWordChar_of_isDigit hdigit)⟩
  | malformedAssignment hc =>
    obtain ⟨rfl, htail⟩ := List.cons.inj htext
    obtain rfl := eq_pair_of_head hlexeme (show (':', '=') ∈ pairs by decide)
    rw [List.singleton_append] at htail
    exact ⟨_, by rw [← (List.cons.inj htail).2]; rfl, .assign hc⟩
  | newlineInString hbody hc =>
    obtain ⟨rfl, htail⟩ := List.cons.inj htext
    obtain ⟨body, hplain, hquoted⟩ := hlexeme.of_quote.1
    rw [(List.cons.inj hquoted).2, List.append_assoc] at htail
    have hcut := Text.append_inj_of_boundary htail
      (p := fun e => e ≠ '"' ∧ isLineBreak e = false) hbody hplain (by simp [hc]) (by simp)
    obtain ⟨rfl, _⟩ := List.cons.inj hcut.2
    exact absurd hc (by decide)
  | unterminatedString hbody =>
    obtain ⟨rfl, htail⟩ := List.cons.inj htext
    obtain ⟨body, _, hquoted⟩ := hlexeme.of_quote.1
    rw [(List.cons.inj hquoted).2] at htail
    exact absurd rfl (hbody '"' (by simp [htail])).1
  | unterminatedComment _ =>
    obtain ⟨rfl, htail⟩ := List.cons.inj htext
    obtain rfl := hlexeme.of_slash
    rw [List.nil_append] at htail
    exact ⟨'*', by rw [← htail]; rfl, .slash (.inr rfl)⟩
  | incompleteOperator hpair hnext =>
    obtain ⟨rfl, htail⟩ := List.cons.inj htext
    obtain rfl := eq_pair_of_head hlexeme hpair
    rw [htail] at hnext
    exact absurd rfl hnext
  | @unknownCharacter c _ hunknown =>
    obtain ⟨rfl, _⟩ := List.cons.inj htext
    have hquote : c ≠ '"' := by
      rintro rfl
      exact absurd (by decide) hunknown.2.2
    have hmem := hlexeme.of_symbol hunknown.1 hquote
    exact absurd (operator_head_mem hmem) hunknown.2.2

private theorem accepted_unique {lexeme other rest tail : List Char} {kind kind' : Kind}
    (h : Lexeme lexeme kind) (hother : Lexeme other kind')
    (hrest : ∀ c ∈ rest.head?, ¬ Clashes lexeme c) (htail : ∀ c ∈ tail.head?, ¬ Clashes other c)
    (htext : lexeme ++ rest = other ++ tail) : lexeme = other := by
  rcases List.append_eq_append_iff.mp htext with ⟨more, hmore, hrest'⟩ | ⟨more, hmore, htail'⟩
  · cases more with
    | nil => rw [hmore, List.append_nil]
    | cons c more =>
      rw [hmore] at hother
      exact absurd (h.clashes_of_append hother) (hrest c (by simp [hrest']))
  · cases more with
    | nil => rw [hmore, List.append_nil]
    | cons c more =>
      rw [hmore] at h
      exact absurd (hother.clashes_of_append h) (htail c (by simp [htail']))

theorem Decides.unique {text other : List Char} {verdict verdict' : Verdict}
    (h : Decides text verdict) (hother : Decides other verdict') (htext : text = other) :
    verdict = verdict' := by
  cases h with
  | finish =>
    cases hother with
    | finish => rfl
    | accept hlexeme _ => exact absurd (List.append_eq_nil_iff.mp htext.symm).1 hlexeme.ne_nil
    | refuse hrefused =>
      subst htext
      cases hrefused
  | accept hlexeme hnext =>
    cases hother with
    | finish => exact absurd (List.append_eq_nil_iff.mp htext).1 hlexeme.ne_nil
    | accept hother hnext' =>
      obtain rfl := accepted_unique hlexeme hother hnext hnext' htext
      rw [hlexeme.kind_unique hother]
    | refuse hrefused =>
      obtain ⟨c, hc, hclash⟩ := hrefused.clashes hlexeme htext.symm
      exact absurd hclash (hnext c hc)
  | refuse hrefused =>
    subst htext
    cases hother with
    | finish => cases hrefused
    | accept hlexeme hnext =>
      obtain ⟨c, hc, hclash⟩ := hrefused.clashes hlexeme rfl
      exact absurd hclash (hnext c hc)
    | refuse hother => rw [hrefused.unique hother]

private theorem Lexeme.head_not_isBlank {c : Char} {cs : List Char} {kind : Kind}
    (h : Lexeme (c :: cs) kind) : isBlank c = false := by
  by_contra hblank
  have hword := isWordChar_eq_false_of_isBlank (Bool.of_not_eq_false hblank)
  have hquote : c ≠ '"' := by
    rintro rfl
    exact hblank (by decide)
  exact hblank (openers_head (operator_head_mem (h.of_symbol hword hquote))).2

private theorem Refused.head_not_isBlank {c : Char} {cs text : List Char} {refusal : Refusal}
    (h : Refused text refusal) (htext : text = c :: cs) : isBlank c = false := by
  by_contra hblank
  have hword := isWordChar_eq_false_of_isBlank (Bool.of_not_eq_false hblank)
  cases h with
  | malformedInteger hnumber _ =>
    obtain ⟨rfl, rfl⟩ := List.cons.inj htext
    rw [isWordChar_of_isDigit (hnumber.2 _ List.mem_cons_self)] at hword
    cases hword
  | incompleteOperator hpair _ =>
    obtain ⟨rfl, rfl⟩ := List.cons.inj htext
    exact hblank (pairs_head hpair).2.1
  | unknownCharacter hunknown =>
    obtain ⟨rfl, rfl⟩ := List.cons.inj htext
    exact hblank hunknown.2.1
  | _ =>
    obtain ⟨rfl, rfl⟩ := List.cons.inj htext
    exact hblank (by decide)

theorem Decides.isBare {text : List Char} {verdict : Verdict} (h : Decides text verdict) :
    IsBare text := by
  intro piece rest htext hpiece
  cases h with
  | finish => cases hpiece <;> simp at htext
  | @accept lexeme tail kind hlexeme hnext =>
    obtain ⟨c, cs, rfl, _⟩ := hlexeme.head
    rw [List.cons_append] at htext
    -- Both comments begin with a slash, and the slash runs into their second character.
    have hcomment : ∀ second more, (second = '/' ∨ second = '*') →
        c :: (cs ++ tail) = '/' :: second :: more → False := by
      intro second more hsecond heq
      obtain ⟨rfl, htail⟩ := List.cons.inj heq
      obtain rfl := hlexeme.of_slash
      rw [List.nil_append] at htail
      exact hnext second (by rw [htail]; rfl) (.slash hsecond)
    cases hpiece with
    | blank hc =>
      obtain ⟨rfl, _⟩ := List.cons.inj htext
      rw [hlexeme.head_not_isBlank] at hc
      cases hc
    | line _ _ => exact hcomment '/' _ (.inl rfl) htext
    | lastLine _ _ => exact hcomment '/' _ (.inl rfl) htext
    | block _ => exact hcomment '*' _ (.inr rfl) htext
  | refuse hrefused =>
    cases hpiece with
    | blank hc =>
      rw [hrefused.head_not_isBlank htext] at hc
      cases hc
    | line _ _ =>
      obtain ⟨_, _, heq, _⟩ := hrefused.of_slash htext
      simp at heq
    | lastLine _ _ =>
      obtain ⟨_, _, heq, _⟩ := hrefused.of_slash htext
      simp at heq
    | @block body _ =>
      obtain ⟨later, hlater, heq, _⟩ := hrefused.of_slash htext
      refine hlater ⟨body, rest, ?_⟩
      simpa using heq

end Lexis
