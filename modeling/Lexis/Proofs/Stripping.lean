import Lexis.Proofs.Course

/-!
What is left of a source when its blanks and its comments are taken out. The stripper does this in
one pass and knows nothing of lexemes. It leaves out a gap (`Gap.strip_append`) and keeps a lexeme
that ends in front of the next character (`Lexeme.strip_append`), so from an accepted source it
makes the texts of the tokens (`join_texts_eq_strip`).
-/

set_option autoImplicit false
set_option relaxedAutoImplicit false

namespace Lexis

inductive Mode where
  | code
  | string
  | lineComment
  | blockComment
  deriving DecidableEq, Repr

/-- What a mode leaves of a text. Comments begin with two characters and end with their line or
with two characters, strings begin and end with a quote. -/
@[simp] def strip : Mode → List Char → List Char
  | _, [] => []
  | .code, '/' :: '/' :: rest => strip .lineComment rest
  | .code, '/' :: '*' :: rest => strip .blockComment rest
  | .code, '"' :: rest => '"' :: strip .string rest
  | .code, c :: rest => if isBlank c then strip .code rest else c :: strip .code rest
  | .string, '"' :: rest => '"' :: strip .code rest
  | .string, c :: rest => c :: strip .string rest
  | .lineComment, c :: rest => strip (if isLineBreak c then .code else .lineComment) rest
  | .blockComment, '*' :: '/' :: rest => strip .code rest
  | .blockComment, _ :: rest => strip .blockComment rest

example : strip .code "a /*\"/*/ \"//\" // \"\r/ b/***/".toList = "a\"//\"/b".toList := by
  decide +kernel

section Comments

variable {body rest : List Char} {c : Char}

theorem strip_blank (h : isBlank c = true) : strip .code (c :: rest) = strip .code rest := by
  have hslash : c ≠ '/' := by
    rintro rfl
    exact absurd h (by decide)
  have hquote : c ≠ '"' := by
    rintro rfl
    exact absurd h (by decide)
  rw [strip, if_pos h]
  · intro _ hc
    exact absurd hc hslash
  · intro _ hc
    exact absurd hc hslash
  · exact hquote

theorem strip_lineComment (h : ∀ d ∈ body, isLineBreak d = false) :
    strip .lineComment (body ++ rest) = strip .lineComment rest := by
  induction body with
  | nil => rfl
  | cons d body ih =>
    obtain ⟨hd, hbody⟩ := List.forall_mem_cons.mp h
    rw [List.cons_append, strip, hd]
    exact ih hbody

theorem strip_blockComment (h : ¬ ['*', '/'] <:+: body) :
    strip .blockComment (body ++ '*' :: '/' :: rest) = strip .code rest := by
  induction body with
  | nil => rw [List.nil_append, strip]
  | cons d body ih =>
    have hbody : ¬ ['*', '/'] <:+: body := fun hclose => h (List.infix_cons hclose)
    rw [List.cons_append, strip]
    · exact ih hbody
    · -- An end that begins with this character would be inside the body.
      rintro later rfl hlater
      cases body with
      | nil => simp at hlater
      | cons e body =>
        obtain ⟨rfl, _⟩ := List.cons.inj hlater
        exact h ⟨[], body, rfl⟩

theorem Filler.strip_append {piece : List Char} (h : Filler rest piece) :
    strip .code (piece ++ rest) = strip .code rest := by
  cases h with
  | blank hc => exact strip_blank hc
  | @line body c hbody hc =>
    have htext : '/' :: '/' :: (body ++ [c]) ++ rest = '/' :: '/' :: (body ++ c :: rest) := by simp
    rw [htext, strip, strip_lineComment hbody, strip, if_pos hc]
  | @lastLine body hbody hrest =>
    subst hrest
    rw [List.append_nil]
    calc
      strip .code ('/' :: '/' :: body) = strip .lineComment (body ++ []) := by
        rw [strip, List.append_nil]
      _ = strip .lineComment [] := strip_lineComment hbody
      _ = strip .code [] := by rw [strip, strip]
  | @block body hbody =>
    have htext : '/' :: '*' :: (body ++ ['*', '/']) ++ rest =
        '/' :: '*' :: (body ++ '*' :: '/' :: rest) := by simp
    rw [htext, strip, strip_blockComment hbody]

theorem Gap.strip_append {gap : List Char} (h : Gap rest gap) :
    strip .code (gap ++ rest) = strip .code rest := by
  induction h with
  | nil => rfl
  | cons hpiece _ ih => rw [List.append_assoc, hpiece.strip_append, ih]

end Comments

def IsOrdinary (c : Char) : Prop := isBlank c = false ∧ c ≠ '"' ∧ c ≠ '/'

section Lexemes

variable {text rest : List Char} {c : Char}

theorem isOrdinary_of_isWordChar (h : isWordChar c = true) : IsOrdinary c := by
  refine ⟨?_, ?_, ?_⟩
  · by_contra hblank
    rw [isWordChar_eq_false_of_isBlank (Bool.of_not_eq_false hblank)] at h
    cases h
  · rintro rfl
    exact absurd h (by decide)
  · rintro rfl
    exact absurd h (by decide)

theorem strip_ordinary (h : ∀ c ∈ text, IsOrdinary c) :
    strip .code (text ++ rest) = text ++ strip .code rest := by
  induction text with
  | nil => rfl
  | cons c text ih =>
    obtain ⟨⟨hblank, hquote, hslash⟩, htext⟩ := List.forall_mem_cons.mp h
    rw [List.cons_append, strip, hblank, ih htext]
    · rfl
    · intro _ hc
      exact absurd hc hslash
    · intro _ hc
      exact absurd hc hslash
    · exact hquote

theorem strip_slash (h : ∀ c ∈ rest.head?, c ≠ '/' ∧ c ≠ '*') :
    strip .code ('/' :: rest) = '/' :: strip .code rest := by
  have hblank : isBlank '/' = false := by decide
  rw [strip, hblank]
  · rfl
  · rintro later - rfl
    exact (h '/' rfl).1 rfl
  · rintro later - rfl
    exact (h '*' rfl).2 rfl
  · decide

theorem strip_string {body : List Char} (h : IsPlain body) :
    strip .string (body ++ '"' :: rest) = body ++ '"' :: strip .code rest := by
  induction body with
  | nil => rw [List.nil_append, List.nil_append, strip]
  | cons c body ih =>
    obtain ⟨⟨hquote, _⟩, hbody⟩ := List.forall_mem_cons.mp h
    rw [List.cons_append, List.cons_append, strip, ih hbody]
    exact hquote

theorem Lexeme.strip_append {kind : Kind} (h : Lexeme text kind)
    (hnext : ∀ c ∈ rest.head?, ¬ Clashes text c) :
    strip .code (text ++ rest) = text ++ strip .code rest := by
  obtain ⟨c, cs, rfl, ⟨hc, hword, _⟩ | ⟨_, hnumber, _⟩ | ⟨_, hquoted, _⟩ | ⟨_, _, hmem⟩⟩ := h.head
  · apply strip_ordinary
    intro d hd
    rcases List.mem_cons.mp hd with rfl | hd
    · exact isOrdinary_of_isWordChar (isWordChar_of_isLetter hc)
    · exact isOrdinary_of_isWordChar (hword.2 d hd)
  · exact strip_ordinary fun d hd =>
      isOrdinary_of_isWordChar (isWordChar_of_isDigit (hnumber.2 d hd))
  · obtain ⟨body, hplain, hbody⟩ := hquoted
    have htext : '"' :: (body ++ ['"']) ++ rest = '"' :: (body ++ '"' :: rest) := by simp
    rw [hbody, htext, strip, strip_string hplain]
    simp
  · by_cases hslash : c :: cs = ['/']
    · obtain ⟨rfl, rfl⟩ := List.cons.inj hslash
      apply strip_slash
      intro d hd
      constructor
      · rintro rfl
        exact hnext '/' hd (.slash (.inl rfl))
      · rintro rfl
        exact hnext '*' hd (.slash (.inr rfl))
    · have table : ∀ p ∈ operators, p.1 = ['/'] ∨
          p.1.all (fun d => !isBlank d && d != '"' && d != '/') = true := by decide
      have hall := (table _ hmem).resolve_left hslash
      apply strip_ordinary
      intro d hd
      simpa [IsOrdinary, and_assoc] using List.all_eq_true.mp hall d hd

end Lexemes

theorem Course.flatMap_text {c : Cursor} {items : List Item} {tokens : List Token}
    (h : Course c items) (hitems : items = tokens.map .ok) :
    tokens.flatMap (·.text.toList) = strip .code c.rest := by
  induction h generalizing tokens with
  | @finish c gap hahead =>
    obtain ⟨token, rfl, hitem⟩ := List.map_eq_singleton_iff.mp hitems.symm
    obtain rfl := Except.ok.inj hitem
    rw [hahead.text_eq, hahead.gap.strip_append]
    rfl
  | @cons c gap tail verdict items hahead hfinish _ ih =>
    obtain ⟨token, later, rfl, hitem, hlater⟩ := List.map_eq_cons_iff.mp hitems.symm
    cases verdict with
    | finish => exact absurd rfl hfinish
    | refuse refusal => cases hitem
    | accept lexeme kind =>
      obtain rfl := Except.ok.inj hitem
      obtain ⟨hlexeme, rest, rfl, hnext⟩ := hahead.decides.accepted
      have hrest : c.rest = (gap ++ lexeme) ++ rest := by rw [hahead.text_eq, List.append_assoc]
      have htail : (c.after (gap ++ lexeme)).rest = rest := Cursor.rest_after hrest
      have hthere := ih hlater.symm
      change _ = strip .code (c.after (gap ++ lexeme)).rest at hthere
      rw [htail] at hthere
      rw [hahead.text_eq, hahead.gap.strip_append, hlexeme.strip_append hnext, List.flatMap_cons,
        hthere, String.toList_ofList]

/-- The texts of the tokens of an accepted source, joined, are the source without its blanks and its
comments. -/
theorem join_texts_eq_strip {source : String} {tokens : List Token} (h : lex source = .ok tokens) :
    String.join (tokens.map (·.text)) = String.ofList (strip .code source.toList) := by
  have hstrip := (course_items source).flatMap_text (lex_eq_ok_iff.mp h)
  apply String.toList_injective
  rw [String.toList_join, String.toList_ofList, List.flatMap_map]
  exact hstrip

theorem join_texts_eq_strip_markers :
    ∃ tokens, lex "a/*\"/*/ / \"//\"// \"" = .ok tokens ∧
      String.join (tokens.map (·.text)) = "a/\"//\"" := by
  have haccepted : (lex "a/*\"/*/ / \"//\"// \"").isOk = true := by decide +kernel
  cases h : lex "a/*\"/*/ / \"//\"// \"" with
  | error errors =>
    rw [h] at haccepted
    cases haccepted
  | ok tokens => exact ⟨tokens, rfl, (join_texts_eq_strip h).trans (by decide +kernel)⟩

end Lexis
