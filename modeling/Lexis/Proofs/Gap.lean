import Lexis.Alphabet
import Lexis.Proofs.Splitting

/-!
What may stand between two lexemes: blanks and complete comments. A text begins with at most one
blank or comment, so in front of a text that begins with neither there is only one gap, and it is
longer than all others (`Gap.prefix_of_bare`).
-/

set_option autoImplicit false
set_option relaxedAutoImplicit false

namespace Lexis

/-- A blank or a complete comment in front of the rest of the source. A line comment ends with its
line, or with the source; a block comment ends with the first end that it contains. -/
inductive Filler (rest : List Char) : List Char → Prop
  | blank {c : Char} : isBlank c = true → Filler rest [c]
  | line {body : List Char} {c : Char} :
      (∀ d ∈ body, isLineBreak d = false) → isLineBreak c = true →
      Filler rest ('/' :: '/' :: (body ++ [c]))
  | lastLine {body : List Char} :
      (∀ d ∈ body, isLineBreak d = false) → rest = [] → Filler rest ('/' :: '/' :: body)
  | block {body : List Char} :
      ¬ ['*', '/'] <:+: body → Filler rest ('/' :: '*' :: (body ++ ['*', '/']))

inductive Gap (rest : List Char) : List Char → Prop
  | nil : Gap rest []
  | cons {piece gap : List Char} : Filler (gap ++ rest) piece → Gap rest gap →
      Gap rest (piece ++ gap)

theorem Gap.cons_blank {rest gap : List Char} {c : Char} (h : Gap rest gap)
    (hc : isBlank c = true) : Gap rest (c :: gap) :=
  .cons (.blank hc) h

theorem Filler.of_rest {rest other piece : List Char} (h : Filler rest piece)
    (hother : rest = [] → other = []) : Filler other piece := by
  cases h with
  | blank hc => exact .blank hc
  | line hbody hc => exact .line hbody hc
  | lastLine hbody hrest => exact .lastLine hbody (hother hrest)
  | block hbody => exact .block hbody

theorem Gap.of_rest {rest other gap : List Char} (h : Gap rest gap)
    (hother : rest = [] → other = []) : Gap other gap := by
  induction h with
  | nil => exact .nil
  | @cons piece gap hpiece _ ih =>
    refine .cons (hpiece.of_rest ?_) ih
    intro hnil
    obtain ⟨rfl, hrest⟩ := List.append_eq_nil_iff.mp hnil
    exact hother hrest

theorem Gap.append {rest gap more : List Char} (h : Gap (more ++ rest) gap)
    (hmore : Gap rest more) : Gap rest (gap ++ more) := by
  induction h with
  | nil => exact hmore
  | cons hpiece _ ih =>
    rw [List.append_assoc]
    rw [← List.append_assoc] at hpiece
    exact .cons hpiece ih

def IsBare (text : List Char) : Prop :=
  ∀ piece rest, text = piece ++ rest → ¬ Filler rest piece

section Comments

variable {body other rest tail : List Char}

private theorem line_unique {c d : Char}
    (h : body ++ c :: rest = other ++ d :: tail)
    (hbody : ∀ e ∈ body, isLineBreak e = false) (hother : ∀ e ∈ other, isLineBreak e = false)
    (hc : isLineBreak c = true) (hd : isLineBreak d = true) :
    body = other ∧ c :: rest = d :: tail :=
  Text.append_inj_of_boundary h (p := (isLineBreak · = false)) hbody hother
    (by simp [hc]) (by simp [hd])

private theorem not_lastLine {c : Char} (h : body ++ c :: rest = other)
    (hother : ∀ e ∈ other, isLineBreak e = false) (hc : isLineBreak c = true) : False := by
  have hnot := hother c (by simp [← h])
  rw [hc] at hnot
  cases hnot

end Comments

private theorem not_isBlank_slash : isBlank '/' ≠ true := by decide

theorem Filler.unique {piece other rest tail : List Char} (h : Filler rest piece)
    (hother : Filler tail other) (heq : piece ++ rest = other ++ tail) : piece = other := by
  cases h with
  | blank hc =>
    cases hother with
    | blank hd =>
      obtain ⟨rfl, _⟩ := List.cons.inj heq
      rfl
    | _ =>
      obtain ⟨rfl, _⟩ := List.cons.inj heq
      exact absurd hc not_isBlank_slash
  | line hbody hc =>
    cases hother with
    | blank hd =>
      obtain ⟨rfl, _⟩ := List.cons.inj heq
      exact absurd hd not_isBlank_slash
    | line hother hd =>
      simp only [List.cons_append, List.append_assoc, List.cons.injEq, true_and,
        List.nil_append] at heq
      obtain ⟨rfl, hrest⟩ := line_unique heq hbody hother hc hd
      obtain ⟨rfl, _⟩ := List.cons.inj hrest
      rfl
    | lastLine hother htail =>
      subst htail
      simp only [List.cons_append, List.append_assoc, List.cons.injEq, true_and,
        List.nil_append, List.append_nil] at heq
      exact (not_lastLine heq hother hc).elim
    | block hother => simp at heq
  | lastLine hbody hrest =>
    subst hrest
    cases hother with
    | blank hd =>
      obtain ⟨rfl, _⟩ := List.cons.inj heq
      exact absurd hd not_isBlank_slash
    | line hother hd =>
      simp only [List.cons_append, List.append_assoc, List.cons.injEq, true_and,
        List.nil_append, List.append_nil] at heq
      exact (not_lastLine heq.symm hbody hd).elim
    | lastLine hother htail =>
      subst htail
      simpa using heq
    | block hother => simp at heq
  | block hbody =>
    cases hother with
    | blank hd =>
      obtain ⟨rfl, _⟩ := List.cons.inj heq
      exact absurd hd not_isBlank_slash
    | line hother hd => simp at heq
    | lastLine hother htail => simp at heq
    | block hother =>
      simp only [List.cons_append, List.append_assoc, List.cons.injEq, true_and,
        List.nil_append] at heq
      obtain ⟨rfl, _⟩ := Text.append_inj_of_first_close heq hbody hother
      rfl

theorem Gap.head_eq {rest gap : List Char} {c : Char} (h : Gap rest gap)
    (hc : gap.head? = some c) : isBlank c = true ∨ c = '/' := by
  cases h with
  | nil => cases hc
  | cons hpiece _ =>
    cases hpiece with
    | blank hblank =>
      obtain rfl := Option.some.inj hc
      exact .inl hblank
    | _ =>
      obtain rfl := Option.some.inj hc
      exact .inr rfl

/-- In front of a bare text all other gaps are beginnings of the one that ends there. -/
theorem Gap.prefix_of_bare {gap text other rest : List Char} (h : Gap text gap)
    (hbare : IsBare text) (hother : Gap rest other) (heq : other ++ rest = gap ++ text) :
    other <+: gap := by
  induction hother generalizing gap with
  | nil => exact List.nil_prefix
  | @cons piece more hpiece _ ih =>
    cases h with
    | nil => exact absurd hpiece (hbare piece (more ++ rest) (by simpa using heq.symm))
    | @cons first later hfirst hlater =>
      rw [List.append_assoc, List.append_assoc] at heq
      obtain rfl := hpiece.unique hfirst heq
      exact (List.prefix_append_right_inj piece).mpr
        (ih hlater (List.append_cancel_left heq))

theorem Gap.unique {gap text other rest : List Char} (h : Gap text gap) (hbare : IsBare text)
    (hother : Gap rest other) (hrest : IsBare rest) (heq : gap ++ text = other ++ rest) :
    gap = other ∧ text = rest := by
  have hle := h.prefix_of_bare hbare hother heq.symm
  have hge := hother.prefix_of_bare hrest h heq
  obtain rfl := hge.eq_of_length (le_antisymm hge.length_le hle.length_le)
  exact ⟨rfl, List.append_cancel_left heq⟩

end Lexis
