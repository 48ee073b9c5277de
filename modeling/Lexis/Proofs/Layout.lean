import Lexis.Proofs.Course

/-!
The sources that are accepted. A layout cuts a source into gaps and lexemes by turns. A source has
many layouts, but at most one in which no lexeme clashes with what follows it
(`Layout.eq_of_separated`): the lexemes of that layout are the tokens of the source, and a source
without such a layout is not accepted.
-/

set_option autoImplicit false
set_option relaxedAutoImplicit false

namespace Lexis

/-- A text as gaps and lexemes by turns, with a gap at both ends. -/
inductive Layout : List Char → Type
  | finish {gap : List Char} : Gap [] gap → Layout gap
  | lexeme {gap text rest : List Char} {kind : Kind} : Gap (text ++ rest) gap →
      Lexeme text kind → Layout rest → Layout (gap ++ (text ++ rest))

def Token.content (t : Token) : Kind × String × Span := (t.kind, t.text, t.span)

namespace Layout

/-- The lexemes of a layout that begins at the offset, as tokens, and the end of the source. -/
def contents {source : List Char} (layout : Layout source) (offset : Offset) :
    List (Kind × String × Span) :=
  match layout with
  | @finish gap _ =>
    let stop := offset + Text.width gap
    [(.endOfInput, "", { start := stop, stop })]
  | @lexeme gap text _ kind _ _ rest =>
    let start := offset + Text.width gap
    let stop := start + Text.width text
    (kind, String.ofList text, { start, stop }) :: rest.contents stop

/-- The lexeme clashes with the layout behind it: with the first character of the next lexeme if
no gap stands between them, and a slash also with a gap that begins with a comment. -/
def ClashesWith (lexeme : List Char) {source : List Char} : Layout source → Prop
  | @finish gap _ => lexeme = ['/'] ∧ gap.head? = some '/'
  | @Layout.lexeme gap text _ _ _ _ _ =>
    (gap = [] ∧ ∃ c ∈ text.head?, Clashes lexeme c) ∨ (lexeme = ['/'] ∧ gap.head? = some '/')

def Separated {source : List Char} : Layout source → Prop
  | finish _ => True
  | @lexeme _ text _ _ _ _ rest => ¬ rest.ClashesWith text ∧ rest.Separated

end Layout

section Clashes

variable {text : List Char} {c : Char}

theorem Clashes.isBlank_eq_false (h : Clashes text c) : isBlank c = false := by
  have hword : isWordChar c = true → isBlank c = false := by
    intro hc
    by_contra hblank
    rw [isWordChar_eq_false_of_isBlank (Bool.of_not_eq_false hblank)] at hc
    cases hc
  cases h with
  | word _ hc => exact hword hc
  | number _ hc => exact hword hc
  | assign hc => exact hword hc
  | less hc => rcases hc with rfl | rfl <;> decide
  | greater hc => subst hc; decide
  | slash hc => rcases hc with rfl | rfl <;> decide

theorem Clashes.eq_slash (h : Clashes text '/') : text = ['/'] := by
  cases h with
  | word _ hc => exact absurd hc (by decide)
  | number _ hc => exact absurd hc (by decide)
  | assign hc => exact absurd hc (by decide)
  | less hc => exact absurd hc (by decide)
  | greater hc => exact absurd hc (by decide)
  | slash _ => rfl

private theorem clashes_gap_iff {rest gap : List Char} (h : Gap rest gap)
    (hc : gap.head? = some c) : Clashes text c ↔ text = ['/'] ∧ gap.head? = some '/' := by
  constructor
  · intro hclash
    rcases h.head_eq hc with hblank | rfl
    · rw [hclash.isBlank_eq_false] at hblank
      cases hblank
    · exact ⟨hclash.eq_slash, hc⟩
  · rintro ⟨rfl, hslash⟩
    obtain rfl := Option.some.inj (hc.symm.trans hslash)
    exact .slash (.inl rfl)

end Clashes

namespace Layout

theorem clashesWith_iff {lexeme source : List Char} (layout : Layout source) :
    layout.ClashesWith lexeme ↔ ∃ c ∈ source.head?, Clashes lexeme c := by
  cases layout with
  | finish hgap =>
    cases source with
    | nil => simp [ClashesWith]
    | cons c gap =>
      simpa [ClashesWith] using (clashes_gap_iff hgap (c := c) rfl).symm
  | @lexeme gap text rest kind hgap hlexeme next =>
    cases gap with
    | nil =>
      obtain ⟨c, cs, rfl, _⟩ := hlexeme.head
      simp [ClashesWith]
    | cons c gap =>
      simpa [ClashesWith] using (clashes_gap_iff hgap (c := c) rfl).symm

theorem not_clashesWith_iff {lexeme source : List Char} (layout : Layout source) :
    ¬ layout.ClashesWith lexeme ↔ ∀ c ∈ source.head?, ¬ Clashes lexeme c := by
  rw [clashesWith_iff]
  simp only [not_exists, not_and]

variable {source other : List Char}

theorem ahead_of_not_clashesWith {gap text rest : List Char} {kind : Kind}
    (hgap : Gap (text ++ rest) gap) (hlexeme : Lexeme text kind) (layout : Layout rest)
    (h : ¬ layout.ClashesWith text) :
    Ahead (gap ++ (text ++ rest)) gap (text ++ rest) (.accept text kind) :=
  ⟨rfl, hgap, .accept hlexeme (layout.not_clashesWith_iff.mp h)⟩

private theorem ahead_finish {gap : List Char} (h : Gap [] gap) : Ahead gap gap [] .finish :=
  ⟨(List.append_nil gap).symm, h, .finish⟩

private theorem heq_of_separated (layout : Layout source) (layout' : Layout other)
    (htext : source = other) (h : layout.Separated) (h' : layout'.Separated) :
    HEq layout layout' := by
  induction layout generalizing other with
  | @finish gap hgap =>
    have hahead := ahead_finish hgap
    cases layout' with
    | finish _ =>
      subst htext
      rfl
    | lexeme hgap' hlexeme rest =>
      rw [htext] at hahead
      have hother := ahead_of_not_clashesWith hgap' hlexeme rest h'.1
      exact absurd (hahead.unique hother).2.2 Verdict.noConfusion
  | @lexeme gap text rest kind hgap hlexeme next ih =>
    have hahead := ahead_of_not_clashesWith hgap hlexeme next h.1
    cases layout' with
    | finish hgap' =>
      rw [htext] at hahead
      exact absurd (hahead.unique (ahead_finish hgap')).2.2 Verdict.noConfusion
    | lexeme hgap' hlexeme' next' =>
      have hother := ahead_of_not_clashesWith hgap' hlexeme' next' h'.1
      rw [htext] at hahead
      obtain ⟨rfl, htail, hverdict⟩ := hahead.unique hother
      obtain ⟨rfl, rfl⟩ := Verdict.accept.inj hverdict
      obtain rfl := List.append_cancel_left htail
      obtain rfl := eq_of_heq (ih next' rfl h.2 h'.2)
      rfl

theorem eq_of_separated {layout layout' : Layout source} (h : layout.Separated)
    (h' : layout'.Separated) : layout = layout' :=
  eq_of_heq (heq_of_separated layout layout' rfl h h')

private theorem finish_item (c : Cursor) : ∃ token, Verdict.finish.item c = .ok token ∧
    token.content = (.endOfInput, "", { start := c.offset, stop := c.offset }) :=
  ⟨_, rfl, rfl⟩

private theorem accept_item (c : Cursor) (text : List Char) (kind : Kind) :
    ∃ token, (Verdict.accept text kind).item c = .ok token ∧ token.content =
      (kind, String.ofList text, { start := c.offset, stop := c.offset + Text.width text }) :=
  ⟨_, rfl, rfl⟩

private theorem eq_of_accept_item {c : Cursor} {text text' : List Char} {kind kind' : Kind}
    {token : Token} {span : Span} (hitem : (Verdict.accept text kind).item c = .ok token)
    (hcontent : token.content = (kind', String.ofList text', span)) :
    text = text' ∧ c.offset = span.start := by
  obtain rfl := Except.ok.inj hitem
  obtain ⟨_, hrest⟩ := Prod.mk.inj hcontent
  obtain ⟨htext, hspan⟩ := Prod.mk.inj hrest
  exact ⟨String.ofList_injective htext, congrArg Span.start hspan⟩

private theorem eq_of_ahead {c : Cursor} {gap gap' text text' rest tail : List Char}
    {kind kind' : Kind} {token : Token} {stop : Offset}
    (hahead : Ahead c.rest gap tail (.accept text kind)) (hrest : c.rest = gap' ++ (text' ++ rest))
    (hitem : (Verdict.accept text kind).item (c.after gap) = .ok token)
    (hcontent : token.content =
      (kind', String.ofList text', { start := c.offset + Text.width gap', stop })) :
    gap = gap' ∧ text = text' ∧ ∀ c ∈ rest.head?, ¬ Clashes text c := by
  obtain ⟨rfl, hoffset⟩ := eq_of_accept_item hitem hcontent
  have hwidth : Text.width gap = Text.width gap' := by
    rw [Cursor.offset_after hahead.text_eq] at hoffset
    exact Nat.add_left_cancel hoffset
  have hsplit : gap ++ tail = gap' ++ (text ++ rest) := hahead.text_eq.symm.trans hrest
  obtain ⟨rfl, rfl⟩ := Text.append_inj_of_width hsplit hwidth
  obtain ⟨_, rest', hwhole, hnext⟩ := hahead.decides.accepted
  obtain rfl := List.append_cancel_left hwhole
  exact ⟨rfl, rfl, hnext⟩

theorem course_of_separated (layout : Layout source) {c : Cursor} (hrest : c.rest = source)
    (h : layout.Separated) :
    ∃ tokens : List Token, Course c (tokens.map .ok) ∧
      tokens.map Token.content = layout.contents c.offset := by
  induction layout generalizing c with
  | @finish gap hgap =>
    have hahead : Ahead c.rest gap [] .finish := by
      rw [hrest]
      exact ahead_finish hgap
    have hoffset := Cursor.offset_after hahead.text_eq
    obtain ⟨token, hitem, hcontent⟩ := finish_item (c.after gap)
    refine ⟨[token], ?_, ?_⟩
    · rw [List.map_singleton, ← hitem]
      exact .finish hahead
    · rw [List.map_singleton, hcontent, hoffset]
      rfl
  | @lexeme gap text rest kind hgap hlexeme next ih =>
    have hahead := ahead_of_not_clashesWith hgap hlexeme next h.1
    rw [← hrest] at hahead
    have hsplit : c.rest = gap ++ text ++ rest := by rw [hrest, List.append_assoc]
    have hstart := Cursor.offset_after hahead.text_eq
    have hstop := Cursor.offset_after hsplit
    obtain ⟨tokens, hcourse, hcontents⟩ := ih (Cursor.rest_after hsplit) h.2
    obtain ⟨token, hitem, hcontent⟩ := accept_item (c.after gap) text kind
    refine ⟨token :: tokens, ?_, ?_⟩
    · rw [List.map_cons, ← hitem]
      exact .cons hahead Verdict.noConfusion hcourse
    · rw [List.map_cons, hcontent, hcontents, hstop, hstart, Text.width_append, ← Nat.add_assoc]
      rfl

theorem separated_of_course (layout : Layout source) {c : Cursor} {items : List Item}
    {tokens : List Token} (hrest : c.rest = source) (hcourse : Course c items)
    (hitems : items = tokens.map .ok)
    (hcontents : tokens.map Token.content = layout.contents c.offset) : layout.Separated := by
  induction layout generalizing c items tokens with
  | finish _ => trivial
  | @lexeme gap text rest kind hgap hlexeme next ih =>
    obtain ⟨token, later, rfl, hcontent, hlater⟩ := List.map_eq_cons_iff.mp hcontents
    rw [List.map_cons] at hitems
    cases hcourse with
    | @finish _ gap' _ =>
      obtain ⟨last, hitem, hlast⟩ := finish_item (c.after gap')
      rw [hitem] at hitems
      obtain rfl := Except.ok.inj (List.cons.inj hitems).1
      rw [hcontent] at hlast
      exact absurd (Prod.mk.inj hlast).1 hlexeme.kind_ne_endOfInput
    | @cons _ gap' tail verdict items hahead hfinish hcourse =>
      obtain ⟨hitem, rfl⟩ := List.cons.inj hitems
      cases verdict with
      | finish => exact absurd rfl hfinish
      | refuse refusal => cases hitem
      | accept text' kind' =>
        obtain ⟨rfl, rfl, hnext⟩ := eq_of_ahead hahead hrest hitem hcontent
        have hnow : c.rest = gap' ++ text' ++ rest := by rw [hrest, List.append_assoc]
        refine ⟨next.not_clashesWith_iff.mpr hnext, ih (Cursor.rest_after hnow) hcourse rfl ?_⟩
        have hstop : (c.after (gap' ++ text')).offset =
            c.offset + Text.width gap' + Text.width text' := by
          rw [Cursor.offset_after hnow, Text.width_append, Nat.add_assoc]
        rw [hstop]
        exact hlater

theorem exists_separated_of_course {c : Cursor} {items : List Item} {tokens : List Token}
    (hcourse : Course c items) (hitems : items = tokens.map .ok) (hrest : c.rest = source) :
    ∃ layout : Layout source, layout.Separated := by
  induction hcourse generalizing source tokens with
  | @finish c gap hahead =>
    have hgap : source = gap := by rw [← hrest, hahead.text_eq, List.append_nil]
    subst hgap
    exact ⟨.finish hahead.gap, trivial⟩
  | @cons c gap tail verdict items hahead hfinish _ ih =>
    cases tokens with
    | nil => cases hitems
    | cons token tokens =>
      obtain ⟨hitem, hlater⟩ := List.cons.inj hitems
      cases verdict with
      | finish => exact absurd rfl hfinish
      | refuse refusal => cases hitem
      | accept text kind =>
        obtain ⟨hlexeme, rest, rfl, hnext⟩ := hahead.decides.accepted
        have hsplit : c.rest = gap ++ text ++ rest := by
          rw [hahead.text_eq, List.append_assoc]
        obtain ⟨layout, hlayout⟩ := ih hlater (Cursor.rest_after hsplit)
        obtain rfl := hrest.symm.trans hahead.text_eq
        exact ⟨.lexeme hahead.gap hlexeme layout, layout.not_clashesWith_iff.mpr hnext, hlayout⟩

end Layout

/-- The language of accepted sources. Cut a source into gaps and lexemes in any way: the lexemes
are its tokens, each with its kind, text and span, and with the end of the source behind them,
exactly when no lexeme clashes with what follows it. There is at most one such way, and a source
that has none is not accepted. -/
theorem lex_eq_ok_iff_separated (source : String) :
    (∀ layout : Layout source.toList,
      (∃ tokens, lex source = .ok tokens ∧ tokens.map Token.content = layout.contents 0) ↔
        layout.Separated) ∧
    ((∃ tokens, lex source = .ok tokens) ↔ ∃ layout : Layout source.toList, layout.Separated) ∧
    (∀ layout layout' : Layout source.toList,
      layout.Separated → layout'.Separated → layout = layout') := by
  have haccepted : ∀ layout : Layout source.toList, layout.Separated →
      ∃ tokens, lex source = .ok tokens ∧ tokens.map Token.content = layout.contents 0 := by
    intro layout h
    obtain ⟨tokens, hcourse, hcontents⟩ :=
      layout.course_of_separated (c := Cursor.ofString source) rfl h
    exact ⟨tokens, lex_eq_ok_iff.mpr (course_iff.mp hcourse), hcontents⟩
  refine ⟨fun layout => ⟨?_, haccepted layout⟩, ⟨?_, ?_⟩, fun _ _ => Layout.eq_of_separated⟩
  · rintro ⟨tokens, hlex, hcontents⟩
    exact layout.separated_of_course (c := Cursor.ofString source) rfl (course_items source)
      (lex_eq_ok_iff.mp hlex) hcontents
  · rintro ⟨tokens, hlex⟩
    exact Layout.exists_separated_of_course (course_items source) (lex_eq_ok_iff.mp hlex) rfl
  · rintro ⟨layout, hlayout⟩
    obtain ⟨tokens, hlex, _⟩ := haccepted layout hlayout
    exact ⟨tokens, hlex⟩

end Lexis
