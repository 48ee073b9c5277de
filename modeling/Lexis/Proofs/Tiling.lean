import Lexis.Proofs.Course

/-!
Nothing of a source is lost. The spans of the items, whether tokens or errors, and the gaps between
them lie one behind the other from the beginning of the source to its end, and each item says what
stands in its span.
-/

set_option autoImplicit false
set_option relaxedAutoImplicit false

namespace Lexis

def Item.span : Item → Span
  | .ok token => token.span
  | .error error => error.span

/-- The item says what the source has in its span. Of a comment without an end only the slash is
said; its span goes from there to the end of the source. -/
def Item.Covers (source : String) : Item → Prop
  | .ok token => token.span.lookup? source = some token.text
  | .error error =>
    if error.fault = .unterminatedComment then
      error.lexeme = "/" ∧ error.offending = none ∧
        error.span.stop = Text.width source.toList ∧
        ∃ text, ['/', '*'] <+: text ∧ error.span.lookup? source = some (String.ofList text)
    else
      error.span.lookup? source = some (error.lexeme ++ String.ofList error.offending.toList)

/-- The second span is not before the first, and the source has a gap between them. -/
def GapBetween (source : String) (s t : Span) : Prop :=
  ∃ front gap rest, source.toList = front ++ gap ++ rest ∧ s.stop = Text.width front ∧
    t.start = Text.width (front ++ gap) ∧ Gap rest gap

/-- The spans together with what is between them, from the offset on. -/
def tiles (start : Offset) : List Span → List Span
  | [] => []
  | s :: spans => { start, stop := s.start } :: s :: tiles s.stop spans

def HoldsAt (spans : List Span) (n i : Nat) : Prop :=
  ∃ s, spans[i]? = some s ∧ s.start ≤ n ∧ n < s.stop

structure Tiles (source : String) (items : List Item) : Prop where
  covers : ∀ item ∈ items, item.Covers source
  gaps : List.IsChain (GapBetween source) ({ start := 0, stop := 0 } :: items.map Item.span)
  finish : ∃ before last, items = before ++ [.ok last] ∧
    (∀ item ∈ before, item.isEnd = false ∧ item.span.start < item.span.stop) ∧
    last.isEnd = true ∧ last.text = "" ∧
    last.span = { start := Text.width source.toList, stop := Text.width source.toList }
  /-- Each byte is in exactly one of the spans and the gaps. -/
  bytes : ∀ n < Text.width source.toList, ∃! i, HoldsAt (tiles 0 (items.map Item.span)) n i

inductive Abut : Nat → List Span → Nat → Prop
  | nil {a : Nat} : Abut a [] a
  | cons {s : Span} {spans : List Span} {b : Nat} : s.start ≤ s.stop → Abut s.stop spans b →
      Abut s.start (s :: spans) b

section Abut

variable {a b : Nat} {spans : List Span}

theorem Abut.le_start (h : Abut a spans b) {i : Nat} {s : Span} (hs : spans[i]? = some s) :
    a ≤ s.start := by
  induction h generalizing i with
  | nil => simp at hs
  | @cons first spans b hle _ ih =>
    cases i with
    | zero =>
      rw [List.getElem?_cons_zero] at hs
      rw [Option.some.inj hs]
    | succ i =>
      rw [List.getElem?_cons_succ] at hs
      exact Nat.le_trans hle (ih hs)

theorem Abut.existsUnique (h : Abut a spans b) {n : Nat} (ha : a ≤ n) (hb : n < b) :
    ∃! i, HoldsAt spans n i := by
  induction h with
  | nil => omega
  | @cons first spans b hle hspans ih =>
    by_cases hn : n < first.stop
    · refine ⟨0, ⟨first, List.getElem?_cons_zero, ha, hn⟩, ?_⟩
      rintro i ⟨s, hs, hstart, _⟩
      cases i with
      | zero => rfl
      | succ i =>
        rw [List.getElem?_cons_succ] at hs
        have hlater := Nat.le_trans (hspans.le_start hs) hstart
        exact absurd hn (Nat.not_lt.mpr hlater)
    · obtain ⟨i, ⟨s, hs, hin⟩, hunique⟩ := ih (by omega) hb
      refine ⟨i + 1, ⟨s, by rwa [List.getElem?_cons_succ], hin⟩, ?_⟩
      rintro j ⟨t, ht, hstart, hstop⟩
      cases j with
      | zero =>
        rw [List.getElem?_cons_zero] at ht
        rw [← Option.some.inj ht] at hstop
        exact absurd hstop hn
      | succ j =>
        rw [List.getElem?_cons_succ] at ht
        rw [hunique j ⟨t, ht, hstart, hstop⟩]

end Abut

theorem Verdict.span_item (c : Cursor) (verdict : Verdict) : (verdict.item c).span =
    { start := c.offset, stop := c.offset + Text.width (verdict.extent c.rest) } := by
  cases verdict <;> rfl

section Item

variable {c : Cursor} {source : String} {front gap tail : List Char} {verdict : Verdict}

theorem lookup?_span_item (hc : c.StandsBehind source front) (h : Decides c.rest verdict) :
    (verdict.item c).span.lookup? source = some (String.ofList (verdict.extent c.rest)) := by
  obtain ⟨rest, hrest⟩ := h.extent_prefix
  have hslice : Text.slice? source.toList c.offset
      (c.offset + Text.width (verdict.extent c.rest)) = some (verdict.extent c.rest) := by
    rw [Text.slice?_eq_some_iff, hc.offset_eq]
    exact ⟨front, rest, by rw [List.append_assoc, hrest, hc.source_eq], rfl, rfl⟩
  rw [Verdict.span_item, Span.lookup?, hslice, Option.map_some]

theorem covers_item (hc : c.StandsBehind source front) (h : Decides c.rest verdict) :
    (verdict.item c).Covers source := by
  have hlookup := lookup?_span_item hc h
  cases verdict with
  | finish => exact hlookup
  | accept lexeme kind => exact hlookup
  | refuse refusal =>
    rw [Verdict.extent, Refusal.extent] at hlookup
    rw [Verdict.item, Item.Covers]
    by_cases hfault : refusal.fault = .unterminatedComment
    · obtain ⟨hlexeme, hoffending, hopen⟩ := h.refused.of_unterminatedComment hfault
      rw [if_pos hfault] at hlookup ⊢
      refine ⟨?_, hoffending, ?_, c.rest, hopen, hlookup⟩
      · rw [hlexeme]
      · rw [Refusal.extent, if_pos hfault, hc.offset_eq, hc.source_eq, Text.width_append]
    · rw [if_neg hfault] at hlookup ⊢
      rw [← String.ofList_append]
      exact hlookup

theorem Ahead.covers (h : Ahead c.rest gap tail verdict) (hc : c.StandsBehind source front) :
    (verdict.item (c.after gap)).Covers source := by
  refine covers_item (hc.after h.text_eq) ?_
  rw [Cursor.rest_after h.text_eq]
  exact h.decides

theorem Ahead.gapBetween (h : Ahead c.rest gap tail verdict) (hc : c.StandsBehind source front)
    {s : Span} (hs : s.stop = c.offset) :
    GapBetween source s (verdict.item (c.after gap)).span := by
  refine ⟨front, gap, tail, ?_, ?_, ?_, h.gap⟩
  · rw [List.append_assoc, ← h.text_eq, hc.source_eq]
  · rw [hs, hc.offset_eq]
  · rw [Verdict.span_item]
    exact (hc.after h.text_eq).offset_eq

theorem Ahead.start_le_stop (h : Ahead c.rest gap tail verdict) :
    c.offset ≤ (verdict.item (c.after gap)).span.start ∧
      (verdict.item (c.after gap)).span.start ≤ (verdict.item (c.after gap)).span.stop := by
  rw [Verdict.span_item, Cursor.offset_after h.text_eq]
  exact ⟨Nat.le_add_right _ _, Nat.le_add_right _ _⟩

theorem Ahead.start_lt_stop (h : Ahead c.rest gap tail verdict) (hfinish : verdict ≠ .finish) :
    (verdict.item (c.after gap)).span.start < (verdict.item (c.after gap)).span.stop := by
  have hne : verdict.extent tail ≠ [] := by
    cases verdict with
    | finish => exact absurd rfl hfinish
    | accept lexeme kind => exact h.decides.accepted.1.ne_nil
    | refuse refusal => exact h.decides.refused.extent_ne_nil
  rw [Verdict.span_item, Cursor.rest_after h.text_eq]
  exact Nat.lt_add_of_pos_right (Text.width_pos_of_ne_nil hne)

theorem Ahead.stop_eq (h : Ahead c.rest gap tail verdict) : (verdict.item (c.after gap)).span.stop =
    (c.after (gap ++ verdict.extent tail)).offset := by
  obtain ⟨rest, hsplit⟩ := h.exists_split
  rw [Verdict.span_item, Cursor.rest_after h.text_eq, Cursor.offset_after h.text_eq,
    Cursor.offset_after hsplit, Text.width_append, Nat.add_assoc]

theorem Ahead.next (h : Ahead c.rest gap tail verdict) (hc : c.StandsBehind source front) :
    (verdict.item (c.after gap)).span.stop = (c.after (gap ++ verdict.extent tail)).offset ∧
      ∃ longer, (c.after (gap ++ verdict.extent tail)).StandsBehind source longer := by
  obtain ⟨rest, hsplit⟩ := h.exists_split
  exact ⟨h.stop_eq, _, hc.after hsplit⟩

theorem Ahead.offset_of_finish (h : Ahead c.rest gap [] .finish)
    (hc : c.StandsBehind source front) : (c.after gap).offset = Text.width source.toList := by
  have hend := hc.after h.text_eq
  rw [hend.offset_eq, hend.source_eq, Cursor.rest_after h.text_eq, List.append_nil]

end Item

section Course

variable {c : Cursor} {items : List Item} {source : String} {front : List Char}

theorem Course.covers (h : Course c items) (hc : c.StandsBehind source front) :
    ∀ item ∈ items, item.Covers source := by
  induction h generalizing front with
  | finish hahead =>
    intro item hitem
    obtain rfl := List.mem_singleton.mp hitem
    exact hahead.covers hc
  | cons hahead _ _ ih =>
    intro item hitem
    rcases List.mem_cons.mp hitem with rfl | hlater
    · exact hahead.covers hc
    · obtain ⟨_, longer, hlonger⟩ := hahead.next hc
      exact ih hlonger item hlater

theorem Course.gaps (h : Course c items) (hc : c.StandsBehind source front) {s : Span}
    (hs : s.stop = c.offset) : List.IsChain (GapBetween source) (s :: items.map Item.span) := by
  induction h generalizing front s with
  | finish hahead =>
    rw [List.map_singleton, List.isChain_cons_cons]
    exact ⟨hahead.gapBetween hc hs, .singleton _⟩
  | cons hahead _ _ ih =>
    obtain ⟨hstop, longer, hlonger⟩ := hahead.next hc
    rw [List.map_cons, List.isChain_cons_cons]
    exact ⟨hahead.gapBetween hc hs, ih hlonger hstop⟩

theorem Course.finish_span (h : Course c items) (hc : c.StandsBehind source front) :
    ∃ before last, items = before ++ [.ok last] ∧
      (∀ item ∈ before, item.isEnd = false ∧ item.span.start < item.span.stop) ∧
      last.isEnd = true ∧ last.text = "" ∧
      last.span = { start := Text.width source.toList, stop := Text.width source.toList } := by
  induction h generalizing front with
  | @finish c gap hahead =>
    have hwidth := hahead.offset_of_finish hc
    refine ⟨[], _, rfl, fun _ hitem => absurd hitem List.not_mem_nil, rfl, rfl, ?_⟩
    rw [hwidth]
  | @cons c gap tail verdict items hahead hfinish _ ih =>
    obtain ⟨_, longer, hlonger⟩ := hahead.next hc
    obtain ⟨before, last, rfl, hbefore, hlast⟩ := ih hlonger
    refine ⟨verdict.item (c.after gap) :: before, last, rfl, ?_, hlast⟩
    intro item hitem
    rcases List.mem_cons.mp hitem with rfl | hlater
    · exact ⟨hahead.decides.isEnd_item_eq_false hfinish _, hahead.start_lt_stop hfinish⟩
    · exact hbefore item hlater

theorem Course.offset_le_start (h : Course c items) (hc : c.StandsBehind source front) :
    ∀ item ∈ items, c.offset ≤ item.span.start := by
  induction h generalizing front with
  | finish hahead =>
    intro item hitem
    obtain rfl := List.mem_singleton.mp hitem
    exact hahead.start_le_stop.1
  | cons hahead _ _ ih =>
    obtain ⟨hstart, hstop⟩ := hahead.start_le_stop
    obtain ⟨hnext, longer, hlonger⟩ := hahead.next hc
    intro item hitem
    rcases List.mem_cons.mp hitem with rfl | hlater
    · exact hstart
    · have hthere := ih hlonger item hlater
      rw [← hnext] at hthere
      exact Nat.le_trans hstart (Nat.le_trans hstop hthere)

theorem Course.pairwise_start_lt (h : Course c items) (hc : c.StandsBehind source front) :
    items.Pairwise fun item later => item.span.start < later.span.start := by
  induction h generalizing front with
  | finish _ => exact List.pairwise_singleton _ _
  | cons hahead hfinish hcourse ih =>
    obtain ⟨hnext, longer, hlonger⟩ := hahead.next hc
    refine List.pairwise_cons.mpr ⟨?_, ih hlonger⟩
    intro item hitem
    have hthere := hcourse.offset_le_start hlonger item hitem
    rw [← hnext] at hthere
    exact Nat.lt_of_lt_of_le (hahead.start_lt_stop hfinish) hthere

theorem Course.abut (h : Course c items) (hc : c.StandsBehind source front) :
    Abut c.offset (tiles c.offset (items.map Item.span)) (Text.width source.toList) := by
  induction h generalizing front with
  | @finish c gap hahead =>
    have hwidth := hahead.offset_of_finish hc
    obtain ⟨hstart, hle⟩ := hahead.start_le_stop
    have hnil : Abut (c.after gap).offset [] (Text.width source.toList) := by
      rw [hwidth]
      exact .nil
    exact .cons (s := { start := c.offset, stop := (c.after gap).offset }) hstart (.cons hle hnil)
  | @cons c gap tail verdict items hahead _ _ ih =>
    obtain ⟨hstop, longer, hlonger⟩ := hahead.next hc
    obtain ⟨hstart, hle⟩ := hahead.start_le_stop
    have hlater := ih hlonger
    rw [← hstop] at hlater
    let between : Span := { start := c.offset, stop := (verdict.item (c.after gap)).span.start }
    exact .cons (s := between) hstart (.cons hle hlater)

end Course

/-- Tokens, errors and the gaps between them make up every source, byte by byte. -/
theorem items_tile (source : String) : Tiles source (items source) where
  covers := (course_items source).covers .ofString
  gaps := (course_items source).gaps .ofString rfl
  finish := (course_items source).finish_span .ofString
  bytes := fun n hn => ((course_items source).abut .ofString).existsUnique (Nat.zero_le n) hn

end Lexis
