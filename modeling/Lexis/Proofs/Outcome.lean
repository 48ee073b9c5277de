import Lexis.Proofs.Advance
import Lexis.Proofs.Reading
import Lexis.Scan

/-!
What a scan finds. The text ahead of a cursor is a gap with a verdict on the text behind it, in one
way only (`Ahead.unique`); a scan leaves the gap behind and turns the verdict into its item
(`Cursor.exists_ahead_scan`, `Cursor.scan_of_ahead`).
-/

set_option autoImplicit false
set_option relaxedAutoImplicit false

namespace Lexis

/-- The text is a gap and a tail on which there is a verdict. -/
structure Ahead (text gap tail : List Char) (verdict : Verdict) : Prop where
  text_eq : text = gap ++ tail
  gap : Gap tail gap
  decides : Decides tail verdict

theorem Ahead.unique {text gap tail other rest : List Char} {verdict verdict' : Verdict}
    (h : Ahead text gap tail verdict) (hother : Ahead text other rest verdict') :
    gap = other ∧ tail = rest ∧ verdict = verdict' := by
  have heq : gap ++ tail = other ++ rest := h.text_eq.symm.trans hother.text_eq
  obtain ⟨rfl, rfl⟩ := h.gap.unique h.decides.isBare hother.gap hother.decides.isBare heq
  exact ⟨rfl, rfl, h.decides.unique hother.decides rfl⟩

theorem Ahead.exists_split {text gap tail : List Char} {verdict : Verdict}
    (h : Ahead text gap tail verdict) : ∃ rest, text = gap ++ verdict.extent tail ++ rest := by
  obtain ⟨rest, hrest⟩ := h.decides.extent_prefix
  exact ⟨rest, by rw [h.text_eq, List.append_assoc, hrest]⟩

theorem Ahead.decides_after {c : Cursor} {gap tail : List Char} {verdict : Verdict}
    (h : Ahead c.rest gap tail verdict) : Decides (c.after gap).rest verdict := by
  rw [Cursor.rest_after h.text_eq]
  exact h.decides

def Verdict.item (c : Cursor) : Verdict → Item
  | .finish => .ok
    { kind := .endOfInput
      text := ""
      span := { start := c.offset, stop := c.offset }
      location := c.location }
  | .accept lexeme kind => .ok
    { kind
      text := String.ofList lexeme
      span := { start := c.offset, stop := c.offset + Text.width lexeme }
      location := c.location }
  | .refuse refusal => .error
    { span := { start := c.offset, stop := c.offset + Text.width (refusal.extent c.rest) }
      location := c.location
      lexeme := String.ofList refusal.lexeme
      offending := refusal.offending
      fault := refusal.fault }

namespace Scanner

/-- The scanner began at the cursor and has read the text since then. -/
structure HasRead (c : Cursor) (read : List Char) (s : Scanner) : Prop where
  start : s.start = c.offset
  origin : s.origin = c.location
  rest : c.rest = read ++ s.cursor.rest
  cursor : s.cursor = c.after read
  reading : Reading s.state s.lexeme.toList read s.cursor.rest.head?

theorem HasRead.ofCursor (c : Cursor) : (ofCursor c).HasRead c [] := ⟨rfl, rfl, rfl, rfl, rfl, rfl⟩

section Step

variable {c : Cursor} {read : List Char} {s t : Scanner}

private theorem HasRead.advance (h : s.HasRead c read) :
    c.rest = read ++ s.cursor.rest.head?.toList ++ s.cursor.advance.rest ∧
      s.cursor.advance = c.after (read ++ s.cursor.rest.head?.toList) := by
  cases hrest : s.cursor.rest with
  | nil =>
    simp only [Cursor.advance_of_nil hrest, List.head?_nil, Option.toList_none, List.append_nil]
    exact ⟨by rw [h.rest, hrest], h.cursor⟩
  | cons ch rest =>
    rw [Cursor.rest_advance, hrest, List.head?_cons, Option.toList_some, List.tail_cons]
    refine ⟨by rw [h.rest, hrest, List.append_assoc, List.singleton_append], ?_⟩
    rw [h.cursor, Cursor.advance_after]

theorem action_eq (s : Scanner) :
    s.action = transition s.state s.cursor.rest.head? (String.ofList s.lexeme.toList) := by
  rw [String.ofList_toList]
  rfl

theorem HasRead.keep {ch : Char} {next : State} (h : s.HasRead c read)
    (hsym : s.cursor.current? = some ch) (ha : s.action = .keep next) :
    HasRead c (read ++ [ch])
      { s with state := next, lexeme := s.extended, cursor := s.cursor.advance } := by
  have hnext : s.cursor.rest.head? = some ch := hsym
  have haction := s.action_eq
  have hreading := h.reading
  obtain ⟨hrest, hcursor⟩ := h.advance
  rw [ha, hnext] at haction
  rw [hnext] at hreading hrest hcursor
  refine ⟨h.start, h.origin, hrest, hcursor, ?_⟩
  have hlexeme : s.extended.toList = s.lexeme.toList ++ [ch] := by
    rw [extended, hsym, String.toList_push]
  rw [hlexeme]
  exact hreading.keep haction.symm _

theorem HasRead.drop {ch : Char} {next : State} (h : s.HasRead c read)
    (hsym : s.cursor.current? = some ch) (ha : s.action = .drop next) :
    HasRead c (read ++ [ch]) { s with state := next, cursor := s.cursor.advance } := by
  have hnext : s.cursor.rest.head? = some ch := hsym
  have haction := s.action_eq
  have hreading := h.reading
  obtain ⟨hrest, hcursor⟩ := h.advance
  rw [ha, hnext] at haction
  rw [hnext] at hreading hrest hcursor
  exact ⟨h.start, h.origin, hrest, hcursor, hreading.drop haction.symm _⟩

theorem HasRead.enter {next : State} (h : s.HasRead c read) (ha : s.action = .enter next) :
    HasRead c read { s with state := next } := by
  have haction := s.action_eq
  rw [ha] at haction
  exact ⟨h.start, h.origin, h.rest, h.cursor, h.reading.enter haction.symm⟩

theorem HasRead.restart (h : s.HasRead c read) (ha : s.action = .restart) :
    Filler s.cursor.advance.rest (read ++ s.cursor.rest.head?.toList) ∧
      c.rest = read ++ s.cursor.rest.head?.toList ++ s.cursor.advance.rest ∧
      s.cursor.advance = c.after (read ++ s.cursor.rest.head?.toList) := by
  have haction := s.action_eq
  rw [ha] at haction
  have hfiller := h.reading.restart haction.symm
  rw [← Cursor.rest_advance] at hfiller
  exact ⟨hfiller, h.advance⟩

theorem HasRead.more (h : s.HasRead c read) (hstep : s.step = .more t) :
    (∃ longer, t.HasRead c longer) ∨
      ∃ piece, Filler t.cursor.rest piece ∧ c.rest = piece ++ t.cursor.rest ∧
        t = Scanner.ofCursor (c.after piece) := by
  cases moves_of_step hstep with
  | keep hsym ha => exact .inl ⟨_, h.keep hsym ha⟩
  | drop hsym ha => exact .inl ⟨_, h.drop hsym ha⟩
  | enter _ ha _ _ => exact .inl ⟨_, h.enter ha⟩
  | restart _ ha =>
    obtain ⟨hpiece, hrest, hcursor⟩ := h.restart ha
    exact .inr ⟨_, hpiece, hrest, congrArg Scanner.ofCursor hcursor⟩
  | restartAtEnd hnil _ ha =>
    obtain ⟨hpiece, hrest, hcursor⟩ := h.restart ha
    rw [Cursor.advance_of_nil hnil] at hpiece hrest hcursor
    exact .inr ⟨_, hpiece, hrest, congrArg Scanner.ofCursor hcursor⟩

theorem HasRead.emit {kind : Kind} (h : s.HasRead c read) (ha : s.action = .emit kind) :
    ∃ verdict, Decides c.rest verdict ∧ .ok (s.token kind) = verdict.item c ∧
      s.cursor = c.after (verdict.extent c.rest) := by
  have haction := s.action_eq
  rw [ha] at haction
  have hoffset : s.cursor.offset = c.offset + Text.width read := by
    rw [h.cursor, Cursor.offset_after h.rest]
  have htoken : s.token kind =
      { kind
        text := String.ofList s.lexeme.toList
        span := { start := c.offset, stop := c.offset + Text.width read }
        location := c.location } := by
    rw [token, h.start, h.origin, hoffset, String.ofList_toList]
  rcases h.reading.emit haction.symm with ⟨rfl, hlexeme, rfl, hnil⟩ | ⟨hlexeme, haccept, hnext⟩
  · refine ⟨.finish, ?_, ?_, h.cursor⟩
    · rw [h.rest, hnil]
      exact .finish
    · rw [htoken, hlexeme]
      rfl
  · refine ⟨.accept read kind, ?_, ?_, h.cursor⟩
    · rw [h.rest]
      exact .accept haccept hnext
    · rw [htoken, hlexeme]
      rfl

theorem HasRead.fail {fault : Fault} (h : s.HasRead c read) (ha : s.action = .fail fault) :
    ∃ verdict, Decides c.rest verdict ∧ .error (s.error fault) = verdict.item c ∧
      s.cursor.advance = c.after (verdict.extent c.rest) := by
  obtain ⟨hrest, hcursor⟩ := h.advance
  have haction := s.action_eq
  rw [ha] at haction
  obtain ⟨hrefused, hextent⟩ := h.reading.fail haction.symm
  rw [← h.rest] at hrefused hextent
  refine ⟨.refuse _, .refuse hrefused, ?_, ?_⟩
  · have hoffset : s.cursor.advance.offset =
        c.offset + Text.width (read ++ s.cursor.rest.head?.toList) := by
      rw [hcursor, Cursor.offset_after hrest]
    rw [error, Verdict.item, hextent, h.start, h.origin, hoffset, String.ofList_toList]
    rfl
  · rw [Verdict.extent, hextent, hcursor]

theorem HasRead.done {item : Item} {cursor : Cursor} (h : s.HasRead c read)
    (hstep : s.step = .done item cursor) :
    ∃ verdict, Decides c.rest verdict ∧ item = verdict.item c ∧
      cursor = c.after (verdict.extent c.rest) := by
  cases ends_of_step hstep with
  | emit ha => exact h.emit ha
  | fail ha => exact h.fail ha

end Step

/-- A run leaves a gap behind and reports the verdict on what follows the gap. -/
theorem HasRead.run {c : Cursor} {read : List Char} {s : Scanner} (h : s.HasRead c read) :
    ∃ gap tail verdict, Ahead c.rest gap tail verdict ∧
      s.run.item = verdict.item (c.after gap) ∧
      s.run.cursor = c.after (gap ++ verdict.extent tail) := by
  induction s using run.induct generalizing c read with
  | case1 s t hstep ih =>
    rw [run_of_more hstep]
    rcases h.more hstep with ⟨longer, hlonger⟩ | ⟨piece, hpiece, hrest, rfl⟩
    · exact ih hlonger
    · obtain ⟨gap, tail, verdict, hahead, hitem, hcursor⟩ := ih (HasRead.ofCursor _)
      refine ⟨piece ++ gap, tail, verdict, ⟨?_, ?_, hahead.decides⟩, ?_, ?_⟩
      · rw [hrest, List.append_assoc, ← hahead.text_eq]
        rfl
      · refine .cons ?_ hahead.gap
        rwa [← hahead.text_eq]
      · rw [Cursor.after_append]
        exact hitem
      · rw [List.append_assoc, Cursor.after_append]
        exact hcursor
  | case2 s item cursor hstep =>
    obtain ⟨verdict, hdecides, hitem, hcursor⟩ := h.done hstep
    rw [run_of_done hstep]
    exact ⟨[], c.rest, verdict, ⟨rfl, .nil, hdecides⟩, hitem, hcursor⟩

end Scanner

namespace Cursor

variable {c : Cursor} {gap tail : List Char} {verdict : Verdict}

theorem exists_ahead_scan (c : Cursor) :
    ∃ gap tail verdict, Ahead c.rest gap tail verdict ∧
      c.scan.item = verdict.item (c.after gap) ∧
      c.scan.cursor = c.after (gap ++ verdict.extent tail) :=
  (Scanner.HasRead.ofCursor c).run

/-- What lies ahead of the cursor is what its scan reports. -/
theorem scan_of_ahead (h : Ahead c.rest gap tail verdict) :
    c.scan.item = verdict.item (c.after gap) ∧
      c.scan.cursor = c.after (gap ++ verdict.extent tail) := by
  obtain ⟨gap', tail', verdict', hahead, hscan⟩ := c.exists_ahead_scan
  obtain ⟨rfl, rfl, rfl⟩ := h.unique hahead
  exact hscan

theorem scan_after {skipped rest : List Char} (h : c.rest = skipped ++ rest)
    (hskipped : ∀ {gap tail : List Char}, Gap tail gap → Gap tail (skipped ++ gap)) :
    c.scan.item = (c.after skipped).scan.item ∧ c.scan.cursor = (c.after skipped).scan.cursor := by
  obtain ⟨gap, tail, verdict, hahead, hitem, hcursor⟩ := (c.after skipped).exists_ahead_scan
  have hmore : Ahead c.rest (skipped ++ gap) tail verdict := by
    refine ⟨?_, hskipped hahead.gap, hahead.decides⟩
    rw [List.append_assoc, ← hahead.text_eq, rest_after h, h]
  obtain ⟨hitem', hcursor'⟩ := scan_of_ahead hmore
  rw [after_append] at hitem'
  rw [List.append_assoc, after_append] at hcursor'
  exact ⟨hitem'.trans hitem.symm, hcursor'.trans hcursor.symm⟩

end Cursor

end Lexis
