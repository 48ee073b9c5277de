import Lexis.Proofs.Lines
import Lexis.Proofs.Munch
import Lexis.Proofs.Tiling
import Mathlib.Logic.Function.Iterate

/-!
Lines are counted twice, by the cursor as it reads and by the splitter in the whole source. The
counts agree except between a carriage return and the line feed behind it, where the cursor has
counted the break already (`Cursor.OnLine.location`); and there no item begins.
-/

set_option autoImplicit false
set_option relaxedAutoImplicit false

namespace Lexis

def InsideBreak (source : String) (offset : Offset) : Prop :=
  ∃ front rest, source.toList = front ++ '\r' :: '\n' :: rest ∧
    offset = Text.width (front ++ ['\r'])

/-- The location names the line that is found at the offset, and its column counts the characters
of that line in front of the offset. -/
def Location.IsAt (l : Location) (source : String) (offset : Offset) : Prop :=
  l.line = (Line.find source offset).number ∧
    ∃ front, Text.slice? source.toList (Line.find source offset).start offset = some front ∧
      l.column = front.length + 1

def Item.location : Item → Location
  | .ok token => token.location
  | .error error => error.location

namespace Cursor

def AmidBreak (c : Cursor) : Prop := c.afterReturn = true ∧ c.rest.head? = some '\n'

section Advance

variable {c : Cursor} {ch : Char} {rest : List Char}

theorem afterReturn_advance (h : c.rest = ch :: rest) :
    c.advance.afterReturn = true ↔ ch = '\r' := by
  simp [advance, h]

theorem not_amidBreak_ofString (source : String) : ¬ (ofString source).AmidBreak := by
  rintro ⟨hreturn, _⟩
  cases hreturn

theorem location_advance_of_amidBreak (h : c.AmidBreak) : c.advance.location = c.location := by
  obtain ⟨rest, hrest⟩ := List.head?_eq_some_iff.mp h.2
  simp [advance, hrest, locationAfter, h.1]

theorem location_advance_of_plain (h : c.rest = ch :: rest) (hch : isLineBreak ch = false) :
    c.advance.location = c.location.nextColumn := by
  have hfeed : ch ≠ '\n' := by
    rintro rfl
    exact absurd hch (by decide)
  simp [advance, h, locationAfter, hfeed, hch]

theorem location_advance_of_break (h : c.rest = ch :: rest) (hch : isLineBreak ch = true)
    (hc : ¬ c.AmidBreak) : c.advance.location = c.location.nextLine := by
  have hnot : ¬ (ch = '\n' ∧ c.afterReturn = true) := by
    rintro ⟨rfl, hreturn⟩
    exact hc ⟨hreturn, by rw [h, List.head?_cons]⟩
  simp [advance, h, locationAfter, hnot, hch]

theorem not_amidBreak_advance (h : c.rest = ch :: rest)
    (hnext : ch = '\r' → rest.head? ≠ some '\n') : ¬ c.advance.AmidBreak := by
  rintro ⟨hreturn, hfeed⟩
  rw [rest_advance_of_cons h] at hfeed
  exact hnext ((afterReturn_advance h).mp hreturn) hfeed

end Advance

section Lines

variable {c : Cursor} {body ending line rest : List Char} {before after : List (List Char)}

theorem after_unbroken (h : c.rest = body ++ rest) (hbody : IsUnbroken body)
    (hc : ¬ c.AmidBreak) :
    (c.after body).location =
        { line := c.location.line, column := body.length + c.location.column } ∧
      ¬ (c.after body).AmidBreak := by
  induction body generalizing c with
  | nil =>
    refine ⟨?_, hc⟩
    rw [List.length_nil, Nat.zero_add]
    rfl
  | cons ch body ih =>
    obtain ⟨hch, hbody⟩ := isUnbroken_cons.mp hbody
    have hadvance : ¬ c.advance.AmidBreak := by
      refine not_amidBreak_advance h ?_
      rintro rfl
      exact absurd hch (by decide)
    obtain ⟨hlocation, hafter⟩ := ih (rest_advance_of_cons h) hbody hadvance
    refine ⟨?_, hafter⟩
    rw [after_cons, hlocation, location_advance_of_plain h hch, Location.nextColumn,
      List.length_cons, Nat.add_assoc, Nat.add_comm 1]

theorem after_ending (h : c.rest = ending ++ rest) (hending : Ending rest ending)
    (hc : ¬ c.AmidBreak) :
    (c.after ending).location = c.location.nextLine ∧ ¬ (c.after ending).AmidBreak := by
  cases hending with
  | feed =>
    refine ⟨location_advance_of_break h (by decide) hc, not_amidBreak_advance h ?_⟩
    exact fun hreturn => absurd hreturn (by decide)
  | carriageReturn hnext =>
    exact ⟨location_advance_of_break h (by decide) hc, not_amidBreak_advance h fun _ => hnext⟩
  | returnFeed =>
    -- The break is counted at the carriage return, and not again at the line feed.
    have hrest : c.advance.rest = '\n' :: rest := rest_advance_of_cons h
    have hamid : c.advance.AmidBreak :=
      ⟨(afterReturn_advance h).mpr rfl, by rw [hrest, List.head?_cons]⟩
    refine ⟨?_, not_amidBreak_advance hrest fun hreturn => absurd hreturn (by decide)⟩
    rw [after_cons, after_cons, after_nil, location_advance_of_amidBreak hamid,
      location_advance_of_break h (by decide) hc]

theorem after_lines (h : Lines c.rest (before ++ line :: after)) (hcolumn : c.location.column = 1)
    (hc : ¬ c.AmidBreak) :
    (c.after before.flatten).location =
        { line := before.length + c.location.line, column := 1 } ∧
      ¬ (c.after before.flatten).AmidBreak := by
  induction before generalizing c with
  | nil =>
    refine ⟨?_, hc⟩
    rw [← hcolumn, List.length_nil, Nat.zero_add]
    rfl
  | cons first before ih =>
    rw [List.cons_append] at h
    generalize htext : c.rest = text at h
    generalize hlines : before ++ line :: after = lines at h
    cases h with
    | last _ => simp at hlines
    | @cons body ending rest _ hbody hending hlater =>
      subst hlines
      rw [List.append_assoc] at htext
      obtain ⟨hlocation, hclear⟩ := after_unbroken htext hbody hc
      obtain ⟨hnext, hstart⟩ := after_ending (rest_after htext) hending hclear
      rw [← after_append] at hnext hstart
      have hrest : (c.after (body ++ ending)).rest = rest :=
        rest_after (by rw [htext, List.append_assoc])
      rw [← hrest] at hlater
      obtain ⟨hfinal, hend⟩ := ih hlater (by rw [hnext]; rfl) hstart
      rw [List.flatten_cons, after_append]
      refine ⟨?_, hend⟩
      rw [hfinal, hnext, hlocation, Location.nextLine, List.length_cons, Nat.add_assoc,
        Nat.add_comm 1]

end Lines

/-- The cursor stands in a line of the source, behind its front and before its back, and this line
is the one that is found at the cursor's offset. -/
structure OnLine (c : Cursor) (source : String) (before : List (List Char))
    (front back : List Char) (after : List (List Char)) : Prop where
  lines : Lines source.toList (before ++ (front ++ back) :: after)
  behind : c.StandsBehind source (before.flatten ++ front)
  rest_eq : c.rest = back ++ after.flatten
  back_ne_nil : after ≠ [] → back ≠ []
  find_eq : Line.find source c.offset =
    { number := before.length + 1, start := Text.width before.flatten, text := front ++ back }

theorem StandsBehind.exists_onLine {c : Cursor} {source : String} {text : List Char}
    (h : c.StandsBehind source text) :
    ∃ before front back after, c.OnLine source before front back after := by
  obtain ⟨before, after, hline, hstart, hstop⟩ := Line.exists_isLineOf_find source c.offset
  set line := Line.find source c.offset with hfind
  have hsource : before.flatten ++ (line.text ++ after.flatten) = text ++ c.rest := by
    rw [← h.source_eq, ← hline.lines.flatten_eq, List.flatten_append, List.flatten_cons]
  obtain ⟨front, rfl, hrest⟩ := Text.exists_append_of_width_le hsource
    (by rw [← hline.start_eq, ← h.offset_eq]; exact hstart)
  have hoffset : c.offset = line.start + Text.width front := by
    rw [h.offset_eq, hline.start_eq, Text.width_append]
  obtain ⟨back, hback, hahead, hne⟩ : ∃ back, line.text = front ++ back ∧
      c.rest = back ++ after.flatten ∧ (after ≠ [] → back ≠ []) := by
    by_cases hlast : after = []
    · subst hlast
      refine ⟨c.rest, ?_, ?_, fun hnot => absurd rfl hnot⟩
      · simpa using hrest
      · simp
    · have hlt : Text.width front < Text.width line.text := by
        have hposition := hstop hlast
        rw [hoffset] at hposition
        exact Nat.lt_of_add_lt_add_left hposition
      obtain ⟨back, hback, hahead⟩ :=
        Text.exists_append_of_width_le hrest.symm (Nat.le_of_lt hlt)
      refine ⟨back, hback, hahead, ?_⟩
      rintro - rfl
      rw [hback, List.append_nil] at hlt
      exact Nat.lt_irrefl _ hlt
  refine ⟨before, front, back, after, ?_, h, hahead, hne, ?_⟩
  · have hlines := hline.lines
    rwa [hback] at hlines
  · rw [← hline.number_eq, ← hline.start_eq, ← hback]

section OnLine

variable {c : Cursor} {source : String} {before after : List (List Char)}
variable {front back : List Char}

/-- The cursor counts lines and columns as they are in the source, but the line break between a
carriage return and its line feed is counted before it is over. -/
theorem OnLine.location (h : c.OnLine source before front back after) :
    (¬ c.AmidBreak ∧ IsUnbroken front ∧
        c.location = { line := before.length + 1, column := front.length + 1 }) ∨
      (c.AmidBreak ∧ c.location = { line := before.length + 2, column := 1 }) := by
  have hrest : (ofString source).rest = before.flatten ++ (front ++ c.rest) := by
    rw [← List.append_assoc]
    exact h.behind.source_eq
  have hclear := not_amidBreak_ofString source
  obtain ⟨hline, hstart⟩ := after_lines (c := ofString source) h.lines rfl hclear
  have hahead := rest_after hrest
  have hcursor : c = ((ofString source).after before.flatten).after front := by
    rw [← after_append]
    exact h.behind.cursor_eq
  rcases h.lines.of_append.cut rfl h.back_ne_nil with hfront | ⟨body, hbody, rfl, rfl⟩
  · obtain ⟨hlocation, hhere⟩ := after_unbroken hahead hfront hstart
    rw [← hcursor] at hlocation hhere
    refine .inl ⟨hhere, hfront, ?_⟩
    rw [hlocation, hline]
    rfl
  · rw [List.append_assoc, List.singleton_append] at hahead
    obtain ⟨hlocation, hhere⟩ := after_unbroken hahead hbody hstart
    have hbreak := rest_after hahead
    rw [after_append, after_cons, after_nil] at hcursor
    refine .inr ⟨⟨?_, by rw [h.rest_eq]; rfl⟩, ?_⟩
    · rw [hcursor]
      exact (afterReturn_advance hbreak).mpr rfl
    · rw [hcursor, location_advance_of_break hbreak (by decide) hhere, hlocation, hline]
      rfl

theorem OnLine.exists_seen (h : c.OnLine source before front back after)
    (hfront : IsUnbroken front) :
    ∃ seen ending, back = seen ++ ending ∧ IsUnbroken (front ++ seen) ∧
      (∀ c ∈ ending, isLineBreak c = true) ∧
      (∀ c ∈ (ending ++ after.flatten).head?, isLineBreak c = true) ∧
      (Line.find source c.offset).visible = front ++ seen := by
  obtain ⟨body, ending, hline, hbody, hending, hlast⟩ := h.lines.of_append.exists_body
  have hhead : ∀ c ∈ ending.head?, isLineBreak c = true :=
    fun c hc => hending c (List.mem_of_mem_head? hc)
  obtain ⟨seen, rfl⟩ := hfront.prefix_of_append hline hhead
  refine ⟨seen, ending, ?_, hbody, hending, ?_, ?_⟩
  · rw [List.append_assoc] at hline
    exact List.append_cancel_left hline
  · cases ending with
    | nil => simp [hlast rfl]
    | cons d ending => exact hhead
  · rw [h.find_eq, Line.visible, hline]
    exact filter_body_append hbody hending

theorem OnLine.offset_eq (h : c.OnLine source before front back after) :
    c.offset = Text.width before.flatten + Text.width front := by
  rw [h.behind.offset_eq, Text.width_append]

theorem OnLine.slice_front (h : c.OnLine source before front back after) :
    Text.slice? source.toList (Text.width before.flatten) c.offset = some front := by
  rw [Text.slice?_eq_some_iff]
  exact ⟨before.flatten, c.rest, h.behind.source_eq, rfl, h.offset_eq⟩

theorem OnLine.isAt (h : c.OnLine source before front back after) (hc : ¬ c.AmidBreak) :
    c.location.IsAt source c.offset := by
  rcases h.location with ⟨_, _, hlocation⟩ | ⟨hamid, _⟩
  · rw [hlocation, Location.IsAt, h.find_eq]
    exact ⟨rfl, front, h.slice_front, rfl⟩
  · exact absurd hamid hc

end OnLine

section StandsBehind

variable {c : Cursor} {source : String} {text : List Char}

theorem StandsBehind.advance (h : c.StandsBehind source text) :
    ∃ longer, c.advance.StandsBehind source longer := by
  cases hrest : c.rest with
  | nil => exact ⟨text, by rwa [advance_of_nil hrest]⟩
  | cons ch rest =>
    have hread : c.rest = [ch] ++ rest := hrest
    exact ⟨text ++ [ch], h.after hread⟩

theorem StandsBehind.eq_of_offset_eq {d : Cursor} {other : List Char}
    (h : c.StandsBehind source text) (hother : d.StandsBehind source other)
    (hoffset : c.offset = d.offset) : c = d := by
  have hwidth : Text.width text = Text.width other := by
    rw [← h.offset_eq, ← hother.offset_eq, hoffset]
  have hcut := h.source_eq.symm.trans hother.source_eq
  obtain ⟨rfl, _⟩ := Text.append_inj_of_width hcut hwidth
  exact h.cursor_eq.trans hother.cursor_eq.symm

theorem after_eq_iterate (c : Cursor) (text : List Char) :
    c.after text = advance^[text.length] c := by
  induction text generalizing c with
  | nil => rfl
  | cons ch text ih => rw [after_cons, ih, List.length_cons, Function.iterate_succ_apply]

theorem StandsBehind.exists_iterate (h : c.StandsBehind source text) :
    ∃ n, c = Cursor.advance^[n] (Cursor.ofString source) :=
  ⟨text.length, h.cursor_eq.trans (after_eq_iterate _ text)⟩

theorem exists_standsBehind_iterate (source : String) (n : Nat) :
    ∃ text, (advance^[n] (ofString source)).StandsBehind source text := by
  induction n with
  | zero => exact ⟨[], .ofString⟩
  | succ n ih =>
    obtain ⟨text, htext⟩ := ih
    rw [Function.iterate_succ_apply']
    exact htext.advance

theorem StandsBehind.insideBreak_iff (h : c.StandsBehind source text) :
    InsideBreak source c.offset ↔ c.AmidBreak := by
  constructor
  · rintro ⟨front, rest, hsource, hoffset⟩
    have hcut : text ++ c.rest = (front ++ ['\r']) ++ '\n' :: rest := by
      rw [← h.source_eq, hsource]
      simp
    obtain ⟨rfl, hrest⟩ := Text.append_inj_of_width hcut (h.offset_eq.symm.trans hoffset)
    have hbreak : ((Cursor.ofString source).after front).rest = '\r' :: '\n' :: rest :=
      rest_after hsource
    refine ⟨?_, by rw [hrest, List.head?_cons]⟩
    rw [h.cursor_eq, after_append]
    exact (afterReturn_advance hbreak).mpr rfl
  · rintro ⟨hreturn, hfeed⟩
    obtain ⟨rest, hrest⟩ := List.head?_eq_some_iff.mp hfeed
    rcases text.eq_nil_or_concat with rfl | ⟨front, ch, rfl⟩
    · rw [h.cursor_eq] at hreturn
      cases hreturn
    · rw [List.concat_eq_append] at h
      have hsource : source.toList = front ++ ch :: c.rest := by
        rw [h.source_eq, List.append_assoc, List.singleton_append]
      have hlast : ((Cursor.ofString source).after front).rest = ch :: c.rest := rest_after hsource
      rw [h.cursor_eq, after_append] at hreturn
      obtain rfl := (afterReturn_advance hlast).mp hreturn
      exact ⟨front, rest, by rw [hsource, hrest], h.offset_eq⟩

theorem StandsBehind.location_of_newline (h : c.StandsBehind source (text ++ ['\n'])) :
    ¬ c.AmidBreak ∧
      c.location = { line := lineBreaks (text ++ ['\n']) + 1, column := 1 } := by
  have hsource : (Cursor.ofString source).rest = text ++ '\n' :: c.rest := by
    rw [← List.singleton_append, ← List.append_assoc]
    exact h.source_eq
  have hcursor : c = ((Cursor.ofString source).after text).advance := by
    rw [advance_after]
    exact h.cursor_eq
  have hclear : ¬ c.AmidBreak := by
    rintro ⟨hreturn, _⟩
    rw [hcursor, afterReturn_advance (rest_after hsource)] at hreturn
    exact absurd hreturn (by decide)
  refine ⟨hclear, ?_⟩
  obtain ⟨before, front, back, after, hline⟩ := h.exists_onLine
  obtain ⟨_, hfront, hlocation⟩ := hline.location.resolve_right fun hamid => hclear hamid.1
  have hread : before.flatten ++ front = text ++ ['\n'] := hline.behind.front_eq h
  have hnil : front = [] := by
    rcases front.eq_nil_or_concat with hnil | ⟨start, last, rfl⟩
    · exact hnil
    · rw [List.concat_eq_append, ← List.append_assoc] at hread
      obtain ⟨_, hlast⟩ := List.append_inj' hread rfl
      obtain ⟨rfl, _⟩ := List.cons.inj hlast
      rw [List.concat_eq_append] at hfront
      exact absurd (hfront '\n' (by simp)) (by decide)
  rw [hlocation, ← hread, hline.lines.lineBreaks_flatten_append hfront, hnil]
  rfl

end StandsBehind

end Cursor

theorem IsBare.head_not_isBlank {text : List Char} (h : IsBare text) :
    ∀ c ∈ text.head?, isBlank c = false := by
  intro c hc
  obtain ⟨rest, rfl⟩ := List.head?_eq_some_iff.mp hc
  by_contra hblank
  exact h [c] rest rfl (.blank (Bool.of_not_eq_false hblank))

theorem isBlank_of_isLineBreak {c : Char} (h : isLineBreak c = true) : isBlank c = true := by
  have hbreak : c = '\n' ∨ c = '\r' := by simpa [isLineBreak] using h
  rcases hbreak with rfl | rfl <;> decide

/-- A line feed is a blank, so no item begins inside a line break. -/
theorem Ahead.not_amidBreak {c : Cursor} {gap tail : List Char} {verdict : Verdict}
    (h : Ahead c.rest gap tail verdict) : ¬ (c.after gap).AmidBreak := by
  rintro ⟨_, hfeed⟩
  rw [Cursor.rest_after h.text_eq] at hfeed
  exact absurd (h.decides.isBare.head_not_isBlank '\n' hfeed) (by decide)

theorem isLineBreak_eq_false_of_isWordChar {c : Char} (h : isWordChar c = true) :
    isLineBreak c = false := by
  by_contra hbreak
  rw [isWordChar_eq_false_of_isBlank (isBlank_of_isLineBreak (Bool.of_not_eq_false hbreak))] at h
  cases h

theorem Lexeme.isUnbroken {text : List Char} {kind : Kind} (h : Lexeme text kind) :
    IsUnbroken text := by
  obtain ⟨c, cs, rfl, ⟨hc, hword, _⟩ | ⟨_, hnumber, _⟩ | ⟨_, hquoted, _⟩ | ⟨_, _, hmem⟩⟩ := h.head
  · refine isUnbroken_cons.mpr ⟨?_, fun d hd => ?_⟩
    · exact isLineBreak_eq_false_of_isWordChar (isWordChar_of_isLetter hc)
    · exact isLineBreak_eq_false_of_isWordChar (hword.2 d hd)
  · intro d hd
    exact isLineBreak_eq_false_of_isWordChar (isWordChar_of_isDigit (hnumber.2 d hd))
  · obtain ⟨body, hplain, hbody⟩ := hquoted
    rw [hbody, isUnbroken_cons, isUnbroken_append]
    exact ⟨by decide, fun d hd => (hplain d hd).2, by simp [IsUnbroken, isLineBreak]⟩
  · have table : ∀ p ∈ operators, p.1.all (fun d => !isLineBreak d) = true := by decide
    intro d hd
    simpa using List.all_eq_true.mp (table _ hmem) d hd

theorem Verdict.location_item (c : Cursor) (verdict : Verdict) :
    (verdict.item c).location = c.location := by
  cases verdict <;> rfl

theorem Stream.Reachable.exists_verdict {source : String} {s : Stream} (h : s.Reachable source) :
    ∃ c text verdict, c.StandsBehind source text ∧ ¬ c.AmidBreak ∧ Decides c.rest verdict ∧
      s.pull.1.item = verdict.item c := by
  obtain ⟨front, hc⟩ := h.standsBehind
  obtain ⟨gap, tail, verdict, hahead, hitem, _⟩ := s.cursor.exists_ahead_scan
  exact ⟨_, _, verdict, hc.after hahead.text_eq, hahead.not_amidBreak, hahead.decides_after, hitem⟩

theorem Course.exists_verdict_of_mem {c : Cursor} {source : String} {front : List Char}
    {items : List Item} {item : Item} (h : Course c items) (hc : c.StandsBehind source front)
    (hitem : item ∈ items) :
    ∃ d text verdict, d.StandsBehind source text ∧ ¬ d.AmidBreak ∧ Decides d.rest verdict ∧
      item = verdict.item d := by
  induction h generalizing front with
  | finish hahead =>
    exact ⟨_, _, _, hc.after hahead.text_eq, hahead.not_amidBreak, hahead.decides_after,
      List.mem_singleton.mp hitem⟩
  | cons hahead _ _ ih =>
    rcases List.mem_cons.mp hitem with rfl | hlater
    · exact ⟨_, _, _, hc.after hahead.text_eq, hahead.not_amidBreak, hahead.decides_after, rfl⟩
    · obtain ⟨_, longer, hnext⟩ := hahead.next hc
      exact ih hnext hlater

structure CountsAgree (source : String) : Prop where
  cursor : ∀ n, let c := Cursor.advance^[n] (Cursor.ofString source)
    ¬ InsideBreak source c.offset → c.location.IsAt source c.offset
  /-- Inside a line break the cursor is already at the beginning of the next line. -/
  insideBreak : ∀ n, let c := Cursor.advance^[n] (Cursor.ofString source)
    InsideBreak source c.offset →
      c.location = { line := (Line.find source c.offset).number + 1, column := 1 }
  /-- An item, the end of the source included, never begins inside a line break, and its location
  is that of its first byte. -/
  item : ∀ s : Stream, s.Reachable source →
    ¬ InsideBreak source s.pull.1.item.span.start ∧
      s.pull.1.item.location.IsAt source s.pull.1.item.span.start
  /-- What is visible of the line goes on with the token at the token's column. -/
  token : ∀ s : Stream, s.Reachable source → ∀ token, s.pull.1.item = .ok token →
    token.isEnd = false → token.text.toList <+:
      (Line.find source token.span.start).visible.drop (token.location.column - 1)

/-- Lines and columns are counted in the same way by the cursor and by the splitter. -/
theorem cursor_and_lines_agree (source : String) : CountsAgree source where
  cursor := by
    intro n c hbreak
    obtain ⟨text, hc⟩ := Cursor.exists_standsBehind_iterate source n
    obtain ⟨before, front, back, after, hline⟩ := hc.exists_onLine
    exact hline.isAt fun hamid => hbreak (hc.insideBreak_iff.mpr hamid)
  insideBreak := by
    intro n c hbreak
    obtain ⟨text, hc⟩ := Cursor.exists_standsBehind_iterate source n
    obtain ⟨before, front, back, after, hline⟩ := hc.exists_onLine
    rcases hline.location with ⟨hnot, _⟩ | ⟨_, hlocation⟩
    · exact absurd (hc.insideBreak_iff.mp hbreak) hnot
    · rw [hline.find_eq]
      exact hlocation
  item := by
    intro s hs
    obtain ⟨c, text, verdict, hc, hclear, _, hitem⟩ := hs.exists_verdict
    obtain ⟨before, front, back, after, hline⟩ := hc.exists_onLine
    have hstart : (verdict.item c).span.start = c.offset := by rw [Verdict.span_item]
    rw [hitem, hstart, Verdict.location_item]
    exact ⟨fun hbreak => hclear (hc.insideBreak_iff.mp hbreak), hline.isAt hclear⟩
  token := by
    intro s hs token htoken hend
    obtain ⟨c, text, verdict, hc, hclear, hdecides, hitem⟩ := hs.exists_verdict
    obtain ⟨lexeme, rfl, htext, hspan⟩ := Verdict.item_eq_ok (hitem.symm.trans htoken) hend
    obtain ⟨hlexeme, rest, hrest, _⟩ := hdecides.accepted
    have hlocation : token.location = c.location := by
      have heq := congrArg Item.location (hitem.symm.trans htoken)
      rw [Verdict.location_item] at heq
      exact heq.symm
    obtain ⟨before, front, back, after, hline⟩ := hc.exists_onLine
    rcases hline.location with ⟨_, hfront, hcolumn⟩ | ⟨hamid, _⟩
    · obtain ⟨seen, ending, rfl, _, _, htail, hvisible⟩ := hline.exists_seen hfront
      have hcut : lexeme ++ rest = seen ++ (ending ++ after.flatten) := by
        rw [← hrest, hline.rest_eq, List.append_assoc]
      rw [hspan, htext, String.toList_ofList, hlocation, hcolumn, hvisible]
      simpa using hlexeme.isUnbroken.prefix_of_append hcut htail
    · exact absurd hamid hclear

end Lexis
