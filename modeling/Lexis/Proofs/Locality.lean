import Lexis.Proofs.Whereabouts

/-!
A stream remembers nothing but where it is. From any place on it yields what a fresh stream of the
rest of the source yields, with spans and locations moved to that place (`Stream.IsLikeFresh`).

Two cursors with the same characters ahead stay in step as long as they agree on whether they are
in the middle of a line break (`Cursor.Follows`). They disagree at the start only, when the rest
begins with the line feed of a break whose carriage return has been read; the line feed is a blank,
so the disagreement is over before an item begins.
-/

set_option autoImplicit false
set_option relaxedAutoImplicit false

namespace Lexis

namespace Location

/-- A location in a text that begins at the base: the first line goes on with the line of the
base. -/
def behind (base l : Location) : Location :=
  if l.line = 1 then { line := base.line, column := base.column + l.column - 1 }
  else { line := base.line + l.line - 1, column := l.column }

/-- A location in a text that begins at the base with the line feed of a line break, when this
break has been counted at its carriage return. -/
def behindReturn (base l : Location) : Location :=
  { line := base.line + l.line - 2, column := l.column }

def IsCounted (l : Location) : Prop := 1 ≤ l.line ∧ 1 ≤ l.column

section Counted

variable {base l : Location}

theorem IsCounted.nextColumn (h : l.IsCounted) : l.nextColumn.IsCounted :=
  ⟨h.1, Nat.le_add_left 1 _⟩

theorem isCounted_nextLine (l : Location) : l.nextLine.IsCounted :=
  ⟨Nat.le_add_left 1 _, Nat.le_refl 1⟩

theorem behind_of_line_eq (h : l.line = 1) :
    base.behind l = { line := base.line, column := base.column + l.column - 1 } :=
  if_pos h

theorem behind_of_line_ne (h : l.line ≠ 1) :
    base.behind l = { line := base.line + l.line - 1, column := l.column } :=
  if_neg h

end Counted

end Location

structure Relocates (move : Location → Location) : Prop where
  nextColumn : ∀ l : Location, l.IsCounted → move l.nextColumn = (move l).nextColumn
  nextLine : ∀ l : Location, l.IsCounted → move l.nextLine = (move l).nextLine

theorem relocates_behind (base : Location) : Relocates base.behind where
  nextColumn := by
    rintro l ⟨_, hcolumn⟩
    by_cases hfirst : l.line = 1
    · have hnext : l.nextColumn.line = 1 := hfirst
      have hcount : base.column + (l.column + 1) - 1 = base.column + l.column - 1 + 1 := by omega
      rw [Location.behind_of_line_eq hnext, Location.behind_of_line_eq hfirst]
      exact congrArg (Location.mk base.line) hcount
    · have hnext : l.nextColumn.line ≠ 1 := hfirst
      rw [Location.behind_of_line_ne hnext, Location.behind_of_line_ne hfirst]
      rfl
  nextLine := by
    rintro l ⟨hline, _⟩
    have hnext : l.nextLine.line ≠ 1 := by
      change l.line + 1 ≠ 1
      omega
    rw [Location.behind_of_line_ne hnext]
    by_cases hfirst : l.line = 1
    · rw [Location.behind_of_line_eq hfirst, Location.nextLine, hfirst]
      rfl
    · have hcount : base.line + (l.line + 1) - 1 = base.line + l.line - 1 + 1 := by omega
      rw [Location.behind_of_line_ne hfirst]
      exact congrArg (Location.mk · 1) hcount

theorem relocates_behindReturn {base : Location} (h : 1 ≤ base.line) :
    Relocates base.behindReturn where
  nextColumn := fun _ _ => rfl
  nextLine := by
    rintro l ⟨hline, _⟩
    have hcount : base.line + (l.line + 1) - 2 = base.line + l.line - 2 + 1 := by omega
    exact congrArg (Location.mk · 1) hcount

def Span.shifted (s : Span) (offset : Offset) : Span :=
  { start := offset + s.start, stop := offset + s.stop }

def Item.moved (offset : Offset) (move : Location → Location) : Item → Item
  | .ok token =>
    .ok { token with span := token.span.shifted offset, location := move token.location }
  | .error e => .error { e with span := e.span.shifted offset, location := move e.location }

theorem Item.isError_moved (offset : Offset) (move : Location → Location) (item : Item) :
    (item.moved offset move).isError = item.isError := by
  cases item <;> rfl

theorem Item.isEnd_moved (offset : Offset) (move : Location → Location) (item : Item) :
    (item.moved offset move).isEnd = item.isEnd := by
  cases item <;> rfl

theorem Verdict.item_moved (verdict : Verdict) {offset : Offset} {move : Location → Location}
    {c d : Cursor} (hoffset : c.offset = offset + d.offset)
    (hlocation : c.location = move d.location)
    (hextent : verdict.extent c.rest = verdict.extent d.rest) :
    verdict.item c = (verdict.item d).moved offset move := by
  cases verdict with
  | refuse refusal =>
    have hrefusal : refusal.extent c.rest = refusal.extent d.rest := hextent
    simp only [Verdict.item, Item.moved, Span.shifted, hrefusal, hoffset, hlocation,
      Nat.add_assoc]
  | _ => simp only [Verdict.item, Item.moved, Span.shifted, hoffset, hlocation, Nat.add_assoc]

namespace Cursor

/-- The cursor has the same characters ahead as the other one, and is at the place to which the
other one's is moved. -/
structure Follows (offset : Offset) (move : Location → Location) (d c : Cursor) : Prop where
  rest_eq : c.rest = d.rest
  offset_eq : c.offset = offset + d.offset
  location_eq : c.location = move d.location
  isCounted : d.location.IsCounted
  amidBreak_iff : c.AmidBreak ↔ d.AmidBreak

theorem amidBreak_advance_iff {c : Cursor} {ch : Char} {rest : List Char}
    (h : c.rest = ch :: rest) : c.advance.AmidBreak ↔ ch = '\r' ∧ rest.head? = some '\n' := by
  rw [AmidBreak, afterReturn_advance h, rest_advance_of_cons h]

theorem isCounted_advance {c : Cursor} (h : c.location.IsCounted) :
    c.advance.location.IsCounted := by
  cases hrest : c.rest with
  | nil => rwa [advance_of_nil hrest]
  | cons ch rest =>
    by_cases hamid : c.AmidBreak
    · rwa [location_advance_of_amidBreak hamid]
    · cases hch : isLineBreak ch with
      | false =>
        rw [location_advance_of_plain hrest hch]
        exact h.nextColumn
      | true =>
        rw [location_advance_of_break hrest hch hamid]
        exact c.location.isCounted_nextLine

namespace Follows

variable {offset : Offset} {move : Location → Location} {c d : Cursor}

theorem advance (h : Follows offset move d c) (hmove : Relocates move) :
    Follows offset move d.advance c.advance := by
  cases hrest : d.rest with
  | nil => rwa [advance_of_nil hrest, advance_of_nil (h.rest_eq.trans hrest)]
  | cons ch rest =>
    have hahead : c.rest = ch :: rest := h.rest_eq.trans hrest
    refine ⟨?_, ?_, ?_, isCounted_advance h.isCounted, ?_⟩
    · rw [rest_advance, rest_advance, h.rest_eq]
    · rw [offset_advance hahead, offset_advance hrest, h.offset_eq, Nat.add_assoc]
    · by_cases hamid : d.AmidBreak
      · rw [location_advance_of_amidBreak hamid, h.location_eq.symm,
          location_advance_of_amidBreak (h.amidBreak_iff.mpr hamid)]
      · have hclear : ¬ c.AmidBreak := fun hc => hamid (h.amidBreak_iff.mp hc)
        cases hch : isLineBreak ch with
        | false =>
          rw [location_advance_of_plain hrest hch, location_advance_of_plain hahead hch,
            hmove.nextColumn _ h.isCounted, h.location_eq]
        | true =>
          rw [location_advance_of_break hrest hch hamid,
            location_advance_of_break hahead hch hclear, hmove.nextLine _ h.isCounted,
            h.location_eq]
    · rw [amidBreak_advance_iff hahead, amidBreak_advance_iff hrest]

theorem after (h : Follows offset move d c) (hmove : Relocates move) (text : List Char) :
    Follows offset move (d.after text) (c.after text) := by
  induction text generalizing c d with
  | nil => exact h
  | cons ch text ih => exact ih (h.advance hmove)

theorem item_eq (h : Follows offset move d c) (verdict : Verdict) :
    verdict.item c = (verdict.item d).moved offset move :=
  verdict.item_moved h.offset_eq h.location_eq (by rw [h.rest_eq])

theorem scan (h : Follows offset move d c) (hmove : Relocates move) :
    c.scan.item = d.scan.item.moved offset move ∧
      Follows offset move d.scan.cursor c.scan.cursor := by
  obtain ⟨gap, tail, verdict, hahead, hitem, hcursor⟩ := d.exists_ahead_scan
  have hsame : Ahead c.rest gap tail verdict := by rwa [h.rest_eq]
  obtain ⟨hitem', hcursor'⟩ := scan_of_ahead hsame
  refine ⟨?_, ?_⟩
  · rw [hitem', hitem]
    exact (h.after hmove gap).item_eq verdict
  · rw [hcursor', hcursor]
    exact h.after hmove _

theorem scans (h : Follows offset move d c) (hmove : Relocates move) :
    c.scans.map (·.item) = (d.scans.map (·.item)).map (Item.moved offset move) := by
  induction d using Cursor.scan_induction generalizing c with
  | stop d hend =>
    obtain ⟨hitem, _⟩ := h.scan hmove
    have hsame : c.scan.item.isEnd = true := by rw [hitem, Item.isEnd_moved, hend]
    rw [scans_of_isEnd hend, scans_of_isEnd hsame, List.map_singleton, List.map_singleton,
      List.map_singleton, hitem]
  | go d hend ih =>
    obtain ⟨hitem, hnext⟩ := h.scan hmove
    have hsame : c.scan.item.isEnd = false := by rw [hitem, Item.isEnd_moved, hend]
    rw [scans_of_not_isEnd hend, scans_of_not_isEnd hsame, List.map_cons, List.map_cons,
      List.map_cons, hitem, ih hnext]

end Follows

theorem follows_ofString {c : Cursor} (h : ¬ c.AmidBreak) :
    Follows c.offset c.location.behind (ofString (String.ofList c.rest)) c where
  rest_eq := String.toList_ofList.symm
  offset_eq := (Nat.add_zero _).symm
  location_eq := rfl
  isCounted := ⟨Nat.le_refl 1, Nat.le_refl 1⟩
  amidBreak_iff := iff_of_false h (not_amidBreak_ofString _)

/-- In the middle of a line break the cursor is behind the beginning of what lies ahead of it by one
line break, until both have read the line feed. -/
theorem follows_ofString_advance {c : Cursor} (h : c.AmidBreak) (hcolumn : c.location.column = 1) :
    Follows c.offset c.location.behindReturn (ofString (String.ofList c.rest)).advance
      c.advance := by
  obtain ⟨rest, hrest⟩ := List.head?_eq_some_iff.mp h.2
  have hfresh : (ofString (String.ofList c.rest)).rest = '\n' :: rest := by
    rw [← hrest]
    exact String.toList_ofList
  have hlocation : (ofString (String.ofList c.rest)).advance.location = Location.first.nextLine :=
    location_advance_of_break hfresh (by decide) (not_amidBreak_ofString _)
  refine ⟨?_, ?_, ?_, ?_, ?_⟩
  · rw [rest_advance_of_cons hrest, rest_advance_of_cons hfresh]
  · rw [offset_advance hrest, offset_advance hfresh, ← Nat.add_assoc]
    rfl
  · rw [location_advance_of_amidBreak h, hlocation]
    change c.location = { line := c.location.line, column := 1 }
    rw [← hcolumn]
  · rw [hlocation]
    exact Location.first.isCounted_nextLine
  · rw [amidBreak_advance_iff hrest, amidBreak_advance_iff hfresh]

theorem scan_of_blank {c : Cursor} {ch : Char} {rest : List Char} (h : c.rest = ch :: rest)
    (hch : isBlank ch = true) :
    c.scan.item = c.advance.scan.item ∧ c.scan.cursor = c.advance.scan.cursor := by
  have hsplit : c.rest = [ch] ++ rest := h
  exact scan_after hsplit fun hgap => hgap.cons_blank hch

theorem scan_ofString_of_not_amidBreak {c : Cursor} (h : ¬ c.AmidBreak) :
    let d := ofString (String.ofList c.rest)
    c.scan.item = d.scan.item.moved c.offset c.location.behind ∧
      Follows c.offset c.location.behind d.scan.cursor c.scan.cursor :=
  (follows_ofString h).scan (relocates_behind c.location)

theorem scan_ofString_of_amidBreak {c : Cursor} (h : c.AmidBreak) (hline : 1 ≤ c.location.line)
    (hcolumn : c.location.column = 1) :
    let d := ofString (String.ofList c.rest)
    c.scan.item = d.scan.item.moved c.offset c.location.behindReturn ∧
      Follows c.offset c.location.behindReturn d.scan.cursor c.scan.cursor := by
  intro d
  obtain ⟨rest, hrest⟩ := List.head?_eq_some_iff.mp h.2
  have hfresh : d.rest = '\n' :: rest := by
    rw [← hrest]
    exact String.toList_ofList
  obtain ⟨hitem, hcursor⟩ := scan_of_blank hrest (by decide)
  obtain ⟨hitem', hcursor'⟩ := scan_of_blank hfresh (by decide)
  rw [hitem, hcursor, hitem', hcursor']
  exact (follows_ofString_advance h hcolumn).scan (relocates_behindReturn hline)

end Cursor

namespace Stream

def later (s : Stream) : Nat → Stream
  | 0 => s
  | n + 1 => s.pull.2.later n

def pulls (s : Stream) : Nat → List Item
  | 0 => []
  | n + 1 => s.pull.1.item :: s.pull.2.pulls n

section Later

variable {source : String} {s t : Stream} {offset : Offset} {move : Location → Location}

theorem pulls_add (s : Stream) (m n : Nat) :
    s.pulls (m + n) = s.pulls m ++ (s.later m).pulls n := by
  induction m generalizing s with
  | zero =>
    rw [Nat.zero_add]
    rfl
  | succ m ih =>
    rw [Nat.add_right_comm]
    exact congrArg _ (ih s.pull.2)

theorem later_succ (s : Stream) (n : Nat) : s.later (n + 1) = (s.later n).pull.2 := by
  induction n generalizing s with
  | zero => rfl
  | succ n ih => exact ih s.pull.2

theorem Reachable.later (h : s.Reachable source) (n : Nat) : (s.later n).Reachable source := by
  induction n generalizing s with
  | zero => exact h
  | succ n ih => exact ih h.pull

theorem pull_later_of_follows (h : Cursor.Follows offset move t.cursor s.cursor)
    (hmove : Relocates move) (m : Nat) :
    (s.later m).pull.1.item = (t.later m).pull.1.item.moved offset move := by
  induction m generalizing s t with
  | zero => exact (h.scan hmove).1
  | succ m ih =>
    have hnext : Cursor.Follows offset move t.pull.2.cursor s.pull.2.cursor := (h.scan hmove).2
    exact ih hnext

theorem pull_later_of_scan (hitem : s.cursor.scan.item = t.cursor.scan.item.moved offset move)
    (hcursor : Cursor.Follows offset move t.cursor.scan.cursor s.cursor.scan.cursor)
    (hmove : Relocates move) (m : Nat) :
    (s.later m).pull.1.item = (t.later m).pull.1.item.moved offset move := by
  cases m with
  | zero => exact hitem
  | succ m =>
    have hnext : Cursor.Follows offset move t.pull.2.cursor s.pull.2.cursor := hcursor
    exact pull_later_of_follows hnext hmove m

end Later

/-- From now on the stream yields what a fresh stream of the rest of the source yields, moved to
where the stream stands. -/
structure IsLikeFresh (s : Stream) (source : String) (front rest : List Char) : Prop where
  source_eq : source.toList = front ++ rest
  offset_eq : s.cursor.offset = Text.width front
  moved : ¬ InsideBreak source s.cursor.offset → ∀ m, (s.later m).pull.1.item =
    ((ofString (String.ofList rest)).later m).pull.1.item.moved s.cursor.offset
      s.cursor.location.behind
  /-- In the middle of a line break the fresh stream counts this break once more. -/
  insideBreak : InsideBreak source s.cursor.offset → ∀ m, (s.later m).pull.1.item =
    ((ofString (String.ofList rest)).later m).pull.1.item.moved s.cursor.offset
      s.cursor.location.behindReturn

/-- After any number of items, whether tokens or errors, nothing but the rest of the source and the
place where it begins has a part in the items to come. -/
theorem pulls_are_local (source : String) (n : Nat) :
    ∃ front rest, ((ofString source).later n).IsLikeFresh source front rest := by
  set s := (ofString source).later n
  have hs : s.Reachable source := Reachable.start.later n
  obtain ⟨front, hc⟩ := hs.standsBehind
  refine ⟨front, s.cursor.rest, hc.source_eq, hc.offset_eq, ?_, ?_⟩
  · intro hbreak
    have hclear : ¬ s.cursor.AmidBreak := fun hamid => hbreak (hc.insideBreak_iff.mpr hamid)
    obtain ⟨hitem, hcursor⟩ := Cursor.scan_ofString_of_not_amidBreak hclear
    exact pull_later_of_scan hitem hcursor (relocates_behind _)
  · intro hbreak
    have hamid := hc.insideBreak_iff.mp hbreak
    obtain ⟨before, line, back, after, hline⟩ := hc.exists_onLine
    rcases hline.location with ⟨hclear, _⟩ | ⟨_, hlocation⟩
    · exact absurd hamid hclear
    · have hfirst : 1 ≤ s.cursor.location.line := by
        rw [hlocation]
        exact Nat.le_add_left 1 _
      have hcolumn : s.cursor.location.column = 1 := by rw [hlocation]
      obtain ⟨hitem, hcursor⟩ := Cursor.scan_ofString_of_amidBreak hamid hfirst hcolumn
      exact pull_later_of_scan hitem hcursor (relocates_behindReturn hfirst)

-- The error for the open quote reads the carriage return, and with it the line break.
example :
    let s := (ofString "\"\r\nx").later 1
    s.cursor.location = { line := 2 } ∧ s.pull.1.item.location = { line := 2 } ∧
      (ofString "\nx").pull.1.item.location = { line := 2 } := by
  decide +kernel

end Stream

end Lexis
