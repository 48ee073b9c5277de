import Lexis.Proofs.Outcome
import Lexis.Stream

/-!
The items of a source, one behind the other. A course is a list of items such that each of them
reports what lies ahead where the one before it ended; from every cursor there is exactly one
course, and it is the one that the scans take (`course_iff`).
-/

set_option autoImplicit false
set_option relaxedAutoImplicit false

namespace Lexis

/-- The items from the cursor to the end of the source. -/
inductive Course : Cursor → List Item → Prop
  | finish {c : Cursor} {gap : List Char} : Ahead c.rest gap [] .finish →
      Course c [Verdict.finish.item (c.after gap)]
  | cons {c : Cursor} {gap tail : List Char} {verdict : Verdict} {items : List Item} :
      Ahead c.rest gap tail verdict → verdict ≠ .finish →
      Course (c.after (gap ++ verdict.extent tail)) items →
      Course c (verdict.item (c.after gap) :: items)

theorem Decides.isEnd_item_iff {text : List Char} {verdict : Verdict} (h : Decides text verdict)
    (c : Cursor) : (verdict.item c).isEnd = true ↔ verdict = .finish := by
  cases h with
  | finish => simp [Verdict.item, Item.isEnd, Token.isEnd]
  | accept hlexeme _ =>
    simp [Verdict.item, Item.isEnd, Token.isEnd, hlexeme.kind_ne_endOfInput]
  | refuse _ => simp [Verdict.item, Item.isEnd]

theorem Decides.isEnd_item_eq_false {text : List Char} {verdict : Verdict}
    (h : Decides text verdict) (hfinish : verdict ≠ .finish) (c : Cursor) :
    (verdict.item c).isEnd = false := by
  rw [Bool.eq_false_iff, ne_eq, h.isEnd_item_iff]
  exact hfinish

theorem Cursor.exists_ahead_of_isEnd {c : Cursor} (h : c.scan.item.isEnd = true) :
    ∃ gap, Ahead c.rest gap [] .finish ∧ c.scan.item = Verdict.finish.item (c.after gap) ∧
      c.scan.cursor = c.after gap := by
  obtain ⟨gap, tail, verdict, hahead, hitem, hcursor⟩ := c.exists_ahead_scan
  rw [hitem, hahead.decides.isEnd_item_iff] at h
  subst h
  obtain rfl := hahead.decides.eq_nil
  rw [Verdict.extent, List.append_nil] at hcursor
  exact ⟨gap, hahead, hitem, hcursor⟩

theorem course_scans (c : Cursor) : Course c (c.scans.map (·.item)) := by
  induction c using Cursor.scan_induction with
  | stop c hend =>
    obtain ⟨gap, hahead, hitem, _⟩ := Cursor.exists_ahead_of_isEnd hend
    rw [Cursor.scans_of_isEnd hend, List.map_singleton, hitem]
    exact .finish hahead
  | go c hend ih =>
    obtain ⟨gap, tail, verdict, hahead, hitem, hcursor⟩ := c.exists_ahead_scan
    rw [Cursor.scans_of_not_isEnd hend, List.map_cons]
    rw [hitem, Bool.eq_false_iff, ne_eq, hahead.decides.isEnd_item_iff] at hend
    rw [hcursor] at ih
    rw [hitem, hcursor]
    exact .cons hahead hend ih

theorem Course.ne_nil {c : Cursor} {items : List Item} (h : Course c items) : items ≠ [] := by
  cases h <;> exact List.cons_ne_nil _ _

theorem Course.eq_scans {c : Cursor} {items : List Item} (h : Course c items) :
    items = c.scans.map (·.item) := by
  induction h with
  | @finish c gap hahead =>
    obtain ⟨hitem, _⟩ := Cursor.scan_of_ahead hahead
    have hend : c.scan.item.isEnd = true := by
      rw [hitem]
      rfl
    rw [Cursor.scans_of_isEnd hend, List.map_singleton, hitem]
  | @cons c gap tail verdict items hahead hfinish _ ih =>
    obtain ⟨hitem, hcursor⟩ := Cursor.scan_of_ahead hahead
    have hend : c.scan.item.isEnd = false := by
      rw [hitem]
      exact hahead.decides.isEnd_item_eq_false hfinish _
    rw [Cursor.scans_of_not_isEnd hend, List.map_cons, hitem, hcursor, ih]

/-- A cursor has one course only, that of its scans. -/
theorem course_iff {c : Cursor} {items : List Item} :
    Course c items ↔ c.scans.map (·.item) = items :=
  ⟨fun h => h.eq_scans.symm, fun h => h ▸ course_scans c⟩

theorem course_items (source : String) : Course (Cursor.ofString source) (items source) :=
  course_scans _

theorem Cursor.map_item_scans_congr {c d : Cursor} (hitem : c.scan.item = d.scan.item)
    (hcursor : c.scan.cursor = d.scan.cursor) :
    c.scans.map (·.item) = d.scans.map (·.item) := by
  cases hend : d.scan.item.isEnd with
  | true =>
    rw [scans_of_isEnd hend, scans_of_isEnd (hitem ▸ hend), List.map_singleton,
      List.map_singleton, hitem]
  | false =>
    rw [scans_of_not_isEnd hend, scans_of_not_isEnd (hitem ▸ hend), List.map_cons, List.map_cons,
      hitem, hcursor]

private theorem filterMap_eq_iff {items : List Item} {tokens : List Token} :
    items.filterMap Item.error? = [] ∧ items.filterMap Item.token? = tokens ↔
      items = tokens.map .ok := by
  induction items generalizing tokens with
  | nil => cases tokens <;> simp
  | cons item items ih =>
    cases item with
    | error e => cases tokens <;> simp [Item.error?]
    | ok token =>
      have herrors : (Except.ok token :: items).filterMap Item.error? =
          items.filterMap Item.error? := rfl
      have htokens : (Except.ok token :: items).filterMap Item.token? =
          token :: items.filterMap Item.token? := rfl
      rw [herrors, htokens]
      cases tokens with
      | nil => simp
      | cons first tokens =>
        rw [List.cons.injEq, List.map_cons, List.cons.injEq, Except.ok.injEq, ← ih]
        tauto

theorem lex_eq_ok_iff {source : String} {tokens : List Token} :
    lex source = .ok tokens ↔ items source = tokens.map .ok := by
  rw [← filterMap_eq_iff, lex]
  split
  · next hnone => rw [Except.ok.injEq, hnone, eq_self, true_and]
  · next errors hsome =>
    constructor
    · intro h
      cases h
    · intro h
      exact absurd h.1 hsome

theorem lex_eq_error_iff {source : String} {errors : List LexError} :
    lex source = .error errors ↔ (items source).filterMap Item.error? = errors ∧ errors ≠ [] := by
  rw [lex]
  split
  · next hnone =>
    rw [hnone]
    simp [eq_comm]
  · next found hsome =>
    rw [Except.error.injEq]
    constructor
    · rintro rfl
      exact ⟨rfl, hsome⟩
    · exact And.left

theorem isOk_lex (source : String) :
    (lex source).isOk = ((items source).filterMap Item.error?).isEmpty := by
  rw [lex]
  split
  · next hnone =>
    rw [hnone]
    rfl
  · next hsome =>
    exact (List.isEmpty_eq_false_iff.mpr hsome).symm

theorem isOk_lex_iff {source : String} :
    (lex source).isOk = true ↔ ∀ item ∈ items source, item.isError = false := by
  rw [isOk_lex, List.isEmpty_iff, List.filterMap_eq_nil_iff]
  apply forall₂_congr
  intro item _
  cases item <;> simp [Item.error?, Item.isError]

theorem forall_mem_errors_iff {source : String} {p : LexError → Prop} :
    (∀ errors, lex source = .error errors → ∀ e ∈ errors, p e) ↔
      ∀ e, .error e ∈ items source → p e := by
  constructor
  · intro h e he
    have hmem : e ∈ (items source).filterMap Item.error? := List.mem_filterMap.mpr ⟨_, he, rfl⟩
    exact h _ (lex_eq_error_iff.mpr ⟨rfl, List.ne_nil_of_mem hmem⟩) e hmem
  · intro h errors hlex e he
    obtain ⟨rfl, _⟩ := lex_eq_error_iff.mp hlex
    obtain ⟨item, hitem, hsome⟩ := List.mem_filterMap.mp he
    rw [Item.error?_eq_some_iff] at hsome
    subst hsome
    exact h e hitem

/-- The states that a stream of the source can be brought to by taking items from it. -/
inductive Stream.Reachable (source : String) : Stream → Prop
  | start : Reachable source (ofString source)
  | pull {s : Stream} : Reachable source s → Reachable source s.pull.2
  | next {s t : Stream} {scan : Scan} : Reachable source s → s.next? = some (scan, t) →
      Reachable source t

theorem Cursor.StandsBehind.scan {c : Cursor} {source : String} {front : List Char}
    (h : c.StandsBehind source front) : ∃ longer, c.scan.cursor.StandsBehind source longer := by
  obtain ⟨gap, tail, verdict, hahead, _, hcursor⟩ := c.exists_ahead_scan
  obtain ⟨rest, hsplit⟩ := hahead.exists_split
  rw [hcursor]
  exact ⟨_, h.after hsplit⟩

theorem Stream.Reachable.standsBehind {source : String} {s : Stream} (h : s.Reachable source) :
    ∃ front, s.cursor.StandsBehind source front := by
  induction h with
  | start => exact ⟨[], .ofString⟩
  | pull _ ih =>
    obtain ⟨front, hfront⟩ := ih
    exact hfront.scan
  | @next s t scan _ hnext ih =>
    obtain ⟨front, hfront⟩ := ih
    have hcursor : t.cursor = s.cursor.scan.cursor := by
      unfold next? at hnext
      split at hnext
      · cases hnext
      · simp only [Stream.pull, Option.some.injEq, Prod.mk.injEq] at hnext
        rw [← hnext.2]
    rw [hcursor]
    exact hfront.scan

end Lexis
