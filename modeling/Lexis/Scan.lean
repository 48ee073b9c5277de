import Lexis.Scanner

/-!
Scanning a source item by item. Every scan but the one that finds the end reads at least one
character (`remaining_scan_lt`), so the scans up to the end are a finite list; the tokens, the
errors and the events of a source are views of that list.
-/

set_option autoImplicit false
set_option relaxedAutoImplicit false

namespace Lexis

namespace Scanner

private theorem remaining_le_of_more {s t : Scanner} (h : s.step = .more t) :
    t.cursor.remaining ≤ s.cursor.remaining := by
  cases moves_of_step h with
  | keep _ _ | drop _ _ | restart _ _ => exact s.cursor.remaining_advance_le
  | enter _ _ _ _ | restartAtEnd _ _ _ => exact Nat.le_refl _

theorem remaining_le_of_done {s : Scanner} {item : Item} {cursor : Cursor}
    (h : s.step = .done item cursor) : cursor.remaining ≤ s.cursor.remaining := by
  cases ends_of_step h with
  | emit _ => exact Nat.le_refl _
  | fail _ => exact s.cursor.remaining_advance_le

theorem remaining_run_le (s : Scanner) : s.run.cursor.remaining ≤ s.cursor.remaining := by
  induction s using run.induct with
  | case1 s t h ih =>
    rw [run_of_more h]
    exact Nat.le_trans ih (remaining_le_of_more h)
  | case2 s item cursor h =>
    rw [run_of_done h]
    exact remaining_le_of_done h

/-- Nothing of a lexeme has been read, and the state fits the character under the cursor. -/
private def Fresh (s : Scanner) : Prop :=
  s.state = .start ∨ (s.state = .integer ∧ s.cursor.current?.any isDigit) ∨
    (s.state = .identifier ∧ s.cursor.current?.any isLetter)

private theorem fresh_of_more {s t : Scanner} (hs : s.Fresh) (h : s.step = .more t) :
    (t.Fresh ∧ t.cursor = s.cursor) ∨ t.cursor.remaining < s.cursor.remaining := by
  cases moves_of_step h with
  | keep hsym _ | drop hsym _ | restart hsym _ =>
    exact Or.inr (Cursor.remaining_advance_lt hsym)
  | enter hsym _ _ hnext =>
    refine Or.inl ⟨Or.inr ?_, rfl⟩
    simpa [hsym] using hnext
  | restartAtEnd _ hstate _ =>
    -- A line comment has been read into.
    rcases hs with hfresh | ⟨hfresh, _⟩ | ⟨hfresh, _⟩
    all_goals
      rw [hstate] at hfresh
      cases hfresh

private theorem begin_ne_emit (c : Char) (kind : Kind) : begin (some c) ≠ .emit kind := by
  simp only [begin]
  repeat' split
  all_goals simp

private theorem fresh_ne_emit {s : Scanner} {c : Char} (hs : s.Fresh)
    (hsym : s.cursor.current? = some c) (kind : Kind) : s.action ≠ .emit kind := by
  rcases hs with hstate | ⟨hstate, hany⟩ | ⟨hstate, hany⟩
  · rw [action, hstate, hsym]
    exact begin_ne_emit c kind
  · simp [action, hstate, transition, hany]
  · have hword : s.cursor.current?.any isWordChar := by
      simp_all [isWordChar]
    simp [action, hstate, transition, hword]

private theorem action_of_fresh {s : Scanner} (hs : s.Fresh) (hsym : s.cursor.current? = none) :
    s.action = .emit .endOfInput := by
  rcases hs with hstate | ⟨_, hany⟩ | ⟨_, hany⟩
  · rw [action, hstate, hsym]
    rfl
  · simp [hsym] at hany
  · simp [hsym] at hany

private theorem fresh_of_done {s : Scanner} {item : Item} {cursor : Cursor} (hs : s.Fresh)
    (h : s.step = .done item cursor) :
    item.isEnd = true ∨ cursor.remaining < s.cursor.remaining := by
  cases hsym : s.cursor.current? with
  | none =>
    have hend := action_of_fresh hs hsym
    cases ends_of_step h with
    | emit ha =>
      obtain rfl := Action.emit.inj (hend.symm.trans ha)
      exact .inl rfl
    | fail ha => cases hend.symm.trans ha
  | some c =>
    cases ends_of_step h with
    | emit ha => exact absurd ha (fresh_ne_emit hs hsym _)
    | fail _ => exact .inr (Cursor.remaining_advance_lt hsym)

private theorem remaining_run_lt {s : Scanner} (hs : s.Fresh) :
    s.run.item.isEnd = true ∨ s.run.cursor.remaining < s.cursor.remaining := by
  induction s using run.induct with
  | case1 s t h ih =>
    rw [run_of_more h]
    rcases fresh_of_more hs h with ⟨ht, hcursor⟩ | hread
    · simpa [hcursor] using ih ht
    · exact Or.inr (Nat.lt_of_le_of_lt (remaining_run_le t) hread)
  | case2 s item cursor h =>
    rw [run_of_done h]
    exact fresh_of_done hs h

end Scanner

namespace Cursor

def scan (c : Cursor) : Scan := (Scanner.ofCursor c).run

theorem remaining_scan_lt {c : Cursor} (h : c.scan.item.isEnd = false) :
    c.scan.cursor.remaining < c.remaining := by
  rcases Scanner.remaining_run_lt (s := Scanner.ofCursor c) (Or.inl rfl) with hend | hlt
  · rw [scan, hend] at h
    cases h
  · exact hlt

/-- The scans from the cursor up to and including the one that finds the end of the source. -/
def scans (c : Cursor) : List Scan :=
  let first := c.scan
  if _h : first.item.isEnd then [first] else first :: first.cursor.scans
termination_by c.remaining
decreasing_by exact remaining_scan_lt (by simpa using _h)

theorem scans_of_isEnd {c : Cursor} (h : c.scan.item.isEnd = true) : c.scans = [c.scan] := by
  rw [scans]
  simp [h]

theorem scans_of_not_isEnd {c : Cursor} (h : c.scan.item.isEnd = false) :
    c.scans = c.scan :: c.scan.cursor.scans := by
  rw [scans]
  simp [h]

@[elab_as_elim]
theorem scan_induction {motive : Cursor → Prop}
    (stop : ∀ c, c.scan.item.isEnd = true → motive c)
    (go : ∀ c, c.scan.item.isEnd = false → motive c.scan.cursor → motive c) (c : Cursor) :
    motive c := by
  induction c using Cursor.scans.induct with
  | case1 c first hend => exact stop c hend
  | case2 c first hend ih => exact go c (Bool.eq_false_iff.mpr hend) ih

end Cursor

/-- The items of a source, in order, the end last. -/
def items (source : String) : List Item := (Cursor.ofString source).scans.map (·.item)

def events (source : String) : List Event := (Cursor.ofString source).scans.flatMap (·.log)

/-- All tokens of a source, or all of its errors if there is one. -/
def lex (source : String) : Except (List LexError) (List Token) :=
  match (items source).filterMap Item.error? with
  | [] => .ok ((items source).filterMap Item.token?)
  | errors => .error errors

example : (lex "si // x").toOption =
    some [⟨.keyword .si, "si", { stop := 2 }, {}⟩,
      ⟨.endOfInput, "", { start := 7, stop := 7 }, { column := 8 }⟩] := by decide +kernel

end Lexis
