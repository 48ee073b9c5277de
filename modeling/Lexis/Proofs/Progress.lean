import Lexis.Proofs.Locality

/-!
Scanning ends, and how soon. A run takes few more steps than it reads characters
(`Takes.length_le`): besides the last step only two moves read nothing, into a word, from where no
way leads back to the start, and from a line comment at the end of the source. Every item but the
end of the source costs a character, so the end comes after at most as many items as the source has
characters (`Stream.exists_end`).
-/

set_option autoImplicit false
set_option relaxedAutoImplicit false

namespace Lexis

structure Decision where
  state : State
  symbol : Option Char
  action : Action
  deriving DecidableEq, Repr

def Event.decision? : Event → Option Decision
  | step state symbol action => some { state, symbol, action }
  | _ => none

def Scan.decisions (scan : Scan) : List Decision := scan.log.filterMap Event.decision?

namespace Action

def isEnter : Action → Bool
  | enter _ => true
  | _ => false

def isKeep : Action → Bool
  | keep _ => true
  | _ => false

end Action

/-- At most one of the decisions enters a word, and the next one reads the first character of this
word. -/
structure EntersOnce (decisions : List Decision) : Prop where
  countP_le : decisions.countP (·.action.isEnter) ≤ 1
  isKeep : ∀ before d after, decisions = before ++ d :: after → d.action.isEnter = true →
    ∃ e later, after = e :: later ∧ e.action.isKeep = true

section EntersOnce

variable {d e : Decision} {decisions later : List Decision}

theorem entersOnce_of_forall (h : ∀ d ∈ decisions, d.action.isEnter = false) :
    EntersOnce decisions where
  countP_le := by
    have hcount : decisions.countP (·.action.isEnter) = 0 := by
      rw [List.countP_eq_zero]
      intro d hd
      rw [h d hd]
      exact Bool.false_ne_true
    rw [hcount]
    exact Nat.zero_le 1
  isKeep := by
    rintro before d after rfl henter
    rw [h d (by simp)] at henter
    cases henter

theorem EntersOnce.cons (h : EntersOnce decisions) (hd : d.action.isEnter = false) :
    EntersOnce (d :: decisions) where
  countP_le := by
    rw [List.countP_cons_of_neg (by rw [hd]; exact Bool.false_ne_true)]
    exact h.countP_le
  isKeep := by
    intro before other after heq henter
    cases before with
    | nil =>
      obtain ⟨rfl, _⟩ := List.cons.inj heq
      rw [hd] at henter
      cases henter
    | cons first before => exact h.isKeep before other after (List.cons.inj heq).2 henter

theorem entersOnce_cons_cons (d : Decision) (hkeep : e.action.isKeep = true)
    (hnone : ∀ d ∈ e :: later, d.action.isEnter = false) : EntersOnce (d :: e :: later) where
  countP_le := by
    rw [List.countP_cons, List.countP_eq_zero.mpr fun d hd => by simp [hnone d hd]]
    split <;> simp
  isKeep := by
    intro before other after heq henter
    cases before with
    | nil =>
      obtain ⟨_, rfl⟩ := List.cons.inj heq
      exact ⟨e, later, rfl, hkeep⟩
    | cons first before =>
      exact (entersOnce_of_forall hnone).isKeep before other after (List.cons.inj heq).2 henter

end EntersOnce

def State.isInWord : State → Bool
  | identifier | integer => true
  | _ => false

theorem transition_of_isInWord {state : State} (h : state.isInWord = true)
    (symbol : Option Char) (lexeme : String) :
    transition state symbol lexeme = .keep state ∨
      (∃ kind, transition state symbol lexeme = .emit kind) ∨
      ∃ fault, transition state symbol lexeme = .fail fault := by
  cases state with
  | identifier =>
    rw [transition]
    split
    · exact .inl rfl
    · exact .inr (.inl ⟨_, rfl⟩)
  | integer =>
    rw [transition]
    split
    · exact .inl rfl
    · split
      · exact .inr (.inr ⟨_, rfl⟩)
      · exact .inr (.inl ⟨_, rfl⟩)
  | _ => cases h

namespace Scanner

def decision (s : Scanner) : Decision where
  state := s.state
  symbol := s.cursor.current?
  action := s.action

/-- From the scanner on the automaton takes the decisions, one step after the other, and the last
one finishes the item. -/
inductive Takes : Scanner → List Decision → Item → Cursor → Prop
  | done {s : Scanner} {item : Item} {cursor : Cursor} : s.step = .done item cursor →
      Takes s [s.decision] item cursor
  | more {s t : Scanner} {decisions : List Decision} {item : Item} {cursor : Cursor} :
      s.step = .more t → Takes t decisions item cursor →
      Takes s (s.decision :: decisions) item cursor

section Takes

variable {s t : Scanner} {decisions : List Decision} {item : Item} {cursor : Cursor}

theorem filterMap_log (s : Scanner) : s.log.filterMap Event.decision? = [s.decision] := by
  have hnone : (s.consequences s.action).filterMap Event.decision? = [] := by
    cases s.action with
    | restart =>
      rw [consequences]
      split <;> rfl
    | _ => rfl
  rw [log, List.filterMap_cons, Event.decision?, hnone]
  rfl

theorem takes_run (s : Scanner) : s.Takes s.run.decisions s.run.item s.run.cursor := by
  induction s using run.induct with
  | case1 s t hstep ih =>
    have hlog : ({ t.run with log := s.log ++ t.run.log } : Scan).decisions =
        s.decision :: t.run.decisions := by
      rw [Scan.decisions, List.filterMap_append, s.filterMap_log]
      rfl
    rw [run_of_more hstep, hlog]
    exact .more hstep ih
  | case2 s item cursor hstep =>
    have hlog : ({ item, log := s.log, cursor } : Scan).decisions = [s.decision] := s.filterMap_log
    rw [run_of_done hstep, hlog]
    exact .done hstep

theorem Takes.exists_cons (h : s.Takes decisions item cursor) :
    ∃ later, decisions = s.decision :: later := by
  cases h with
  | done _ => exact ⟨[], rfl⟩
  | more _ _ => exact ⟨_, rfl⟩

end Takes

section Step

variable {s t : Scanner} {item : Item} {cursor : Cursor}

theorem isEnter_eq_false_of_done (h : s.step = .done item cursor) :
    s.action.isEnter = false := by
  cases ends_of_step h with
  | emit ha | fail ha =>
    rw [ha]
    rfl

theorem Moves.of_isInWord (h : s.Moves t) (hs : s.state.isInWord = true) :
    s.action = .keep s.state ∧ t.state = s.state := by
  have hword := transition_of_isInWord hs s.cursor.current? s.lexeme
  change s.action = _ ∨ (∃ kind, s.action = _) ∨ (∃ fault, s.action = _) at hword
  cases h with
  | keep _ ha => simp_all
  | _ => simp_all

end Step

section Enter

variable {s t : Scanner} {decisions : List Decision} {item : Item} {cursor : Cursor}

theorem isEnter_eq_false_of_isInWord (hs : s.state.isInWord = true) :
    s.action.isEnter = false := by
  rcases transition_of_isInWord hs s.cursor.current? s.lexeme with ha | ⟨_, ha⟩ | ⟨_, ha⟩ <;>
    rw [action, ha] <;> rfl

theorem Takes.isEnter_eq_false (h : s.Takes decisions item cursor)
    (hs : s.state.isInWord = true) : ∀ d ∈ decisions, d.action.isEnter = false := by
  induction h with
  | done _ =>
    intro d hd
    obtain rfl := List.mem_singleton.mp hd
    exact isEnter_eq_false_of_isInWord hs
  | @more s t decisions _ _ hstep _ ih =>
    have hstate := ((moves_of_step hstep).of_isInWord hs).2
    intro d hd
    rcases List.mem_cons.mp hd with rfl | hd
    · exact isEnter_eq_false_of_isInWord hs
    · exact ih (hstate ▸ hs) d hd

theorem transition_of_first {c : Char} {next : State} (lexeme : String)
    (h : (next = .integer ∧ isDigit c = true) ∨ (next = .identifier ∧ isLetter c = true)) :
    next.isInWord = true ∧ transition next (some c) lexeme = .keep next := by
  rcases h with ⟨rfl, hc⟩ | ⟨rfl, hc⟩
  · exact ⟨rfl, by rw [transition, Option.any_some, if_pos hc]⟩
  · exact ⟨rfl, by rw [transition, Option.any_some, if_pos (isWordChar_of_isLetter hc)]⟩

theorem Takes.entersOnce (h : s.Takes decisions item cursor) : EntersOnce decisions := by
  induction h with
  | @done s _ _ hstep =>
    refine entersOnce_of_forall ?_
    intro d hd
    obtain rfl := List.mem_singleton.mp hd
    exact isEnter_eq_false_of_done hstep
  | @more s t decisions item cursor hstep hlater ih =>
    cases henter : s.action.isEnter with
    | false => exact ih.cons henter
    | true =>
      cases moves_of_step hstep with
      | @enter c next hsym _ _ hfirst =>
        -- The next decision reads the character in front of which the word was entered.
        obtain ⟨hword, hkeep⟩ := transition_of_first s.lexeme hfirst
        have hnone := hlater.isEnter_eq_false hword
        obtain ⟨later, rfl⟩ := hlater.exists_cons
        refine entersOnce_cons_cons _ ?_ hnone
        change (transition next s.cursor.current? s.lexeme).isKeep = true
        rw [hsym, hkeep]
        rfl
      | keep _ ha => simp [ha, Action.isEnter] at henter
      | drop _ ha => simp [ha, Action.isEnter] at henter
      | restart _ ha => simp [ha, Action.isEnter] at henter
      | restartAtEnd _ _ ha => simp [ha, Action.isEnter] at henter

end Enter

/-- How many steps of a run from here on may read nothing. -/
def spare (s : Scanner) : Nat :=
  if s.state.isInWord = true ∨ (s.state = .start ∧ s.cursor.rest = []) then 1 else 2

section Spare

variable {s t : Scanner} {decisions : List Decision} {item : Item} {cursor : Cursor}

theorem one_le_spare (s : Scanner) : 1 ≤ s.spare := by
  rw [spare]
  split <;> omega

theorem spare_le_two (s : Scanner) : s.spare ≤ 2 := by
  rw [spare]
  split <;> omega

theorem spare_of_isInWord (h : s.state.isInWord = true) : s.spare = 1 := if_pos (.inl h)

theorem spare_of_reads {c : Char} (h : s.cursor.current? = some c)
    (hs : s.state.isInWord = false) : s.spare = 2 := by
  refine if_neg ?_
  rintro (hword | ⟨_, hnil⟩)
  · rw [hs] at hword
    cases hword
  · rw [Cursor.current?_eq_none_iff.mpr hnil] at h
    cases h

theorem Moves.spare_lt (h : s.Moves t) :
    t.cursor.remaining + t.spare < s.cursor.remaining + s.spare := by
  cases hword : s.state.isInWord with
  | true =>
    obtain ⟨hkeep, hstate⟩ := h.of_isInWord hword
    rw [spare_of_isInWord hword, spare_of_isInWord (hstate ▸ hword)]
    cases h with
    | keep hsym _ => exact Nat.add_lt_add_right (Cursor.remaining_advance_lt hsym) 1
    | _ => simp_all
  | false =>
    have hle := t.spare_le_two
    cases h with
    | keep hsym _ | drop hsym _ | restart hsym _ =>
      have hread := Cursor.remaining_advance_lt hsym
      rw [spare_of_reads hsym hword]
      exact Nat.add_lt_add_of_lt_of_le hread hle
    | enter hsym _ _ hfirst =>
      rw [spare_of_reads hsym hword,
        spare_of_isInWord (transition_of_first s.lexeme hfirst).1]
      exact Nat.lt_succ_self _
    | restartAtEnd hnil hstate _ =>
      have hhere : s.spare = 2 := by
        rw [spare, hword, hstate]
        rfl
      have hthere : (ofCursor s.cursor).spare = 1 := if_pos (.inr ⟨rfl, hnil⟩)
      rw [hhere, hthere]
      exact Nat.lt_succ_self _

theorem Takes.length_le (h : s.Takes decisions item cursor) :
    decisions.length + cursor.remaining ≤ s.cursor.remaining + s.spare := by
  induction h with
  | @done s _ cursor hstep =>
    have hle := remaining_le_of_done hstep
    have hspare := s.one_le_spare
    rw [List.length_singleton]
    omega
  | more hstep _ ih =>
    have hlt := (moves_of_step hstep).spare_lt
    rw [List.length_cons]
    omega

end Spare

end Scanner

namespace Stream

theorem exists_end (s : Stream) : ∃ n ≤ s.cursor.remaining,
    (s.later n).pull.1.item.isEnd = true ∧ (∀ m < n, (s.later m).pull.1.item.isEnd = false) ∧
      s.cursor.scans.map (·.item) = s.pulls (n + 1) := by
  generalize hc : s.cursor = c
  induction c using Cursor.scan_induction generalizing s with
  | stop c hend =>
    subst hc
    refine ⟨0, Nat.zero_le _, hend, fun m hm => absurd hm (Nat.not_lt_zero m), ?_⟩
    rw [Cursor.scans_of_isEnd hend]
    rfl
  | go c hend ih =>
    subst hc
    obtain ⟨n, hle, hlast, hbefore, hitems⟩ := ih s.pull.2 rfl
    have hread := Cursor.remaining_scan_lt hend
    refine ⟨n + 1, Nat.lt_of_le_of_lt hle hread, hlast, ?_, ?_⟩
    · intro m hm
      cases m with
      | zero => exact hend
      | succ m => exact hbefore m (Nat.lt_of_succ_lt_succ hm)
    · rw [Cursor.scans_of_not_isEnd hend, List.map_cons, hitems]
      rfl

/-- What taking the next item of the source from the stream amounts to. -/
structure Advances (s : Stream) (source : String) (decisions : List Decision)
    (read : List Char) : Prop where
  takes : (Scanner.ofCursor s.cursor).Takes decisions s.pull.1.item s.pull.2.cursor
  logged : s.pull.1.decisions = decisions
  rest_eq : s.cursor.rest = read ++ s.pull.2.cursor.rest
  length_le : decisions.length ≤ read.length + 2
  entersOnce : EntersOnce decisions
  read_ne_nil : s.pull.1.item.isEnd = false → read ≠ []
  atEnd : s.pull.1.item.isEnd = true → s.pull.2.cursor.StandsBehind source source.toList

theorem Reachable.exists_advances {source : String} {s : Stream} (h : s.Reachable source) :
    ∃ decisions read, s.Advances source decisions read := by
  obtain ⟨front, hc⟩ := h.standsBehind
  obtain ⟨gap, tail, verdict, hahead, hitem, hcursor⟩ := s.cursor.exists_ahead_scan
  obtain ⟨rest, hsplit⟩ := hahead.exists_split
  have hrest : s.cursor.rest = (gap ++ verdict.extent tail) ++ s.pull.2.cursor.rest := by
    change _ = _ ++ s.cursor.scan.cursor.rest
    rw [hcursor, Cursor.rest_after hsplit, hsplit]
  have hremaining : s.cursor.remaining =
      (gap ++ verdict.extent tail).length + s.pull.2.cursor.remaining := by
    rw [Cursor.remaining, hrest, List.length_append]
    rfl
  have htakes := (Scanner.ofCursor s.cursor).takes_run
  have hlength := htakes.length_le
  have hspare := (Scanner.ofCursor s.cursor).spare_le_two
  change _ + s.pull.2.cursor.remaining ≤ s.cursor.remaining + _ at hlength
  refine ⟨_, _,
    { takes := htakes
      logged := rfl
      rest_eq := hrest
      length_le := by omega
      entersOnce := htakes.entersOnce
      read_ne_nil := ?_
      atEnd := ?_ }⟩
  · intro hend hnil
    have hread : s.pull.2.cursor.remaining < s.cursor.remaining := Cursor.remaining_scan_lt hend
    rw [hremaining, hnil] at hread
    simp at hread
  · intro hend
    change s.cursor.scan.item.isEnd = true at hend
    obtain ⟨blank, hfinish, _, hthere⟩ := Cursor.exists_ahead_of_isEnd hend
    have hbehind := hc.after hfinish.text_eq
    have hall : source.toList = front ++ blank := by
      rw [hbehind.source_eq, Cursor.rest_after hfinish.text_eq, List.append_nil]
    change s.cursor.scan.cursor.StandsBehind _ _
    rw [hthere, hall]
    exact hbehind

/-- Taking an item from a stream of a source ends after at most two steps more than it reads
characters, and reads at least one unless it finds the end, which it does only where the source
ends. So the end comes after at most as many items as the source has characters, and the items of
the source, which tell whether it is accepted, are those up to then. -/
theorem reading_ends (source : String) :
    (∀ s : Stream, s.Reachable source → ∃ decisions read, s.Advances source decisions read) ∧
    ∃ n ≤ source.length, ((ofString source).later n).pull.1.item.isEnd = true ∧
      (∀ m < n, ((ofString source).later m).pull.1.item.isEnd = false) ∧
      items source = (ofString source).pulls (n + 1) := by
  refine ⟨fun s h => h.exists_advances, ?_⟩
  obtain ⟨n, hle, hend⟩ := (ofString source).exists_end
  exact ⟨n, hle, hend⟩

end Stream

end Lexis
