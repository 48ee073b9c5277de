import Lexis.Log
import Lexis.Proofs.Progress

/-!
The decisions that are traced while a source is scanned are a run of the automaton over the whole
source, from the start to the end of the input (`RunsOver`). Each of them begins in the state where
the one before it leads, and together they read every character once, in order; what is kept of them
between two finished lexemes is the text that is reported (`trace_is_full_run`).
-/

set_option autoImplicit false
set_option relaxedAutoImplicit false

namespace Lexis

namespace Action

/-- The state to which the action leads: the start, behind a lexeme that is finished or left. -/
def target : Action → State
  | keep next | drop next | enter next => next
  | emit _ | restart | fail _ => .start

def isReading : Action → Bool
  | keep _ | drop _ | restart | fail _ => true
  | enter _ | emit _ => false

def isFinishing : Action → Bool
  | emit _ | fail _ => true
  | keep _ | drop _ | enter _ | restart => false

end Action

namespace Decision

def read (d : Decision) : List Char := if d.action.isReading then d.symbol.toList else []

def lexemeAfter (lexeme : List Char) (d : Decision) : List Char :=
  match d.action with
  | .keep _ => lexeme ++ d.symbol.toList
  | .drop _ | .enter _ => lexeme
  | .emit _ | .restart | .fail _ => []

def entry (d : Decision) : Entry := (Event.step d.state d.symbol d.action).entry

end Decision

theorem Decision.begins_of_isFinishing {d : Decision} (h : d.action.isFinishing = true)
    (lexeme : List Char) : d.action.target = .start ∧ d.lexemeAfter lexeme = [] := by
  rw [lexemeAfter]
  cases ha : d.action with
  | emit _ | fail _ => exact ⟨rfl, rfl⟩
  | _ =>
    rw [ha] at h
    cases h

/-- The characters that were kept since a lexeme was last finished or left. -/
def keptIn (decisions : List Decision) : List Char := decisions.foldl Decision.lexemeAfter []

/-- The actions that finish tokens and errors, each with the characters kept for it, when the
decisions are taken behind a lexeme. -/
def finishes (lexeme : List Char) : List Decision → List (Action × List Char)
  | [] => []
  | d :: decisions =>
    (if d.action.isFinishing then [(d.action, lexeme)] else []) ++
      finishes (d.lexemeAfter lexeme) decisions

def Item.finish : Item → Action × List Char
  | .ok token => (.emit token.kind, token.text.toList)
  | .error e => (.fail e.fault, e.lexeme.toList)

theorem Item.isEnd_iff_finish {item : Item} :
    item.isEnd = true ↔ item.finish.1 = .emit .endOfInput := by
  cases item with
  | ok token => simp [isEnd, Token.isEnd, finish]
  | error e => simp [isEnd, finish]

def decisions (source : String) : List Decision := (events source).filterMap Event.decision?

/-- From a state, with a lexeme read and a text ahead, the automaton takes the decisions, and with
the last one it has found the end of the input. -/
inductive RunsOver : State → List Char → List Char → List Decision → Prop
  | finish {lexeme : List Char} :
      RunsOver .start lexeme []
        [{ state := .start, symbol := none, action := .emit .endOfInput }]
  | step {d : Decision} {lexeme text rest : List Char} {decisions : List Decision} :
      d.symbol = text.head? → d.action = transition d.state d.symbol (String.ofList lexeme) →
      d.action ≠ .emit .endOfInput → text = d.read ++ rest →
      RunsOver d.action.target (d.lexemeAfter lexeme) rest decisions →
      RunsOver d.state lexeme text (d :: decisions)

structure IsFullRun (source : String) (decisions : List Decision) : Prop where
  logged : (logAt .trace source).filter (·.level = .trace) = decisions.map Decision.entry
  start : ∃ first later, decisions = first :: later ∧ first.state = .start
  chain : decisions.IsChain fun d e => e.state = d.action.target
  /-- Each decision is the automaton's own, on the character behind those read so far. -/
  decided : ∀ before d after, decisions = before ++ d :: after →
    ∃ rest, source.toList = before.flatMap Decision.read ++ rest ∧ d.symbol = rest.head? ∧
      d.action = transition d.state d.symbol (String.ofList (keptIn before))
  finish : ∃ before,
    decisions = before ++ [{ state := .start, symbol := none, action := .emit .endOfInput }] ∧
      ∀ d ∈ before, d.action ≠ .emit .endOfInput
  read : decisions.flatMap Decision.read = source.toList
  /-- What is kept for a token or an error is its lexeme. -/
  items : finishes [] decisions = (items source).map Item.finish

namespace RunsOver

variable {state : State} {lexeme text : List Char} {decisions : List Decision}

theorem exists_cons (h : RunsOver state lexeme text decisions) :
    ∃ first later, decisions = first :: later ∧ first.state = state := by
  cases h with
  | finish => exact ⟨_, _, rfl, rfl⟩
  | step _ _ _ _ _ => exact ⟨_, _, rfl, rfl⟩

theorem isChain (h : RunsOver state lexeme text decisions) :
    decisions.IsChain fun d e => e.state = d.action.target := by
  induction h with
  | finish => exact .singleton _
  | step _ _ _ _ hlater ih =>
    obtain ⟨first, later, rfl, hfirst⟩ := hlater.exists_cons
    exact List.isChain_cons_cons.mpr ⟨hfirst, ih⟩

theorem flatMap_read (h : RunsOver state lexeme text decisions) :
    decisions.flatMap Decision.read = text := by
  induction h with
  | finish => rfl
  | step _ _ _ htext _ ih => rw [List.flatMap_cons, ih, htext]

theorem exists_finish (h : RunsOver state lexeme text decisions) : ∃ before,
    decisions = before ++ [{ state := .start, symbol := none, action := .emit .endOfInput }] ∧
      ∀ d ∈ before, d.action ≠ .emit .endOfInput := by
  induction h with
  | finish => exact ⟨[], rfl, fun d hd => absurd hd List.not_mem_nil⟩
  | @step d _ _ _ _ _ _ hother _ _ ih =>
    obtain ⟨before, rfl, hbefore⟩ := ih
    exact ⟨d :: before, rfl, List.forall_mem_cons.mpr ⟨hother, hbefore⟩⟩

theorem decided (h : RunsOver state lexeme text decisions) {before after : List Decision}
    {d : Decision} (heq : decisions = before ++ d :: after) :
    ∃ rest, text = before.flatMap Decision.read ++ rest ∧ d.symbol = rest.head? ∧
      d.action = transition d.state d.symbol
        (String.ofList (before.foldl Decision.lexemeAfter lexeme)) := by
  -- What is kept of the part before carries over from each decision to the lexeme of the next.
  induction h generalizing before with
  | finish =>
    cases before with
    | nil =>
      obtain ⟨rfl, _⟩ := List.cons.inj heq
      exact ⟨[], rfl, rfl, rfl⟩
    | cons first before => simp at heq
  | @step e lexeme text rest later hsymbol haction _ htext _ ih =>
    cases before with
    | nil =>
      obtain ⟨rfl, _⟩ := List.cons.inj heq
      exact ⟨text, rfl, hsymbol, haction⟩
    | cons first before =>
      obtain ⟨rfl, hlater⟩ := List.cons.inj heq
      obtain ⟨rest', hrest, hd⟩ := ih hlater
      refine ⟨rest', ?_, hd⟩
      rw [htext, hrest, List.flatMap_cons, List.append_assoc]

end RunsOver

namespace Scanner

section Step

variable {s t : Scanner} {item : Item} {cursor : Cursor}

theorem rest_eq_of_isReading (h : s.action.isReading = true) :
    s.cursor.rest = s.decision.read ++ s.cursor.advance.rest := by
  have hread : s.decision.read = s.cursor.rest.head?.toList := if_pos h
  rw [hread, Cursor.rest_advance]
  cases s.cursor.rest <;> rfl

theorem rest_eq_of_not_isReading (h : s.action.isReading = false) :
    s.cursor.rest = s.decision.read ++ s.cursor.rest := by
  have hread : s.decision.read = [] := by
    rw [Decision.read, decision, h]
    rfl
  rw [hread, List.nil_append]

structure Obeys (s t : Scanner) : Prop where
  state : t.state = s.decision.action.target
  lexeme : t.lexeme.toList = s.decision.lexemeAfter s.lexeme.toList
  rest : s.cursor.rest = s.decision.read ++ t.cursor.rest
  notFinishing : s.decision.action.isFinishing = false

theorem Moves.obeys (h : s.Moves t) : s.Obeys t := by
  cases h with
  | @keep c next hsym ha =>
    have hd : s.decision.action = .keep next := ha
    have hlexeme : s.extended.toList = s.lexeme.toList ++ [c] := by
      rw [extended, hsym, String.toList_push]
    refine ⟨by rw [hd]; rfl, ?_, rest_eq_of_isReading (by rw [ha]; rfl), by rw [hd]; rfl⟩
    rw [hlexeme, Decision.lexemeAfter, hd, decision, hsym]
    rfl
  | @drop c next _ ha =>
    have hd : s.decision.action = .drop next := ha
    refine ⟨by rw [hd]; rfl, ?_, rest_eq_of_isReading (by rw [ha]; rfl), by rw [hd]; rfl⟩
    rw [Decision.lexemeAfter, hd]
  | @enter c next _ ha _ _ =>
    have hd : s.decision.action = .enter next := ha
    refine ⟨by rw [hd]; rfl, ?_, rest_eq_of_not_isReading (by rw [ha]; rfl), by rw [hd]; rfl⟩
    rw [Decision.lexemeAfter, hd]
  | restart _ ha =>
    have hd : s.decision.action = .restart := ha
    refine ⟨by rw [hd]; rfl, ?_, rest_eq_of_isReading (by rw [ha]; rfl), by rw [hd]; rfl⟩
    rw [Decision.lexemeAfter, hd]
    rfl
  | restartAtEnd hnil _ ha =>
    have hd : s.decision.action = .restart := ha
    have hrest := rest_eq_of_isReading (s := s) (by rw [ha]; rfl)
    rw [Cursor.advance_of_nil hnil] at hrest
    refine ⟨by rw [hd]; rfl, ?_, hrest, by rw [hd]; rfl⟩
    rw [Decision.lexemeAfter, hd]
    rfl

theorem Obeys.runsOver {decisions : List Decision} (h : s.Obeys t)
    (hlater : RunsOver t.state t.lexeme.toList t.cursor.rest decisions) :
    RunsOver s.state s.lexeme.toList s.cursor.rest (s.decision :: decisions) := by
  have hother : s.decision.action ≠ .emit .endOfInput := by
    intro haction
    have hfinishing := h.notFinishing
    rw [haction] at hfinishing
    cases hfinishing
  refine .step (d := s.decision) rfl s.action_eq hother h.rest ?_
  rw [← h.state, ← h.lexeme]
  exact hlater

theorem finish_of_done (h : s.step = .done item cursor) :
    item.finish = (s.decision.action, s.lexeme.toList) ∧
      s.decision.action.isFinishing = true ∧ s.cursor.rest = s.decision.read ++ cursor.rest := by
  cases ends_of_step h with
  | @emit kind ha =>
    have hd : s.decision.action = .emit kind := ha
    rw [hd]
    exact ⟨rfl, rfl, rest_eq_of_not_isReading (by rw [ha]; rfl)⟩
  | @fail fault ha =>
    have hd : s.decision.action = .fail fault := ha
    rw [hd]
    exact ⟨rfl, rfl, rest_eq_of_isReading (by rw [ha]; rfl)⟩

end Step

section Takes

variable {s : Scanner} {item : Item} {cursor : Cursor} {decisions later : List Decision}

theorem Takes.finishes (h : s.Takes decisions item cursor) (later : List Decision) :
    finishes s.lexeme.toList (decisions ++ later) = item.finish :: Lexis.finishes [] later := by
  induction h with
  | @done s item cursor hstep =>
    obtain ⟨hitem, hfinishing, _⟩ := finish_of_done hstep
    have hlexeme := (Decision.begins_of_isFinishing hfinishing s.lexeme.toList).2
    rw [List.singleton_append, Lexis.finishes, if_pos hfinishing, hlexeme, hitem,
      List.singleton_append]
  | more hstep _ ih =>
    have hobeys := (moves_of_step hstep).obeys
    rw [List.cons_append, Lexis.finishes, hobeys.notFinishing, ← hobeys.lexeme, ih]
    rfl

theorem Takes.runsOver (h : s.Takes decisions item cursor) (hend : item.isEnd = false)
    (hlater : RunsOver .start [] cursor.rest later) :
    RunsOver s.state s.lexeme.toList s.cursor.rest (decisions ++ later) := by
  induction h with
  | @done s item cursor hstep =>
    obtain ⟨hitem, hfinishing, hrest⟩ := finish_of_done hstep
    obtain ⟨htarget, hlexeme⟩ := Decision.begins_of_isFinishing hfinishing s.lexeme.toList
    have hother : s.decision.action ≠ .emit .endOfInput := by
      intro haction
      rw [Item.isEnd_iff_finish.mpr (by rw [hitem]; exact haction)] at hend
      cases hend
    refine .step (d := s.decision) rfl s.action_eq hother hrest ?_
    rw [htarget, hlexeme]
    exact hlater
  | more hstep _ ih => exact (moves_of_step hstep).obeys.runsOver (ih hend hlater)

theorem Takes.runsOver_of_isEnd (h : s.Takes decisions item cursor) (hend : item.isEnd = true) :
    RunsOver s.state s.lexeme.toList s.cursor.rest decisions := by
  induction h with
  | @done s item cursor hstep =>
    obtain ⟨hitem, _, _⟩ := finish_of_done hstep
    have haction := Item.isEnd_iff_finish.mp hend
    rw [hitem] at haction
    change s.action = _ at haction
    obtain ⟨hstate, hsymbol⟩ := transition_eq_emit_endOfInput haction
    rw [decision, haction, hsymbol, hstate, Cursor.current?_eq_none_iff.mp hsymbol]
    exact .finish
  | more hstep _ ih => exact (moves_of_step hstep).obeys.runsOver (ih hend)

end Takes

end Scanner

theorem Cursor.runsOver_scans (c : Cursor) :
    RunsOver .start [] c.rest (c.scans.flatMap Scan.decisions) := by
  induction c using Cursor.scan_induction with
  | stop c hend =>
    rw [scans_of_isEnd hend, List.flatMap_singleton]
    exact (Scanner.ofCursor c).takes_run.runsOver_of_isEnd hend
  | go c hend ih =>
    rw [scans_of_not_isEnd hend, List.flatMap_cons]
    exact (Scanner.ofCursor c).takes_run.runsOver hend ih

theorem Cursor.finishes_scans (c : Cursor) :
    finishes [] (c.scans.flatMap Scan.decisions) = c.scans.map (·.item.finish) := by
  induction c using Cursor.scan_induction with
  | stop c hend =>
    have hrun := (Scanner.ofCursor c).takes_run.finishes []
    rw [List.append_nil] at hrun
    rw [scans_of_isEnd hend, List.flatMap_singleton, List.map_singleton]
    exact hrun
  | go c hend ih =>
    rw [scans_of_not_isEnd hend, List.flatMap_cons, List.map_cons, ← ih]
    exact (Scanner.ofCursor c).takes_run.finishes _

theorem decisions_eq_flatMap (source : String) :
    decisions source = (Cursor.ofString source).scans.flatMap Scan.decisions := by
  rw [decisions, events, List.filterMap_flatMap]
  rfl

theorem filter_trace_map_entry (told : List Event) :
    (told.map Event.entry).filter (·.level = .trace) =
      (told.filterMap Event.decision?).map Decision.entry := by
  induction told with
  | nil => rfl
  | cons event told ih =>
    cases event with
    | step state symbol action =>
      exact congrArg ((Event.step state symbol action).entry :: ·) ih
    | emit _ | skip _ _ | fail _ => exact ih

/-- What is traced while a source is scanned is one run of the automaton over the whole source. -/
theorem trace_is_full_run (source : String) : IsFullRun source (decisions source) := by
  have hrun := (Cursor.ofString source).runsOver_scans
  rw [← decisions_eq_flatMap] at hrun
  exact
    { logged := by
        rw [logAt, entriesAt_trace]
        exact filter_trace_map_entry (events source)
      start := hrun.exists_cons
      chain := hrun.isChain
      decided := fun before d after heq => hrun.decided heq
      finish := hrun.exists_finish
      read := hrun.flatMap_read
      items := by
        rw [decisions_eq_flatMap, Cursor.finishes_scans, Lexis.items, List.map_map]
        rfl }

end Lexis
