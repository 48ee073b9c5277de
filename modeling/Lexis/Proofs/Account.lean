import Lexis.Log
import Lexis.Proofs.Course

/-!
The debug log as an account of the source. A source consists of blanks, complete comments and items
in one way only (`ConsistsOf.unique`), and the entries of the log at this level are those of its
pieces, in their order (`debug_log_accounts`): one for each token and each error, one for each
comment, and none for a blank.
-/

set_option autoImplicit false
set_option relaxedAutoImplicit false

namespace Lexis

/-- A piece of a source: a blank, a complete comment that begins at the location, or what an item
reports. -/
inductive Piece where
  | blank
  | comment (origin : Location)
  | item (found : Item)

namespace Piece

def item? : Piece → Option Item
  | blank | comment _ => none
  | item found => some found

def entries : Piece → List Entry
  | blank => []
  | comment origin => [{ level := .debug, message := "Skip \"/\" at " ++ origin.text }]
  | item (.ok token) =>
    [{ level := .debug
       message := "Emit " ++ token.display ++ " at " ++ token.location.text }]
  | item (.error e) =>
    [{ level := .debug
       message := "Fail at " ++ e.location.text ++ ": " ++ e.fault.message }]

end Piece

/-- The text from the cursor to the end of the source consists of the pieces. The last one is the
end of the input. -/
inductive ConsistsOf : Cursor → List Piece → Prop
  | finish {c : Cursor} : c.rest = [] → ConsistsOf c [.item (Verdict.finish.item c)]
  | blank {c : Cursor} {ch : Char} {rest : List Char} {later : List Piece} :
      c.rest = ch :: rest → isBlank ch = true → ConsistsOf c.advance later →
      ConsistsOf c (.blank :: later)
  | comment {c : Cursor} {text rest : List Char} {later : List Piece} :
      c.rest = '/' :: text ++ rest → Filler rest ('/' :: text) →
      ConsistsOf (c.after ('/' :: text)) later → ConsistsOf c (.comment c.location :: later)
  | item {c : Cursor} {verdict : Verdict} {later : List Piece} :
      Decides c.rest verdict → verdict ≠ .finish →
      ConsistsOf (c.after (verdict.extent c.rest)) later →
      ConsistsOf c (.item (verdict.item c) :: later)

/-- The debug log of a run over the source accounts for the pieces. -/
structure Accounts (source : String) (pieces : List Piece) : Prop where
  /-- The source consists of these pieces and of no others. -/
  consists : ∀ others, ConsistsOf (Cursor.ofString source) others ↔ others = pieces
  items : pieces.filterMap Piece.item? = items source
  finish : ∃ before token, pieces = before ++ [.item (.ok token)] ∧ token.isEnd = true ∧
    ∀ item ∈ before.filterMap Piece.item?, item.isEnd = false
  logged : logAt .debug source = pieces.flatMap Piece.entries
  /-- The entries are the same when the steps of the automaton are traced as well. -/
  traced : (logAt .trace source).filter (·.level = .debug) = pieces.flatMap Piece.entries

namespace ConsistsOf

variable {c : Cursor} {pieces others : List Piece}

private theorem false_of_blank_comment {ch : Char} {rest text tail : List Char}
    (h : c.rest = ch :: rest) (hblank : isBlank ch = true)
    (hcomment : c.rest = '/' :: text ++ tail) : False := by
  rw [h, List.cons_append] at hcomment
  obtain ⟨rfl, _⟩ := List.cons.inj hcomment
  exact absurd hblank (by decide)

theorem unique (h : ConsistsOf c pieces) (hother : ConsistsOf c others) : pieces = others := by
  induction h generalizing others with
  | finish hnil =>
    cases hother with
    | finish _ => rfl
    | blank hrest _ _ => exact absurd (hnil.symm.trans hrest) (by simp)
    | comment hrest _ _ => exact absurd (hnil.symm.trans hrest) (by simp)
    | item hdecides hfinish _ => exact absurd (hdecides.unique .finish hnil) hfinish
  | blank hrest hblank _ ih =>
    cases hother with
    | finish hnil => exact absurd (hnil.symm.trans hrest) (by simp)
    | blank _ _ hlater => rw [ih hlater]
    | comment hcomment _ _ => exact (false_of_blank_comment hrest hblank hcomment).elim
    | item hdecides _ _ => exact absurd (.blank hblank) (hdecides.isBare [_] _ hrest)
  | comment hrest hfiller _ ih =>
    cases hother with
    | finish hnil => exact absurd (hnil.symm.trans hrest) (by simp)
    | blank hblankRest hblank _ =>
      exact (false_of_blank_comment hblankRest hblank hrest).elim
    | comment hcomment hother hlater =>
      rw [← hfiller.unique hother (hrest.symm.trans hcomment)] at hlater
      rw [ih hlater]
    | item hdecides _ _ => exact absurd hfiller (hdecides.isBare _ _ hrest)
  | item hdecides hfinish _ ih =>
    cases hother with
    | finish hnil => exact absurd (hdecides.unique .finish hnil) hfinish
    | blank hrest hblank _ => exact absurd (.blank hblank) (hdecides.isBare [_] _ hrest)
    | comment hrest hfiller _ => exact absurd hfiller (hdecides.isBare _ _ hrest)
    | item hother _ hlater =>
      obtain rfl := hdecides.unique hother rfl
      rw [ih hlater]

theorem exists_finish (h : ConsistsOf c pieces) : ∃ before token,
    pieces = before ++ [.item (.ok token)] ∧ token.isEnd = true ∧
      ∀ item ∈ before.filterMap Piece.item?, item.isEnd = false := by
  induction h with
  | finish _ => exact ⟨[], _, rfl, rfl, fun _ h => absurd h List.not_mem_nil⟩
  | blank _ _ _ ih =>
    obtain ⟨before, token, rfl, hend, hbefore⟩ := ih
    exact ⟨.blank :: before, token, rfl, hend, hbefore⟩
  | comment _ _ _ ih =>
    obtain ⟨before, token, rfl, hend, hbefore⟩ := ih
    exact ⟨.comment _ :: before, token, rfl, hend, hbefore⟩
  | item hdecides hfinish _ ih =>
    obtain ⟨before, token, rfl, hend, hbefore⟩ := ih
    refine ⟨.item _ :: before, token, rfl, hend, ?_⟩
    exact List.forall_mem_cons.mpr ⟨hdecides.isEnd_item_eq_false hfinish _, hbefore⟩

end ConsistsOf

def LeadsTo (c : Cursor) (pieces : List Piece) (d : Cursor) : Prop :=
  ∀ later, ConsistsOf d later → ConsistsOf c (pieces ++ later)

def debugEntries (events : List Event) : List Entry := entriesAt .debug (events.map Event.entry)

@[simp] theorem debugEntries_append (events others : List Event) :
    debugEntries (events ++ others) = debugEntries events ++ debugEntries others := by
  simp [debugEntries, entriesAt]

theorem filter_debug_map_entry (events : List Event) :
    (events.map Event.entry).filter (·.level = .debug) = debugEntries events := by
  rw [debugEntries, entriesAt]
  refine List.filter_congr ?_
  intro entry hentry
  obtain ⟨event, _, rfl⟩ := List.mem_map.mp hentry
  cases event <;> rfl

namespace Scanner

section Step

variable {c : Cursor} {read : List Char} {s t : Scanner}

theorem debugEntries_log (s : Scanner) :
    debugEntries s.log = debugEntries (s.consequences s.action) := rfl

theorem HasRead.leadsTo_of_restart (h : s.HasRead c read) (ha : s.action = .restart) :
    ∃ piece, LeadsTo c [piece] s.cursor.advance ∧ piece.item? = none ∧
      debugEntries s.log = piece.entries := by
  obtain ⟨hfiller, hrest, hcursor⟩ := h.restart ha
  have haction := s.action_eq
  rw [ha] at haction
  rw [debugEntries_log, ha]
  rcases h.reading.restart_begin haction.symm with
    ⟨hlexeme, rfl, ch, hch, hblank⟩ | ⟨hlexeme, text, rfl⟩
  · refine ⟨.blank, fun later hlater => ?_, rfl, ?_⟩
    · rw [hch] at hrest hcursor
      rw [hcursor] at hlater
      exact .blank hrest hblank hlater
    · rw [consequences, if_pos (String.toList_inj.mp hlexeme)]
      rfl
  · refine ⟨.comment c.location, fun later hlater => ?_, rfl, ?_⟩
    · rw [hcursor] at hlater
      exact .comment hrest hfiller hlater
    · have hslash : s.lexeme = "/" := String.toList_inj.mp hlexeme
      rw [consequences, hslash, if_neg (by decide), h.origin]
      rfl

theorem debugEntries_of_done {item : Item} {cursor : Cursor} (hstep : s.step = .done item cursor) :
    debugEntries s.log = (Piece.item item).entries := by
  rw [debugEntries_log]
  cases ends_of_step hstep with
  | emit ha | fail ha =>
    rw [ha]
    rfl

end Step

/-- A run leaves pieces behind that are no items, finishes an item, and tells of all of them. -/
structure Tells (s : Scanner) (c : Cursor) (pieces : List Piece) (d : Cursor) (verdict : Verdict) :
    Prop where
  leads : LeadsTo c pieces d
  noItems : pieces.filterMap Piece.item? = []
  decides : Decides d.rest verdict
  item : s.run.item = verdict.item d
  cursor : s.run.cursor = d.after (verdict.extent d.rest)
  entries : debugEntries s.run.log = pieces.flatMap Piece.entries ++ (Piece.item s.run.item).entries

theorem Tells.silent {s t : Scanner} {c d : Cursor} {pieces : List Piece} {verdict : Verdict}
    (h : t.Tells c pieces d verdict) (hstep : s.step = .more t) (hlog : debugEntries s.log = []) :
    s.Tells c pieces d verdict := by
  refine ⟨h.leads, h.noItems, h.decides, ?_, ?_, ?_⟩
  all_goals rw [run_of_more hstep]
  · exact h.item
  · exact h.cursor
  · rw [debugEntries_append, hlog, List.nil_append, h.entries]

theorem Tells.cons {s t : Scanner} {c b d : Cursor} {piece : Piece} {pieces : List Piece}
    {verdict : Verdict} (h : t.Tells b pieces d verdict) (hstep : s.step = .more t)
    (hpiece : LeadsTo c [piece] b) (hitem : piece.item? = none)
    (hlog : debugEntries s.log = piece.entries) : s.Tells c (piece :: pieces) d verdict := by
  refine ⟨fun later hlater => hpiece _ (h.leads later hlater), ?_, h.decides, ?_, ?_, ?_⟩
  · rw [List.filterMap_cons_none hitem, h.noItems]
  all_goals rw [run_of_more hstep]
  · exact h.item
  · exact h.cursor
  · rw [debugEntries_append, hlog, h.entries, List.flatMap_cons, List.append_assoc]

theorem HasRead.tells {c : Cursor} {read : List Char} {s : Scanner} (h : s.HasRead c read) :
    ∃ pieces d verdict, s.Tells c pieces d verdict := by
  -- The pieces begin where the lexeme does: only a restart adds one, and moves the beginning.
  induction s using run.induct generalizing c read with
  | case1 s t hstep ih =>
    cases moves_of_step hstep with
    | keep hsym ha =>
      obtain ⟨pieces, d, verdict, htells⟩ := ih (h.keep hsym ha)
      exact ⟨pieces, d, verdict, htells.silent hstep (by rw [debugEntries_log, ha]; rfl)⟩
    | drop hsym ha =>
      obtain ⟨pieces, d, verdict, htells⟩ := ih (h.drop hsym ha)
      exact ⟨pieces, d, verdict, htells.silent hstep (by rw [debugEntries_log, ha]; rfl)⟩
    | enter _ ha _ _ =>
      obtain ⟨pieces, d, verdict, htells⟩ := ih (h.enter ha)
      exact ⟨pieces, d, verdict, htells.silent hstep (by rw [debugEntries_log, ha]; rfl)⟩
    | restart _ ha =>
      obtain ⟨piece, hleads, hitem, hlog⟩ := h.leadsTo_of_restart ha
      obtain ⟨pieces, d, verdict, htells⟩ := ih (HasRead.ofCursor _)
      exact ⟨_, d, verdict, htells.cons hstep hleads hitem hlog⟩
    | restartAtEnd hnil _ ha =>
      obtain ⟨piece, hleads, hitem, hlog⟩ := h.leadsTo_of_restart ha
      rw [Cursor.advance_of_nil hnil] at hleads
      obtain ⟨pieces, d, verdict, htells⟩ := ih (HasRead.ofCursor _)
      exact ⟨_, d, verdict, htells.cons hstep hleads hitem hlog⟩
  | case2 s item cursor hstep =>
    obtain ⟨verdict, hdecides, rfl, rfl⟩ := h.done hstep
    have hrun := run_of_done hstep
    refine ⟨[], c, verdict, fun later hlater => hlater, rfl, hdecides, ?_, ?_, ?_⟩
    all_goals rw [hrun]
    exact debugEntries_of_done hstep

end Scanner

/-- From every cursor the scans find the pieces of the text ahead, and tell of each of them. -/
theorem Cursor.exists_consistsOf (c : Cursor) : ∃ pieces, ConsistsOf c pieces ∧
    pieces.filterMap Piece.item? = c.scans.map (·.item) ∧
      debugEntries (c.scans.flatMap (·.log)) = pieces.flatMap Piece.entries := by
  induction c using Cursor.scan_induction with
  | stop c hend =>
    obtain ⟨pieces, d, verdict, h⟩ := (Scanner.HasRead.ofCursor c).tells
    have hitem : c.scan.item = verdict.item d := h.item
    rw [hitem, h.decides.isEnd_item_iff] at hend
    subst hend
    refine ⟨pieces ++ [.item c.scan.item], ?_, ?_, ?_⟩
    · rw [hitem]
      exact h.leads _ (.finish h.decides.eq_nil)
    · rw [Cursor.scans_of_isEnd (by rw [hitem]; rfl), List.filterMap_append, h.noItems]
      rfl
    · rw [Cursor.scans_of_isEnd (by rw [hitem]; rfl), List.flatMap_append, List.flatMap_singleton,
        List.flatMap_singleton]
      exact h.entries
  | go c hend ih =>
    obtain ⟨later, hlater, hitems, hentries⟩ := ih
    obtain ⟨pieces, d, verdict, h⟩ := (Scanner.HasRead.ofCursor c).tells
    have hitem : c.scan.item = verdict.item d := h.item
    have hfinish : verdict ≠ .finish := by
      rw [hitem, Bool.eq_false_iff, ne_eq, h.decides.isEnd_item_iff] at hend
      exact hend
    have hcursor : c.scan.cursor = d.after (verdict.extent d.rest) := h.cursor
    refine ⟨pieces ++ .item c.scan.item :: later, ?_, ?_, ?_⟩
    · rw [hcursor] at hlater
      rw [hitem]
      exact h.leads _ (.item h.decides hfinish hlater)
    · rw [Cursor.scans_of_not_isEnd hend, List.filterMap_append, h.noItems, List.map_cons, ← hitems]
      rfl
    · rw [Cursor.scans_of_not_isEnd hend, List.flatMap_cons, debugEntries_append, hentries,
        List.flatMap_append, List.flatMap_cons, ← List.append_assoc]
      exact congrArg (· ++ _) h.entries

/-- The debug log of every source accounts for its pieces. -/
theorem debug_log_accounts (source : String) : ∃ pieces, Accounts source pieces := by
  obtain ⟨pieces, hconsists, hitems, hentries⟩ := (Cursor.ofString source).exists_consistsOf
  refine ⟨pieces, fun others => ⟨fun h => h.unique hconsists, fun h => h ▸ hconsists⟩, hitems,
    hconsists.exists_finish, hentries, ?_⟩
  rw [logAt, entriesAt_trace, filter_debug_map_entry]
  exact hentries

example : (logAt .debug "si /* */ /*").map (·.message) =
    ["Emit SI \"si\" at 1:1", "Skip \"/\" at 1:4",
      "Fail at 1:10: Unterminated multi-line comment", "Emit EOF at 1:12"] := by decide +kernel

end Lexis
