import Lexis.Proofs.Progress

/-!
What holds at every step of every run. A scanner has begun somewhere in the source and has read a
text since then (`Scanner.HasBegun`); a step reads on or begins anew, so this is kept to the end of
the run. With it goes all that the parts of the scanner say of each other: the text between the
start of the lexeme and the cursor is one that leads to the state, the lexeme is as much of it as
the state keeps, and the origin is the location of the start (`Stream.Reachable.stages_coherent`).
-/

set_option autoImplicit false
set_option relaxedAutoImplicit false

namespace Lexis

namespace Scanner

def stages (s : Scanner) : List Scanner :=
  match _h : s.step with
  | .more t => s :: t.stages
  | .done _ _ => [s]
termination_by s.rank
decreasing_by exact rank_lt_of_step _h

section Stages

variable {s t : Scanner} {item : Item} {cursor : Cursor} {decisions : List Decision}

theorem stages_of_more (h : s.step = .more t) : s.stages = s :: t.stages := by
  rw [stages]
  split
  · next hu => cases h.symm.trans hu; rfl
  · next hu => cases h.symm.trans hu

theorem stages_of_done (h : s.step = .done item cursor) : s.stages = [s] := by
  rw [stages]
  split
  · next hu => cases h.symm.trans hu
  · rfl

theorem Takes.eq_map_stages (h : s.Takes decisions item cursor) :
    decisions = s.stages.map decision := by
  induction h with
  | done hstep => rw [stages_of_done hstep, List.map_singleton]
  | more hstep _ ih => rw [stages_of_more hstep, List.map_cons, ih]

theorem forall_mem_stages {p : Scanner → Prop} (hp : ∀ {s t}, p s → s.step = .more t → p t)
    (h : p s) : ∀ t ∈ s.stages, p t := by
  induction s using stages.induct with
  | case1 s t hstep ih =>
    rw [stages_of_more hstep]
    exact List.forall_mem_cons.mpr ⟨h, ih (hp h hstep)⟩
  | case2 s item cursor hstep =>
    rw [stages_of_done hstep]
    exact List.forall_mem_singleton.mpr h

end Stages

/-- The scanner has begun at a place of the source and has read a text since then. -/
def HasBegun (s : Scanner) (source : String) : Prop :=
  ∃ c front read, c.StandsBehind source front ∧ s.HasRead c read

/-- The parts of the scanner agree with each other and with the source. -/
structure Coherent (s : Scanner) (source : String) : Prop where
  cursor : ∃ n, s.cursor = Cursor.advance^[n] (Cursor.ofString source)
  start : ∃ n, s.start = (Cursor.advance^[n] (Cursor.ofString source)).offset
  origin : ∀ n, let c := Cursor.advance^[n] (Cursor.ofString source)
    s.start = c.offset → s.origin = c.location
  /-- The text between the start and the cursor, and the lexeme, are those of the state. -/
  reading : ∃ read, Text.slice? source.toList s.start s.cursor.offset = some read ∧
    Reading s.state s.lexeme.toList read s.cursor.current?

section HasBegun

variable {s t : Scanner} {source : String} {c : Cursor} {front : List Char}

theorem hasBegun_ofCursor (h : c.StandsBehind source front) : (ofCursor c).HasBegun source :=
  ⟨c, front, [], h, .ofCursor c⟩

theorem HasBegun.more (h : s.HasBegun source) (hstep : s.step = .more t) : t.HasBegun source := by
  obtain ⟨c, front, read, hc, hread⟩ := h
  rcases hread.more hstep with ⟨longer, hlonger⟩ | ⟨piece, _, hrest, rfl⟩
  · exact ⟨c, front, longer, hc, hlonger⟩
  · exact hasBegun_ofCursor (hc.after hrest)

theorem HasBegun.coherent (h : s.HasBegun source) : s.Coherent source := by
  obtain ⟨c, front, read, hc, hread⟩ := h
  have hhere : s.cursor.StandsBehind source (front ++ read) := by
    rw [hread.cursor]
    exact hc.after hread.rest
  refine ⟨hhere.exists_iterate, ?_, ?_, read, ?_, hread.reading⟩
  · obtain ⟨n, hn⟩ := hc.exists_iterate
    exact ⟨n, by rw [hread.start, ← hn]⟩
  · intro n d hstart
    obtain ⟨text, hd⟩ := Cursor.exists_standsBehind_iterate source n
    rw [hread.origin, hc.eq_of_offset_eq hd (hread.start.symm.trans hstart)]
  · rw [Text.slice?_eq_some_iff]
    refine ⟨front, s.cursor.rest, hhere.source_eq, ?_, ?_⟩
    · rw [hread.start, hc.offset_eq]
    · rw [hhere.offset_eq, Text.width_append]

end HasBegun

end Scanner

namespace Stream.Reachable

variable {source : String} {s : Stream}

/-- Whenever an item is taken from a stream of the source, the scanner is coherent at every step of
the run that finds it, from the first to the last. -/
theorem stages_coherent (h : s.Reachable source) :
    s.pull.1.decisions = (Scanner.ofCursor s.cursor).stages.map Scanner.decision ∧
      ∀ t ∈ (Scanner.ofCursor s.cursor).stages, t.Coherent source := by
  obtain ⟨front, hc⟩ := h.standsBehind
  refine ⟨(Scanner.takes_run _).eq_map_stages, ?_⟩
  intro t ht
  have hbegun := Scanner.hasBegun_ofCursor hc
  exact (Scanner.forall_mem_stages Scanner.HasBegun.more hbegun t ht).coherent

/-- The run that begins behind a refused line break and ends in an open comment. -/
theorem stages_coherent_open_comment :
    (ofString "\"\n/*\n**").pull.2.Reachable "\"\n/*\n**" ∧
      ∃ t ∈ (Scanner.ofCursor (ofString "\"\n/*\n**").pull.2.cursor).stages,
        t.state = .blockCommentStar ∧ t.lexeme = "/" ∧ t.origin = { line := 2, column := 1 } ∧
        Text.slice? "\"\n/*\n**".toList t.start t.cursor.offset = some "/*\n**".toList ∧
        t.Coherent "\"\n/*\n**" := by
  have h : (ofString "\"\n/*\n**").pull.2.Reachable "\"\n/*\n**" := .pull .start
  let t : Scanner :=
    { state := .blockCommentStar
      lexeme := "/"
      start := 2
      origin := { line := 2, column := 1 }
      cursor := { rest := [], offset := 7, location := { line := 3, column := 3 } } }
  have ht : t ∈ (Scanner.ofCursor (ofString "\"\n/*\n**").pull.2.cursor).stages := by
    decide +kernel
  exact ⟨h, t, ht, rfl, rfl, rfl, by decide +kernel, (stages_coherent h).2 t ht⟩

end Stream.Reachable

end Lexis
