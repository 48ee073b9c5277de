import Lexis.Diagnostic
import Lexis.Proofs.Lookup

/-!
Which complaints can be shown, and how. A complaint is about any two offsets, so they need not mark
a place in the source; when they do not, nothing is shown (`Diagnostic.IsMisplaced`). All other
complaints have their picture, in which an end behind the visible part of the line counts as the end
of this part.
-/

set_option autoImplicit false
set_option relaxedAutoImplicit false

namespace Lexis

namespace Text

def IsEdge (text : List Char) (offset : Nat) : Prop :=
  ∃ front back, text = front ++ back ∧ offset = width front

section Edges

variable {text piece : List Char} {start stop : Nat}

theorem isEdge_iff_isSome_cut? : IsEdge text start ↔ (cut? text start).isSome = true := by
  rw [Option.isSome_iff_exists]
  constructor
  · rintro ⟨front, back, htext, hstart⟩
    exact ⟨(front, back), cut?_eq_some_iff.mpr ⟨htext, hstart⟩⟩
  · rintro ⟨⟨front, back⟩, hcut⟩
    exact ⟨front, back, cut?_eq_some_iff.mp hcut⟩

instance (text : List Char) (offset : Nat) : Decidable (IsEdge text offset) :=
  decidable_of_iff _ isEdge_iff_isSome_cut?.symm

theorem IsEdge.le_width (h : IsEdge text start) : start ≤ width text := by
  obtain ⟨front, back, rfl, rfl⟩ := h
  rw [width_append]
  exact Nat.le_add_right _ _

theorem IsEdge.max (hstart : IsEdge text start) (hstop : IsEdge text stop) :
    IsEdge text (max start stop) := by
  rcases Nat.le_total start stop with hle | hle
  · rwa [Nat.max_eq_right hle]
  · rwa [Nat.max_eq_left hle]

theorem exists_slice?_iff :
    (∃ piece, slice? text start stop = some piece) ↔
      start ≤ stop ∧ IsEdge text start ∧ IsEdge text stop := by
  constructor
  · rintro ⟨piece, hpiece⟩
    obtain ⟨front, back, rfl, rfl, rfl⟩ := slice?_eq_some_iff.mp hpiece
    refine ⟨Nat.le_add_right _ _, ⟨front, piece ++ back, ?_, rfl⟩, ⟨front ++ piece, back, rfl, ?_⟩⟩
    · rw [List.append_assoc]
    · rw [width_append]
  · rintro ⟨hle, ⟨front, rest, rfl, rfl⟩, ⟨longer, back, htext, rfl⟩⟩
    obtain ⟨piece, rfl, rfl⟩ := exists_append_of_width_le htext hle
    refine ⟨piece, slice?_eq_some_iff.mpr ⟨front, back, ?_, rfl, width_append front piece⟩⟩
    rw [List.append_assoc]

theorem slice?_eq_none_iff :
    slice? text start stop = none ↔ ¬ (start ≤ stop ∧ IsEdge text start ∧ IsEdge text stop) := by
  rw [← exists_slice?_iff, Option.eq_none_iff_forall_ne_some, not_exists]

end Edges

end Text

namespace Line

section FoundAt

variable {source : String} {position : Offset} {before after : List (List Char)} {line : Line}

theorem IsFoundAt.source_eq (h : line.IsFoundAt source position before after) :
    ∃ front back, source.toList = front ++ line.text ++ back ∧ line.start = Text.width front := by
  obtain ⟨text, hslice, htext⟩ := Option.map_eq_some_iff.mp h.lookup
  obtain rfl := String.ofList_injective htext
  obtain ⟨front, back, hsource, hstart, _⟩ := Text.slice?_eq_some_iff.mp hslice
  exact ⟨front, back, hsource, hstart⟩

theorem IsFoundAt.isEdge_start (h : line.IsFoundAt source position before after) :
    Text.IsEdge source.toList line.start := by
  obtain ⟨front, back, hsource, hstart⟩ := h.source_eq
  refine ⟨front, line.text ++ back, ?_, hstart⟩
  rw [hsource, List.append_assoc]

theorem IsFoundAt.isEdge_visible (h : line.IsFoundAt source position before after) :
    Text.IsEdge source.toList (line.start + Text.width line.visible) := by
  obtain ⟨front, back, hsource, hstart⟩ := h.source_eq
  obtain ⟨ending, htext, _⟩ := h.visible
  refine ⟨front ++ line.visible, ending ++ back, ?_, ?_⟩
  · rw [hsource, htext]
    simp only [List.append_assoc]
  · rw [hstart, Text.width_append]

end FoundAt

end Line

namespace Diagnostic

def lineIn (d : Diagnostic) (source : String) : Line := Line.find source d.span.start

theorem lineIn_isFoundAt (d : Diagnostic) (source : String) : ∃ before after,
    (d.lineIn source).IsFoundAt source d.span.start before after :=
  Line.exists_isFoundAt source d.span.start

/-- The end of the visible part of the line, but nothing before the marked place. -/
def visibleEnd (d : Diagnostic) (source : String) : Offset :=
  max d.span.start ((d.lineIn source).start + Text.width (d.lineIn source).visible)

/-- The complaint marks no place in the source: its span is backwards, it begins behind the source
or inside a character, or it ends inside a character of the visible part of the line. -/
def IsMisplaced (d : Diagnostic) (source : String) : Prop :=
  d.span.stop < d.span.start ∨ Text.width source.toList < d.span.start ∨
    ¬ Text.IsEdge source.toList d.span.start ∨
    (d.span.stop < d.visibleEnd source ∧ ¬ Text.IsEdge source.toList d.span.stop)

instance (d : Diagnostic) (source : String) : Decidable (d.IsMisplaced source) :=
  inferInstanceAs (Decidable (_ ∨ _ ∨ _ ∨ _))

/-- The line with its number, and under it a blank for each character in front of the marked place,
or a tab for a tab, a caret for each marked character, but one at least, and what is wrong. -/
def picture (d : Diagnostic) (shown before marked : List Char) : String :=
  d.line.repr ++ "| " ++ String.ofList shown ++ "\n" ++
    String.ofList (List.replicate d.line.repr.length ' ') ++ "| " ++
    String.ofList (before.map fun c => if c = '\t' then '\t' else ' ') ++
    String.ofList (List.replicate (max 1 marked.length) '^') ++ "--- " ++ d.description

section Render

variable {d : Diagnostic} {source : String}

theorem visible_le_width (d : Diagnostic) (source : String) :
    (d.lineIn source).start + Text.width (d.lineIn source).visible ≤ Text.width source.toList := by
  obtain ⟨before, after, hline⟩ := d.lineIn_isFoundAt source
  exact hline.isEdge_visible.le_width

theorem render?_of_le (hsize : Text.width source.toList + 1 < Offset.limit)
    (horder : d.span.start ≤ d.span.stop) (hstop : d.span.stop < Offset.limit) :
    d.render? source =
      (Text.slice? source.toList (d.lineIn source).start d.span.start).bind fun before =>
        (Text.slice? source.toList d.span.start (min d.span.stop (d.visibleEnd source))).map
          fun marked => d.picture (d.lineIn source).visible before marked := by
  have hfound : Line.find? source d.span.start = some (d.lineIn source) :=
    Line.find?_eq_some hsize d.span.start
  have hvisible : (d.lineIn source).start + Text.width (d.lineIn source).visible < Offset.limit :=
    Nat.lt_of_le_of_lt (d.visible_le_width source) (Nat.lt_of_succ_lt hsize)
  have hlength : d.span.length? = some (d.span.stop - d.span.start) := if_pos horder
  have hsum : Offset.add? d.span.start (d.span.stop - d.span.start) = some d.span.stop := by
    have hsame : d.span.start + (d.span.stop - d.span.start) = d.span.stop :=
      Nat.add_sub_cancel' horder
    rw [Offset.add?_eq_some (by rwa [hsame]), hsame]
  have hend : visibleStop? (d.lineIn source) d.span.start = some (d.visibleEnd source) := by
    rw [visibleStop?, Offset.add?_eq_some hvisible, Option.map_some, visibleEnd, Nat.max_comm]
  simp only [render?, hfound, hlength, hsum, hend, Option.bind_eq_bind, Option.bind_some]
  cases Text.slice? source.toList (d.lineIn source).start d.span.start with
  | none => rfl
  | some before =>
    cases Text.slice? source.toList d.span.start (min d.span.stop (d.visibleEnd source)) with
    | none => rfl
    | some marked =>
      simp only [Option.bind_some, Option.map_some, picture, Text.blanks, String.ofList_append,
        Nat.max_comm 1, String.append_assoc]
      rfl

theorem render?_of_lt (hsize : Text.width source.toList + 1 < Offset.limit)
    (h : d.span.stop < d.span.start) : d.render? source = none := by
  have hlength : d.span.length? = none := if_neg (Nat.not_le_of_lt h)
  rw [render?, Line.find?_eq_some hsize, hlength]
  rfl

theorem exists_picture (hsize : Text.width source.toList + 1 < Offset.limit)
    (hstop : d.span.stop < Offset.limit) (h : ¬ d.IsMisplaced source) :
    ∃ before marked,
      Text.slice? source.toList (d.lineIn source).start d.span.start = some before ∧
      Text.slice? source.toList d.span.start (min d.span.stop (d.visibleEnd source)) =
        some marked ∧
      d.render? source = some (d.picture (d.lineIn source).visible before marked) := by
  obtain ⟨above, below, hline⟩ := d.lineIn_isFoundAt source
  simp only [IsMisplaced, not_or, not_and, not_not, Nat.not_lt] at h
  obtain ⟨horder, _, hstart, hedge⟩ := h
  obtain ⟨before, hbefore⟩ := Text.exists_slice?_iff.mpr
    ⟨hline.start_le, hline.isEdge_start, hstart⟩
  have hmin : Text.IsEdge source.toList (min d.span.stop (d.visibleEnd source)) := by
    by_cases hlt : d.span.stop < d.visibleEnd source
    · rw [Nat.min_eq_left (Nat.le_of_lt hlt)]
      exact hedge hlt
    · rw [Nat.min_eq_right (Nat.not_lt.mp hlt)]
      exact hstart.max hline.isEdge_visible
  have hle : d.span.start ≤ min d.span.stop (d.visibleEnd source) :=
    Nat.le_min.mpr ⟨horder, Nat.le_max_left _ _⟩
  obtain ⟨marked, hmarked⟩ := Text.exists_slice?_iff.mpr ⟨hle, hstart, hmin⟩
  refine ⟨before, marked, hbefore, hmarked, ?_⟩
  rw [render?_of_le hsize horder hstop, hbefore, hmarked]
  rfl

theorem render?_of_isMisplaced (hsize : Text.width source.toList + 1 < Offset.limit)
    (hstop : d.span.stop < Offset.limit) (h : d.IsMisplaced source) : d.render? source = none := by
  by_cases horder : d.span.start ≤ d.span.stop
  · rw [render?_of_le hsize horder hstop]
    have hbefore : ¬ Text.IsEdge source.toList d.span.start →
        Text.slice? source.toList (d.lineIn source).start d.span.start = none := by
      intro hedge
      exact Text.slice?_eq_none_iff.mpr fun hboth => hedge hboth.2.2
    rcases h with hlt | hlong | hedge | ⟨hlt, hedge⟩
    · exact absurd hlt (Nat.not_lt.mpr horder)
    · have hedge : ¬ Text.IsEdge source.toList d.span.start := by
        intro hedge
        exact absurd hedge.le_width (Nat.not_le.mpr hlong)
      rw [hbefore hedge, Option.bind_none]
    · rw [hbefore hedge, Option.bind_none]
    · have hmarked : Text.slice? source.toList d.span.start
          (min d.span.stop (d.visibleEnd source)) = none := by
        rw [Nat.min_eq_left (Nat.le_of_lt hlt)]
        exact Text.slice?_eq_none_iff.mpr fun hboth => hedge hboth.2.2
      simp [hmarked]
  · exact render?_of_lt hsize (Nat.not_le.mp horder)

theorem render?_congr_stop (hsize : Text.width source.toList + 1 < Offset.limit) {other : Offset}
    (hstop : d.span.stop < Offset.limit) (hother : other < Offset.limit)
    (hvisible : d.visibleEnd source ≤ d.span.stop) (hbehind : d.visibleEnd source ≤ other) :
    ({ d with span := { start := d.span.start, stop := other } } : Diagnostic).render? source =
      d.render? source := by
  set e : Diagnostic := { d with span := { start := d.span.start, stop := other } } with he
  have hend : e.visibleEnd source = d.visibleEnd source := rfl
  have hle : d.span.start ≤ d.visibleEnd source := Nat.le_max_left _ _
  have hlast : e.visibleEnd source ≤ e.span.stop := hbehind
  rw [render?_of_le hsize (hle.trans hvisible) hstop,
    render?_of_le (d := e) hsize (hle.trans hbehind) hother,
    Nat.min_eq_right hvisible, Nat.min_eq_right hlast]
  rfl

end Render

/-- A complaint about any span can be shown unless it is misplaced, and is shown with its line and
with its marks under it. -/
theorem render?_decides {d : Diagnostic} {source : String}
    (hsize : Text.width source.toList + 1 < Offset.limit) (hstop : d.span.stop < Offset.limit) :
    (d.render? source = none ↔ d.IsMisplaced source) ∧
    (¬ d.IsMisplaced source → ∃ before marked,
      Text.slice? source.toList (d.lineIn source).start d.span.start = some before ∧
      Text.slice? source.toList d.span.start (min d.span.stop (d.visibleEnd source)) =
        some marked ∧
      d.render? source = some (d.picture (d.lineIn source).visible before marked)) ∧
    ∀ other < Offset.limit, d.visibleEnd source ≤ d.span.stop → d.visibleEnd source ≤ other →
      ({ d with span := { start := d.span.start, stop := other } } : Diagnostic).render? source =
        d.render? source := by
  refine ⟨⟨?_, render?_of_isMisplaced hsize hstop⟩, exists_picture hsize hstop, ?_⟩
  · intro hnone
    by_contra h
    obtain ⟨before, marked, _, _, hsome⟩ := exists_picture hsize hstop h
    rw [hnone] at hsome
    cases hsome
  · intro other hother hvisible hbehind
    exact render?_congr_stop hsize hstop hother hvisible hbehind

/-- Between a carriage return and its line feed a complaint can begin, though there is nothing left
to see of the line; inside a character it cannot. -/
theorem render?_decides_amid_break :
    let source := "\té\r\nx"
    let d : Diagnostic := { span := { start := 4, stop := 5 }, line := 1, description := "no" }
    let e : Diagnostic := { span := { start := 2, stop := 5 }, line := 1, description := "no" }
    Text.width source.toList + 1 < Offset.limit ∧ d.span.stop < Offset.limit ∧
      d.render? source = some "1| \té\n | \t  ^--- no" ∧ e.render? source = none := by
  intro source d e
  have hsize : Text.width source.toList + 1 < Offset.limit := by decide
  have hstop : d.span.stop < Offset.limit := by decide
  obtain ⟨before, marked, hbefore, hmarked, hpicture⟩ :=
    (render?_decides (d := d) hsize hstop).2.1 (by decide +kernel)
  have hfront : Text.slice? source.toList (d.lineIn source).start d.span.start =
      some ['\t', 'é', '\r'] := by decide +kernel
  have hnothing : Text.slice? source.toList d.span.start
      (min d.span.stop (d.visibleEnd source)) = some [] := by decide +kernel
  obtain rfl := Option.some.inj (hfront.symm.trans hbefore)
  obtain rfl := Option.some.inj (hnothing.symm.trans hmarked)
  refine ⟨hsize, hstop, ?_, ?_⟩
  · rw [hpicture]
    decide +kernel
  · exact (render?_decides (d := e) hsize hstop).1.mpr (by decide +kernel)

end Diagnostic

end Lexis
