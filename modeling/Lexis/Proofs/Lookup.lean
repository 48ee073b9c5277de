import Lexis.Proofs.Lines

/-!
Looking up the line at a position. A text has one list of lines only (`isSplit_iff`), and what is
found at a position is the one line of it that holds the position, or the last one
(`Line.IsFoundAt`). While the line is looked up nothing can go wrong: each line is a slice of the
source, there is always a line left to pick, and no sum is too big for a word
(`Line.find?_eq_some`).
-/

set_option autoImplicit false
set_option relaxedAutoImplicit false

namespace Lexis

/-- The lines make up the text. Each of them but the last is a stretch without line breaks and one
ending, which the text behind it does not make longer; the last line has no ending. -/
structure IsSplit (text : List Char) (lines : List (List Char)) : Prop where
  ne_nil : lines ≠ []
  flatten_eq : lines.flatten = text
  ended : ∀ before line after, lines = before ++ line :: after → after ≠ [] →
    ∃ body ending, line = body ++ ending ∧ IsUnbroken body ∧ Ending after.flatten ending
  last : ∀ before line, lines = before ++ [line] → IsUnbroken line

section Unique

variable {text rest tail line ending other : List Char} {lines lines' : List (List Char)}

theorem Ending.unique (h : Ending rest ending) (hother : Ending tail other)
    (heq : ending ++ rest = other ++ tail) : ending = other ∧ rest = tail := by
  cases h with
  | feed =>
    cases hother with
    | feed => exact ⟨rfl, (List.cons.inj heq).2⟩
    | _ => simp at heq
  | returnFeed =>
    cases hother with
    | feed => simp at heq
    | returnFeed => exact ⟨rfl, (List.cons.inj (List.cons.inj heq).2).2⟩
    | carriageReturn hnext =>
      obtain ⟨_, rfl⟩ := List.cons.inj heq
      exact absurd rfl hnext
  | carriageReturn hnext =>
    cases hother with
    | feed => simp at heq
    | returnFeed =>
      obtain ⟨_, rfl⟩ := List.cons.inj heq
      exact absurd rfl hnext
    | carriageReturn _ => exact ⟨rfl, (List.cons.inj heq).2⟩

theorem Ending.not_isUnbroken (h : Ending rest ending) (body : List Char) :
    ¬ IsUnbroken (body ++ ending ++ rest) := by
  intro hunbroken
  obtain ⟨c, cs, rfl⟩ := List.exists_cons_of_ne_nil h.ne_nil
  have hbreak := h.isLineBreak c List.mem_cons_self
  rw [hunbroken c (by simp)] at hbreak
  cases hbreak

theorem Lines.ne_nil (h : Lines text lines) : lines ≠ [] := by
  cases h <;> simp

theorem Lines.unique (h : Lines text lines) (hother : Lines text lines') : lines = lines' := by
  induction h generalizing lines' with
  | last hbody =>
    cases hother with
    | last _ => rfl
    | cons _ hending _ => exact absurd hbody (hending.not_isUnbroken _)
  | @cons body ending rest lines hbody hending _ ih =>
    generalize htext : body ++ ending ++ rest = text at hother
    cases hother with
    | last hwhole =>
      subst htext
      exact absurd hwhole (hending.not_isUnbroken body)
    | @cons body' ending' rest' lines' hbody' hending' hlater' =>
      have hhead : ∀ {rest ending : List Char}, Ending rest ending →
          ∀ c ∈ (ending ++ rest).head?, ¬ isLineBreak c = false := by
        intro rest ending h c hc
        rw [List.head?_append_of_ne_nil _ h.ne_nil] at hc
        simp [h.isLineBreak c (List.mem_of_mem_head? hc)]
      rw [List.append_assoc, List.append_assoc] at htext
      obtain ⟨rfl, hrest⟩ := Text.append_inj_of_boundary htext hbody hbody' (hhead hending)
        (hhead hending')
      obtain ⟨rfl, rfl⟩ := hending.unique hending' hrest
      rw [ih hlater']

end Unique

theorem Lines.isSplit {text : List Char} {lines : List (List Char)} (h : Lines text lines) :
    IsSplit text lines where
  ne_nil := h.ne_nil
  flatten_eq := h.flatten_eq
  ended := by
    rintro before line after rfl hafter
    have hlines := h.of_append
    generalize line ++ after.flatten = text at hlines
    cases hlines with
    | last _ => exact absurd rfl hafter
    | @cons body ending rest _ hbody hending hlater =>
      rw [hlater.flatten_eq]
      exact ⟨body, ending, rfl, hbody, hending⟩
  last := by
    rintro before line rfl
    have hlines := h.of_append
    rw [List.flatten_nil, List.append_nil] at hlines
    generalize hwhole : [line] = lines at hlines
    cases hlines with
    | last hbody => exact hbody
    | cons _ _ hlater =>
      obtain ⟨_, hnil⟩ := List.cons.inj hwhole
      exact absurd hnil.symm hlater.ne_nil

theorem IsSplit.lines {text : List Char} {lines : List (List Char)} (h : IsSplit text lines) :
    Lines text lines := by
  induction lines generalizing text with
  | nil => exact absurd rfl h.ne_nil
  | cons line lines ih =>
    have htext := h.flatten_eq
    rw [List.flatten_cons] at htext
    by_cases hlast : lines = []
    · subst hlast
      rw [List.flatten_nil, List.append_nil] at htext
      subst htext
      exact .last (h.last [] line rfl)
    · obtain ⟨body, ending, rfl, hbody, hending⟩ := h.ended [] line lines rfl hlast
      have hlater : IsSplit lines.flatten lines := by
        refine ⟨hlast, rfl, ?_, ?_⟩
        · intro before next after hlines
          exact h.ended ((body ++ ending) :: before) next after (by rw [hlines, List.cons_append])
        · intro before next hlines
          exact h.last ((body ++ ending) :: before) next (by rw [hlines, List.cons_append])
      rw [← htext]
      exact .cons hbody hending (ih hlater)

theorem isSplit_iff {text : List Char} {lines : List (List Char)} :
    IsSplit text lines ↔ lines = Line.split text := by
  constructor
  · intro h
    exact h.lines.unique (lines_split text)
  · rintro rfl
    exact (lines_split text).isSplit

namespace Line

theorem foldr_extendFirst_cons (line next : List Char) (lines : List (List Char)) :
    line.foldr extendFirst (next :: lines) = (line ++ next) :: lines := by
  induction line with
  | nil => rfl
  | cons c line ih => rw [List.foldr_cons, ih, extendFirst, List.cons_append]

/-- Behind the beginning of a line the rest is split as it is split alone, with this beginning in
front of its first line. -/
theorem splitFrom?_eq_some (start : Nat) (line : List Char) {rest : List Char}
    (hsize : start + Text.width (line ++ rest) < Offset.limit) :
    splitFrom? (line ++ rest) start (start + Text.width line) rest =
      some (line.foldr extendFirst (split rest)) := by
  induction rest generalizing start line with
  | nil =>
    rw [splitFrom?, Offset.sub?_add_left, Option.bind_eq_bind, Option.bind_some,
      Text.cut?_width_append, split, foldr_extendFirst_cons, List.append_nil]
    rfl
  | cons c rest ih =>
    have hread : line ++ c :: rest = (line ++ [c]) ++ rest := by simp
    have hwidth : start + Text.width line + c.utf8Size = start + Text.width (line ++ [c]) := by
      rw [Text.width_append, Text.width_cons, Text.width_nil, Nat.add_zero, Nat.add_assoc]
    have hnext : Offset.add? (start + Text.width line) c.utf8Size =
        some (start + Text.width (line ++ [c])) := by
      rw [← hwidth]
      apply Offset.add?_eq_some
      rw [Text.width_append, Text.width_cons] at hsize
      omega
    rw [hread] at hsize ⊢
    rw [splitFrom?, hnext, Option.bind_eq_bind, Option.bind_some, split]
    split
    · have hlater := ih (start + Text.width (line ++ [c])) []
        (by rwa [List.nil_append, Nat.add_assoc, ← Text.width_append])
      rw [List.nil_append, Text.width_nil, Nat.add_zero] at hlater
      rw [Offset.sub?_add_left, Option.bind_some, Text.cut?_width_append, foldr_extendFirst_cons]
      change (splitFrom? rest _ _ rest).bind _ = _
      rw [hlater]
      rfl
    · rw [ih start (line ++ [c]) hsize, List.foldr_append]
      rfl

theorem pick?_eq_some {lines : List (List Char)} (hlines : lines ≠ []) (position : Offset)
    {index start : Nat} (hindex : index + lines.length < Offset.limit)
    (hstart : start + Text.width lines.flatten < Offset.limit) :
    pick? position index start lines = some (pick position (index + 1) start lines) := by
  induction lines generalizing index start with
  | nil => exact absurd rfl hlines
  | cons text lines ih =>
    rw [List.length_cons] at hindex
    rw [List.flatten_cons, Text.width_append] at hstart
    have hstop : Offset.add? start (Text.width text) = some (start + Text.width text) := by
      apply Offset.add?_eq_some
      omega
    have hnumber : Offset.add? index 1 = some (index + 1) := by
      apply Offset.add?_eq_some
      omega
    cases lines with
    | nil => simp [pick?, pick, hstop, hnumber]
    | cons next lines =>
      have hlater : pick? position (index + 1) (start + Text.width text) (next :: lines) =
          some (pick position (index + 1 + 1) (start + Text.width text) (next :: lines)) := by
        apply ih (List.cons_ne_nil next lines)
        · omega
        · omega
      rw [pick?, hstop, pick_cons_cons, Option.bind_eq_bind, Option.bind_some]
      by_cases hposition : position < start + Text.width text
      · rw [if_pos (.inl hposition), if_pos hposition, hnumber]
        rfl
      · have hon : ¬ (position < start + Text.width text ∨ next :: lines = []) := by
          rintro (hlt | hnil)
          · exact hposition hlt
          · cases hnil
        rw [if_neg hon, if_neg hposition, hlater]

theorem length_extendFirst (c : Char) {lines : List (List Char)} (h : lines ≠ []) :
    (extendFirst c lines).length = lines.length := by
  cases lines with
  | nil => exact absurd rfl h
  | cons line lines => rfl

theorem length_split_le (text : List Char) : (split text).length ≤ text.length + 1 := by
  induction text with
  | nil => simp [split]
  | cons c rest ih =>
    rw [split]
    split
    · rw [List.length_cons, List.length_cons]
      omega
    · rw [length_extendFirst c (split_ne_nil rest), List.length_cons]
      omega

/-- Nothing goes wrong while a line is looked up. A source of line feeds has one line more than
bytes, so it is the number of its last line that has to fit in a word. -/
theorem find?_eq_some {source : String} (hsize : Text.width source.toList + 1 < Offset.limit)
    (position : Offset) : find? source position = some (find source position) := by
  have hlength := Text.length_le_width source.toList
  have hlines := length_split_le source.toList
  have hsplit : splitFrom? source.toList 0 0 source.toList = some (split source.toList) :=
    splitFrom?_eq_some 0 [] (by rw [Nat.zero_add]; exact Nat.lt_of_succ_lt hsize)
  rw [find?, hsplit, Option.bind_eq_bind, Option.bind_some]
  apply pick?_eq_some (split_ne_nil source.toList)
  · omega
  · rw [flatten_split]
    omega

structure IsFoundAt (source : String) (position : Offset) (before after : List (List Char))
    (line : Line) : Prop where
  split_eq : split source.toList = before ++ line.text :: after
  find?_eq : Text.width source.toList + 1 < Offset.limit → find? source position = some line
  start_le : line.start ≤ position
  lt_stop : position < Text.width source.toList → position < line.span.stop
  last : Text.width source.toList ≤ position →
    after = [] ∧ line.span.stop = Text.width source.toList
  lookup : line.span.lookup? source = some (String.ofList line.text)
  /-- The lines are numbered by the line breaks in front of them. -/
  number : ∃ front, Text.slice? source.toList 0 line.start = some front ∧
    line.number = 1 + lineBreaks front
  visible : ∃ ending, line.text = line.visible ++ ending ∧ IsUnbroken line.visible ∧
    (after = [] → ending = []) ∧ (after ≠ [] → Ending after.flatten ending)

namespace IsLineOf

variable {source : String} {before after : List (List Char)} {line : Line}

theorem source_eq (h : line.IsLineOf source before after) :
    source.toList = before.flatten ++ line.text ++ after.flatten := by
  rw [← h.lines.flatten_eq, List.flatten_append, List.flatten_cons, List.append_assoc]

theorem width_eq (h : line.IsLineOf source before after) :
    Text.width source.toList = line.span.stop + Text.width after.flatten := by
  rw [h.source_eq, Text.width_append, Text.width_append, span, h.start_eq]

theorem stop_le (h : line.IsLineOf source before after) :
    line.span.stop ≤ Text.width source.toList := by
  rw [h.width_eq]
  exact Nat.le_add_right _ _

theorem lookup?_span (h : line.IsLineOf source before after) :
    line.span.lookup? source = some (String.ofList line.text) := by
  have hslice : Text.slice? source.toList line.start (line.start + Text.width line.text) =
      some line.text := by
    rw [Text.slice?_eq_some_iff, h.start_eq]
    exact ⟨before.flatten, after.flatten, h.source_eq, rfl, rfl⟩
  rw [Span.lookup?, span, hslice, Option.map_some]

theorem exists_front (h : line.IsLineOf source before after) :
    ∃ front, Text.slice? source.toList 0 line.start = some front ∧
      line.number = 1 + lineBreaks front := by
  refine ⟨before.flatten, ?_, ?_⟩
  · rw [Text.slice?_eq_some_iff]
    refine ⟨[], line.text ++ after.flatten, ?_, rfl, ?_⟩
    · rw [h.source_eq, List.nil_append, List.append_assoc]
    · rw [h.start_eq, Text.width_nil, Nat.zero_add]
  · have hlines : Lines source.toList (before ++ ([] ++ line.text) :: after) := h.lines
    have hbreaks := hlines.lineBreaks_flatten_append isUnbroken_nil
    rw [List.append_nil] at hbreaks
    rw [h.number_eq, hbreaks, Nat.add_comm]

theorem exists_ending (h : line.IsLineOf source before after) :
    ∃ ending, line.text = line.visible ++ ending ∧ IsUnbroken line.visible ∧
      (after = [] → ending = []) ∧ (after ≠ [] → Ending after.flatten ending) := by
  have hsplit := h.lines.isSplit
  by_cases hafter : after = []
  · subst hafter
    have hbody := hsplit.last before line.text rfl
    have hvisible : line.visible = line.text := by
      have hnone : ∀ c ∈ ([] : List Char), isLineBreak c = true := by simp
      have hfilter := filter_body_append hbody hnone
      rwa [List.append_nil] at hfilter
    rw [hvisible]
    exact ⟨[], (List.append_nil _).symm, hbody, fun _ => rfl, fun h => absurd rfl h⟩
  · obtain ⟨body, ending, htext, hbody, hending⟩ := hsplit.ended before line.text after rfl hafter
    have hvisible : line.visible = body := by
      rw [visible, htext]
      exact filter_body_append hbody hending.isLineBreak
    rw [hvisible]
    exact ⟨ending, htext, hbody, fun h => absurd h hafter, fun _ => hending⟩

end IsLineOf

theorem exists_isFoundAt (source : String) (position : Offset) :
    ∃ before after, (find source position).IsFoundAt source position before after := by
  obtain ⟨before, after, hline, hstart, hstop⟩ := exists_isLineOf_find source position
  have hwidth := hline.width_eq
  refine ⟨before, after,
    { split_eq := (hline.lines.unique (lines_split source.toList)).symm
      find?_eq := fun hsize => find?_eq_some hsize position
      start_le := hstart
      lt_stop := ?_
      last := ?_
      lookup := hline.lookup?_span
      number := hline.exists_front
      visible := hline.exists_ending }⟩
  · intro hposition
    by_cases hafter : after = []
    · subst hafter
      rw [List.flatten_nil, Text.width_nil, Nat.add_zero] at hwidth
      rwa [hwidth] at hposition
    · exact hstop hafter
  · intro hposition
    by_cases hafter : after = []
    · subst hafter
      rw [List.flatten_nil, Text.width_nil, Nat.add_zero] at hwidth
      exact ⟨rfl, hwidth.symm⟩
    · have hbehind := Nat.lt_of_lt_of_le (hstop hafter) (hline.stop_le.trans hposition)
      exact absurd hbehind (Nat.lt_irrefl _)

end Line

/-- The splitter gives the only list of lines that a source has, and the lookup of a position gives
the line of this list that belongs there, whatever the position. -/
theorem lines_and_lookup (source : String) :
    (∀ lines, IsSplit source.toList lines ↔ lines = Line.split source.toList) ∧
      ∀ position, ∃ before after,
        (Line.find source position).IsFoundAt source position before after := by
  constructor
  · intro lines
    exact isSplit_iff
  · intro position
    exact Line.exists_isFoundAt source position

-- A position inside a character, or behind the source, belongs to a line as well.
example : (Line.find "é\r\nx" 1).text = ['é', '\r', '\n'] ∧
    Line.find "é\r\nx" 9 = { number := 2, start := 4, text := ['x'] } := by
  decide +kernel

end Lexis
