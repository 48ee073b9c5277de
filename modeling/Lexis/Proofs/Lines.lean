import Lexis.Line
import Lexis.Proofs.Splitting

/-!
The lines of a text, said without the splitter: a line is a stretch without line breaks, and each
line but the last has one ending behind it. The splitter finds such lines (`lines_split`), and
looking up a position finds one of them, with what is in front of it (`exists_isLineOf_find`).
-/

set_option autoImplicit false
set_option relaxedAutoImplicit false

namespace Lexis

def IsUnbroken (text : List Char) : Prop := ∀ c ∈ text, isLineBreak c = false

instance : DecidablePred IsUnbroken := List.decidableBAll (isLineBreak · = false)

/-- What ends a line in front of the rest of the text: a line feed, with or without a carriage
return before it, or a carriage return that no line feed follows. -/
inductive Ending (rest : List Char) : List Char → Prop
  | feed : Ending rest ['\n']
  | returnFeed : Ending rest ['\r', '\n']
  | carriageReturn : rest.head? ≠ some '\n' → Ending rest ['\r']

/-- The text consists of the lines. Each line has an ending, except for the last one. -/
inductive Lines : List Char → List (List Char) → Prop
  | last {body : List Char} : IsUnbroken body → Lines body [body]
  | cons {body ending rest : List Char} {lines : List (List Char)} :
      IsUnbroken body → Ending rest ending → Lines rest lines →
      Lines (body ++ ending ++ rest) ((body ++ ending) :: lines)

/-- The number of line breaks in a text. A carriage return and the line feed right behind it are
one. -/
def lineBreaks : List Char → Nat
  | [] => 0
  | c :: rest => (if Line.endsBehind c rest then 1 else 0) + lineBreaks rest

section Unbroken

variable {text other : List Char} {c : Char}

theorem isLineBreak_eq_false_iff : isLineBreak c = false ↔ c ≠ '\n' ∧ c ≠ '\r' := by
  simp [isLineBreak]

theorem isUnbroken_nil : IsUnbroken [] := by decide

theorem isUnbroken_singleton : IsUnbroken [c] ↔ isLineBreak c = false := List.forall_mem_singleton

theorem isUnbroken_cons : IsUnbroken (c :: text) ↔ isLineBreak c = false ∧ IsUnbroken text :=
  List.forall_mem_cons

theorem isUnbroken_replicate (h : isLineBreak c = false) (n : Nat) :
    IsUnbroken (List.replicate n c) := by
  intro d hd
  rwa [List.eq_of_mem_replicate hd]

theorem isUnbroken_append : IsUnbroken (text ++ other) ↔ IsUnbroken text ∧ IsUnbroken other :=
  List.forall_mem_append

theorem IsUnbroken.of_prefix (h : IsUnbroken text) (hother : other <+: text) :
    IsUnbroken other :=
  fun c hc => h c (hother.subset hc)

theorem IsUnbroken.prefix_of_append {rest tail : List Char} (h : IsUnbroken text)
    (heq : text ++ rest = other ++ tail) (htail : ∀ c ∈ tail.head?, isLineBreak c = true) :
    text <+: other := by
  rcases List.append_eq_append_iff.mp heq with ⟨more, hother, _⟩ | ⟨more, htext, hmore⟩
  · exact ⟨more, hother.symm⟩
  · cases more with
    | nil =>
      rw [List.append_nil] at htext
      exact ⟨[], by rw [List.append_nil, htext]⟩
    | cons c more =>
      have hplain := h c (by simp [htext])
      rw [htail c (by rw [hmore]; rfl)] at hplain
      cases hplain

end Unbroken

section Ending

variable {rest ending : List Char}

theorem Ending.isLineBreak (h : Ending rest ending) : ∀ c ∈ ending, isLineBreak c = true := by
  cases h <;> simp [Lexis.isLineBreak]

theorem Ending.ne_nil (h : Ending rest ending) : ending ≠ [] := by
  cases h <;> simp

theorem Ending.eq_of_append {front back : List Char} (h : Ending rest ending)
    (heq : ending = front ++ back) (hfront : front ≠ []) (hback : back ≠ []) :
    front = ['\r'] ∧ back = ['\n'] := by
  obtain ⟨c, front, rfl⟩ := List.exists_cons_of_ne_nil hfront
  obtain ⟨d, back, rfl⟩ := List.exists_cons_of_ne_nil hback
  cases h with
  | feed => simp at heq
  | carriageReturn _ => simp at heq
  | returnFeed =>
    cases front with
    | nil =>
      simp only [List.cons_append, List.nil_append, List.cons.injEq] at heq
      obtain ⟨rfl, rfl, rfl⟩ := heq
      exact ⟨rfl, rfl⟩
    | cons e front => simp at heq

end Ending

theorem Ending.of_append {front back ending : List Char} (h : Ending (front ++ back) ending) :
    Ending front ending := by
  cases h with
  | feed => exact .feed
  | returnFeed => exact .returnFeed
  | carriageReturn hnext =>
    refine .carriageReturn ?_
    cases front with
    | nil => simp
    | cons c front => exact hnext

section LineBreaks

variable {text rest ending : List Char}

theorem lineBreaks_unbroken_append (h : IsUnbroken text) :
    lineBreaks (text ++ rest) = lineBreaks rest := by
  induction text with
  | nil => rfl
  | cons c text ih =>
    obtain ⟨hc, htext⟩ := isUnbroken_cons.mp h
    obtain ⟨hfeed, hreturn⟩ := isLineBreak_eq_false_iff.mp hc
    have hends : Line.endsBehind c (text ++ rest) = false := by
      simp [Line.endsBehind, hfeed, hreturn]
    rw [List.cons_append, lineBreaks, hends, ih htext]
    exact Nat.zero_add _

theorem lineBreaks_of_isUnbroken (h : IsUnbroken text) : lineBreaks text = 0 := by
  rw [← List.append_nil text, lineBreaks_unbroken_append h, lineBreaks]

theorem lineBreaks_ending_append (h : Ending rest ending) :
    lineBreaks (ending ++ rest) = lineBreaks rest + 1 := by
  cases h with
  | feed => simp [lineBreaks, Line.endsBehind, Nat.add_comm]
  | returnFeed => simp [lineBreaks, Line.endsBehind, Nat.add_comm]
  | carriageReturn hnext => simp [lineBreaks, Line.endsBehind, hnext, Nat.add_comm]

example : lineBreaks "a\r\nb\n\rc".toList = 3 := by decide

end LineBreaks

theorem filter_body_append {body ending : List Char} (hbody : IsUnbroken body)
    (hending : ∀ c ∈ ending, isLineBreak c = true) :
    (body ++ ending).filter (fun c => !isLineBreak c) = body := by
  have hfront : body.filter (fun c => !isLineBreak c) = body := by
    rw [List.filter_eq_self]
    intro c hc
    rw [hbody c hc]
    rfl
  have hback : ending.filter (fun c => !isLineBreak c) = [] := by
    rw [List.filter_eq_nil_iff]
    intro c hc
    simp [hending c hc]
  rw [List.filter_append, hfront, hback, List.append_nil]

namespace Lines

variable {text rest line : List Char} {lines before after : List (List Char)} {c : Char}

theorem flatten_eq (h : Lines text lines) : lines.flatten = text := by
  induction h with
  | last _ => simp
  | cons _ _ _ ih => rw [List.flatten_cons, ih]

theorem of_append (h : Lines text (before ++ line :: after)) :
    Lines (line ++ after.flatten) (line :: after) := by
  induction before generalizing text with
  | nil =>
    have heq := h.flatten_eq
    rw [List.nil_append, List.flatten_cons] at heq
    rwa [heq]
  | cons first before ih =>
    rw [List.cons_append] at h
    generalize hlines : before ++ line :: after = lines at h
    cases h with
    | last _ => simp at hlines
    | cons _ _ hlater =>
      subst hlines
      exact ih hlater

theorem lineBreaks_flatten_append {front back : List Char}
    (h : Lines text (before ++ (front ++ back) :: after)) (hfront : IsUnbroken front) :
    lineBreaks (before.flatten ++ front) = before.length := by
  induction before generalizing text with
  | nil => exact lineBreaks_of_isUnbroken hfront
  | cons first before ih =>
    rw [List.cons_append] at h
    generalize hlines : before ++ (front ++ back) :: after = lines at h
    cases h with
    | last _ => simp at hlines
    | @cons body ending rest _ hbody hending hlater =>
      subst hlines
      have hrest : rest = before.flatten ++ front ++ (back ++ after.flatten) := by
        rw [← hlater.flatten_eq]
        simp
      rw [hrest] at hending
      rw [List.flatten_cons, List.append_assoc, List.append_assoc, lineBreaks_unbroken_append hbody,
        lineBreaks_ending_append hending.of_append, ih hlater, List.length_cons]

theorem exists_body (h : Lines text (line :: after)) :
    ∃ body ending, line = body ++ ending ∧ IsUnbroken body ∧
      (∀ c ∈ ending, isLineBreak c = true) ∧ (ending = [] → after = []) := by
  cases h with
  | last hbody => exact ⟨_, [], by rw [List.append_nil], hbody, by simp, fun _ => rfl⟩
  | @cons body ending _ _ hbody hending _ =>
    exact ⟨body, ending, rfl, hbody, hending.isLineBreak, fun h => absurd h hending.ne_nil⟩

theorem cut (h : Lines text (line :: after)) {front back : List Char}
    (hline : line = front ++ back) (hback : after ≠ [] → back ≠ []) :
    IsUnbroken front ∨ ∃ body, IsUnbroken body ∧ front = body ++ ['\r'] ∧ back = ['\n'] := by
  cases h with
  | last hbody => exact .inl (hbody.of_prefix ⟨back, hline.symm⟩)
  | @cons body ending rest lines hbody hending hlater =>
    have hlines : after ≠ [] := by
      cases hlater <;> simp
    rcases List.append_eq_append_iff.mp hline with ⟨more, hfront, hending'⟩ | ⟨more, hbody', _⟩
    · cases more with
      | nil =>
        rw [List.append_nil] at hfront
        exact .inl (by rwa [hfront])
      | cons c more =>
        obtain ⟨hmore, rfl⟩ := hending.eq_of_append hending' (List.cons_ne_nil c more)
          (hback hlines)
        exact .inr ⟨body, hbody, by rw [hfront, hmore], rfl⟩
    · exact .inl (hbody.of_prefix ⟨more, hbody'.symm⟩)

private theorem extendFirst_return (h : Lines ('\n' :: rest) lines) :
    Lines ('\r' :: '\n' :: rest) (Line.extendFirst '\r' lines) := by
  generalize htext : '\n' :: rest = text at h
  cases h with
  | last hbody =>
    subst htext
    exact absurd (isUnbroken_cons.mp hbody).1 (by decide)
  | @cons body ending later lines hbody hending hlater =>
    cases body with
    | cons d body =>
      obtain ⟨rfl, _⟩ := List.cons.inj htext
      exact absurd (isUnbroken_cons.mp hbody).1 (by decide)
    | nil =>
      cases hending with
      | feed => exact .cons isUnbroken_nil .returnFeed hlater
      | returnFeed => simp at htext
      | carriageReturn _ => simp at htext

theorem extendFirst (h : Lines rest lines) (hc : Line.endsBehind c rest = false) :
    Lines (c :: rest) (Line.extendFirst c lines) := by
  by_cases hbreak : isLineBreak c = true
  · -- Only a carriage return in front of a line feed is a line break that ends no line.
    obtain ⟨rfl, hfeed⟩ : c = '\r' ∧ rest.head? = some '\n' := by
      simp only [Line.endsBehind, isLineBreak, Bool.or_eq_false_iff, Bool.and_eq_false_iff,
        Bool.or_eq_true, decide_eq_false_iff_not, beq_iff_eq, not_not] at hc hbreak
      tauto
    obtain ⟨rest, rfl⟩ := List.head?_eq_some_iff.mp hfeed
    exact h.extendFirst_return
  · rw [Bool.not_eq_true] at hbreak
    cases h with
    | last hbody => exact .last (isUnbroken_cons.mpr ⟨hbreak, hbody⟩)
    | cons hbody hending hlater =>
      exact .cons (isUnbroken_cons.mpr ⟨hbreak, hbody⟩) hending hlater

end Lines

theorem lines_split (text : List Char) : Lines text (Line.split text) := by
  induction text with
  | nil => exact .last isUnbroken_nil
  | cons c rest ih =>
    rw [Line.split]
    split
    · next hends =>
      have hending : Ending rest [c] := by
        simp only [Line.endsBehind, Bool.or_eq_true, Bool.and_eq_true, decide_eq_true_eq] at hends
        rcases hends with rfl | ⟨rfl, hnext⟩
        · exact .feed
        · exact .carriageReturn hnext
      exact .cons isUnbroken_nil hending ih
    · next hends => exact ih.extendFirst (Bool.not_eq_true _ ▸ hends)

namespace Line

/-- The line is one of the lines of the source, behind those before it and in front of those after
it, and its place and its number say so. -/
structure IsLineOf (source : String) (before after : List (List Char)) (line : Line) : Prop where
  lines : Lines source.toList (before ++ line.text :: after)
  number_eq : line.number = before.length + 1
  start_eq : line.start = Text.width before.flatten

theorem pick_cons_cons (position : Offset) (number : Nat) (start : Offset) (text next : List Char)
    (lines : List (List Char)) : pick position number start (text :: next :: lines) =
      if position < start + Text.width text then { number, start, text }
      else pick position (number + 1) (start + Text.width text) (next :: lines) :=
  rfl

theorem exists_pick {position : Offset} {lines : List (List Char)} (hlines : lines ≠ [])
    (number : Nat) {start : Offset} (hstart : start ≤ position) :
    ∃ before after, lines = before ++ (pick position number start lines).text :: after ∧
      (pick position number start lines).number = number + before.length ∧
      (pick position number start lines).start = start + Text.width before.flatten ∧
      (pick position number start lines).start ≤ position ∧
      (after ≠ [] → position < (pick position number start lines).span.stop) := by
  induction lines generalizing number start with
  | nil => exact absurd rfl hlines
  | cons text lines ih =>
    cases lines with
    | nil => exact ⟨[], [], rfl, rfl, rfl, hstart, fun h => absurd rfl h⟩
    | cons next lines =>
      rw [pick_cons_cons]
      split
      · next hlt => exact ⟨[], next :: lines, rfl, rfl, rfl, hstart, fun _ => hlt⟩
      · next hlt =>
        obtain ⟨before, after, heq, hnumber, hplace, hle, hstop⟩ :=
          ih (List.cons_ne_nil next lines) (number + 1) (Nat.not_lt.mp hlt)
        refine ⟨text :: before, after, by rw [List.cons_append, ← heq], ?_, ?_, hle, hstop⟩
        · rw [hnumber, List.length_cons]
          omega
        · rw [hplace, List.flatten_cons, Text.width_append, Nat.add_assoc]

theorem exists_isLineOf_find (source : String) (position : Offset) :
    ∃ before after, (find source position).IsLineOf source before after ∧
      (find source position).start ≤ position ∧
      (after ≠ [] → position < (find source position).span.stop) := by
  obtain ⟨before, after, heq, hnumber, hstart, hle, hstop⟩ :=
    exists_pick (split_ne_nil source.toList) 1 (Nat.zero_le position)
  refine ⟨before, after, ⟨?_, ?_, ?_⟩, hle, hstop⟩
  · have hlines := lines_split source.toList
    rwa [heq] at hlines
  · rw [find, hnumber, Nat.add_comm]
  · rw [find, hstart, Nat.zero_add]

end Line

end Lexis
