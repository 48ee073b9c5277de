import Lexis.Proofs.Layout
import Lexis.Proofs.Locality
import Lexis.Proofs.Stability
import Mathlib.Algebra.GroupWithZero.Nat
import Mathlib.Data.List.Forall2

/-!
Errors for unknown characters are isolated. With a space in place of each character that such an
error covers, a source has all its other items as before, only further to the front by the bytes
that the spaces save (`items_blanked`).

A verdict stands when a blank takes the place of what is behind it (`Decides.stands_behind`), so
the cursors of both sources stay in step from item to item (`Cursor.Mirrors.scan`), and an error for
an unknown character is a blank to the other cursor (`Cursor.Mirrors.scan_space`).
-/

set_option autoImplicit false
set_option relaxedAutoImplicit false

namespace Lexis

namespace Text

def placed (offset : Nat) : List Char → List (Nat × Char)
  | [] => []
  | c :: cs => (offset, c) :: placed (offset + c.utf8Size) cs

def blank (chosen : Nat → Bool) (offset : Nat) (text : List Char) : List Char :=
  (placed offset text).map fun x => if chosen x.1 then ' ' else x.2

/-- How many bytes the spaces are shorter than the characters in whose place they are. -/
def savings (chosen : Nat → Bool) (offset : Nat) (text : List Char) : Nat :=
  (((placed offset text).filter (chosen ·.1)).map (·.2.utf8Size - 1)).sum

def Spares (chosen : Nat → Bool) (offset : Nat) (text : List Char) : Prop :=
  ∀ x ∈ placed offset text, chosen x.1 = false

section Blank

variable {chosen : Nat → Bool} {offset : Nat} {text xs ys : List Char} {c : Char}

theorem placed_append (offset : Nat) (xs ys : List Char) :
    placed offset (xs ++ ys) = placed offset xs ++ placed (offset + width xs) ys := by
  induction xs generalizing offset with
  | nil => rfl
  | cons c cs ih =>
    rw [List.cons_append, placed, placed, ih, width_cons, Nat.add_assoc, List.cons_append]

theorem map_snd_placed (offset : Nat) (text : List Char) :
    (placed offset text).map Prod.snd = text := by
  induction text generalizing offset with
  | nil => rfl
  | cons c cs ih => rw [placed, List.map_cons, ih]

theorem bounds_of_mem_placed {x : Nat × Char} (h : x ∈ placed offset text) :
    offset ≤ x.1 ∧ x.1 < offset + width text := by
  induction text generalizing offset with
  | nil => cases h
  | cons c cs ih =>
    have hpos := c.utf8Size_pos
    rw [width_cons]
    rcases List.mem_cons.mp h with rfl | hlater
    · constructor
      · exact Nat.le_refl _
      · change offset < _
        omega
    · have hbounds := ih hlater
      omega

theorem spares_cons : Spares chosen offset (c :: text) ↔
    chosen offset = false ∧ Spares chosen (offset + c.utf8Size) text :=
  List.forall_mem_cons

theorem spares_append : Spares chosen offset (xs ++ ys) ↔
    Spares chosen offset xs ∧ Spares chosen (offset + width xs) ys := by
  rw [Spares, placed_append, List.forall_mem_append]
  rfl

theorem spares_of_bounds
    (h : ∀ n, offset ≤ n → n < offset + width text → chosen n = false) :
    Spares chosen offset text := by
  intro x hx
  obtain ⟨hle, hlt⟩ := bounds_of_mem_placed hx
  exact h x.1 hle hlt

theorem blank_cons : blank chosen offset (c :: text) =
    (if chosen offset then ' ' else c) :: blank chosen (offset + c.utf8Size) text :=
  rfl

theorem blank_append : blank chosen offset (xs ++ ys) =
    blank chosen offset xs ++ blank chosen (offset + width xs) ys := by
  rw [blank, placed_append, List.map_append]
  rfl

theorem Spares.blank_eq (h : Spares chosen offset text) : blank chosen offset text = text := by
  have hsame : blank chosen offset text = (placed offset text).map Prod.snd := by
    apply List.map_congr_left
    intro x hx
    rw [h x hx, if_neg Bool.false_ne_true]
  rw [hsame, map_snd_placed]

theorem mem_head?_blank (h : c ∈ (blank chosen offset text).head?) :
    c = ' ' ∨ c ∈ text.head? := by
  cases text with
  | nil => cases h
  | cons d cs =>
    rw [blank_cons, List.head?_cons] at h
    split at h
    · exact .inl (Option.some.inj h).symm
    · exact .inr h

theorem savings_append : savings chosen offset (xs ++ ys) =
    savings chosen offset xs + savings chosen (offset + width xs) ys := by
  rw [savings, placed_append, List.filter_append, List.map_append, List.sum_append]
  rfl

theorem savings_singleton_add (chosen : Nat → Bool) (offset : Nat) (c : Char) :
    savings chosen offset [c] + (if chosen offset then ' ' else c).utf8Size = c.utf8Size := by
  have hspace : ' '.utf8Size = 1 := rfl
  cases h : chosen offset with
  | false => simp [savings, placed, h]
  | true => simp [savings, placed, h, hspace, Nat.sub_add_cancel c.utf8Size_pos]

theorem Spares.savings_eq (h : Spares chosen offset text) : savings chosen offset text = 0 := by
  have hnone : (placed offset text).filter (chosen ·.1) = [] := by
    rw [List.filter_eq_nil_iff]
    intro x hx
    rw [h x hx]
    exact Bool.false_ne_true
  rw [savings, hnone]
  rfl

theorem savings_before (chosen : Nat → Bool) (front rest : List Char) :
    savings (fun n => chosen n && decide (n < width front)) 0 (front ++ rest) =
      savings chosen 0 front := by
  have hfront : (placed 0 front).filter (fun x => chosen x.1 && decide (x.1 < width front)) =
      (placed 0 front).filter (chosen ·.1) := by
    apply List.filter_congr
    intro x hx
    have hlt := (bounds_of_mem_placed hx).2
    rw [Nat.zero_add] at hlt
    rw [decide_eq_true hlt, Bool.and_true]
  have hrest : Spares (fun n => chosen n && decide (n < width front)) (0 + width front) rest := by
    apply spares_of_bounds
    intro n hle _
    rw [Nat.zero_add] at hle
    rw [decide_eq_false (Nat.not_lt.mpr hle), Bool.and_false]
  rw [savings_append, hrest.savings_eq, Nat.add_zero, savings, hfront, savings]

end Blank

end Text

def Item.isUnknown (item : Item) : Bool :=
  item.error?.any (·.fault.category = .unknownCharacter)

def isUnknownAt (items : List Item) (n : Nat) : Bool :=
  items.any fun item => item.isUnknown && decide (item.span.start ≤ n ∧ n < item.span.stop)

/-- The source with a space in place of each character that an error for an unknown character
covers. -/
def blanked (source : String) : String :=
  String.ofList (Text.blank (isUnknownAt (items source)) 0 source.toList)

def savedBefore (source : String) (offset : Offset) : Nat :=
  Text.savings (fun n => isUnknownAt (items source) n && decide (n < offset)) 0 source.toList

section Behind

variable {text rest other : List Char} {refusal : Refusal} {verdict : Verdict}

theorem Refused.extent_refused (h : Refused text refusal) :
    Refused (refusal.extent text) refusal := by
  cases h with
  | malformedInteger hnumber hc => exact .malformedInteger hnumber hc
  | malformedAssignment hc => exact .malformedAssignment hc
  | newlineInString hbody hc => exact .newlineInString hbody hc
  | unterminatedString hbody =>
    rw [Refusal.extent, if_neg (by simp), Option.toList_none, List.append_nil]
    exact .unterminatedString hbody
  | unterminatedComment hbody => exact .unterminatedComment hbody
  | @incompleteOperator first second rest hpair hnext =>
    cases rest with
    | nil => exact .incompleteOperator hpair hnext
    | cons c rest =>
      have hshort : Refused [first, c] ⟨.incompleteOperator second, [first], some c⟩ :=
        .incompleteOperator hpair hnext
      exact hshort
  | unknownCharacter hc => exact .unknownCharacter hc

theorem Decides.stands_behind (h : Decides text verdict)
    (htext : text = verdict.extent text ++ rest)
    (hhead : ∀ c ∈ other.head?, isBlank c = true ∨ c ∈ rest.head?)
    (hnil : rest = [] → other = []) :
    Decides (verdict.extent text ++ other) verdict ∧
      verdict.extent (verdict.extent text ++ other) = verdict.extent text := by
  cases h with
  | finish =>
    obtain rfl := hnil (by simpa [Verdict.extent] using htext.symm)
    exact ⟨.finish, rfl⟩
  | @accept lexeme tail kind hlexeme hnext =>
    obtain rfl : tail = rest := List.append_cancel_left htext
    refine ⟨.accept hlexeme ?_, rfl⟩
    intro c hc hclash
    rcases hhead c hc with hblank | hsame
    · rw [hclash.isBlank_eq_false] at hblank
      cases hblank
    · exact hnext c hsame hclash
  | @refuse text refusal hrefused =>
    by_cases hoffending : refusal.offending = none
    · have hall : refusal.extent text = text := hrefused.extent_eq_of_offending_eq_none hoffending
      have hrest : rest = [] := by
        rw [Verdict.extent, hall] at htext
        exact List.self_eq_append_right.mp htext
      rw [hnil hrest, List.append_nil, Verdict.extent, hall]
      exact ⟨.refuse hrefused, hall⟩
    · constructor
      · exact .refuse (hrefused.extent_refused.append_right hoffending other)
      · exact hrefused.extent_eq hoffending _

end Behind

namespace Cursor

/-- The cursor `d` stands in the text with the spaces where the cursor `c` stands in the source. -/
structure Mirrors (chosen : Nat → Bool) (source : String) (front : List Char) (d c : Cursor) :
    Prop where
  behind : c.StandsBehind source front
  rest_eq : d.rest = Text.blank chosen c.offset c.rest
  offset_eq : c.offset = Text.savings chosen 0 front + d.offset
  location_eq : c.location = d.location
  afterReturn_eq : c.afterReturn = d.afterReturn

namespace Mirrors

variable {chosen : Nat → Bool} {source : String} {front text gap tail rest : List Char}
variable {c d : Cursor} {ch : Char} {verdict : Verdict}

theorem advance (h : Mirrors chosen source front d c) (hrest : c.rest = ch :: rest)
    (hbreak : chosen c.offset = true → isLineBreak ch = false) :
    Mirrors chosen source (front ++ [ch]) d.advance c.advance := by
  have hread : c.rest = [ch] ++ rest := hrest
  have hother : d.rest = (if chosen c.offset then ' ' else ch) ::
      Text.blank chosen (c.offset + ch.utf8Size) rest := by
    rw [h.rest_eq, hrest, Text.blank_cons]
  have hsize := Text.savings_singleton_add chosen c.offset ch
  refine ⟨h.behind.after hread, ?_, ?_, ?_, ?_⟩
  · rw [rest_advance_of_cons hother, rest_advance_of_cons hrest, offset_advance hrest]
  · rw [offset_advance hrest, offset_advance hother, Text.savings_append, Nat.zero_add,
      ← h.behind.offset_eq, Nat.add_add_add_comm, hsize, ← h.offset_eq]
  · cases hch : chosen c.offset with
    | false =>
      rw [hch, if_neg Bool.false_ne_true] at hother
      simp only [Cursor.advance, hrest, hother, locationAfter, h.location_eq, h.afterReturn_eq]
    | true =>
      rw [hch, if_pos rfl] at hother
      rw [location_advance_of_plain hrest (hbreak hch),
        location_advance_of_plain hother (by decide), h.location_eq]
  · cases hch : chosen c.offset with
    | false =>
      rw [hch, if_neg Bool.false_ne_true] at hother
      simp only [Cursor.advance, hrest, hother]
    | true =>
      have hreturn : ch ≠ '\r' := (isLineBreak_eq_false_iff.mp (hbreak hch)).2
      rw [hch, if_pos rfl] at hother
      simp [Cursor.advance, hrest, hother, hreturn]

theorem after (h : Mirrors chosen source front d c) (hrest : c.rest = text ++ rest)
    (hspares : Text.Spares chosen c.offset text) :
    Mirrors chosen source (front ++ text) (d.after text) (c.after text) := by
  induction text generalizing c d front with
  | nil => rwa [List.append_nil]
  | cons ch text ih =>
    obtain ⟨hch, hlater⟩ := Text.spares_cons.mp hspares
    rw [← offset_advance hrest] at hlater
    have hnext := h.advance hrest fun hchosen => by
      rw [hch] at hchosen
      cases hchosen
    have hahead := ih hnext (rest_advance_of_cons hrest) hlater
    rwa [List.append_assoc] at hahead

theorem rest_eq_append (h : Mirrors chosen source front d c) (hrest : c.rest = text ++ rest)
    (hspares : Text.Spares chosen c.offset text) :
    d.rest = text ++ Text.blank chosen (c.offset + Text.width text) rest := by
  rw [h.rest_eq, hrest, Text.blank_append, hspares.blank_eq]

theorem savings_eq (h : Mirrors chosen source front d c) :
    Text.savings (fun n => chosen n && decide (n < c.offset)) 0 source.toList =
      Text.savings chosen 0 front := by
  rw [h.behind.source_eq, h.behind.offset_eq, Text.savings_before]

/-- Where nothing is chosen in an item and in front of it, the next items are the same up to their
places, and behind them the cursors are in step again. -/
theorem scan (h : Mirrors chosen source front d c) (hahead : Ahead c.rest gap tail verdict)
    (hspares : Text.Spares chosen c.offset (gap ++ verdict.extent tail)) :
    verdict.item (c.after gap) = d.scan.item.moved
        (Text.savings (fun n => chosen n && decide (n < (c.after gap).offset)) 0 source.toList) id ∧
      Mirrors chosen source (front ++ (gap ++ verdict.extent tail)) d.scan.cursor
        (c.after (gap ++ verdict.extent tail)) := by
  obtain ⟨rest, hextent⟩ := hahead.decides.extent_prefix
  have hsplit : c.rest = gap ++ verdict.extent tail ++ rest := by
    rw [hahead.text_eq, List.append_assoc, hextent]
  have hgap := h.after hahead.text_eq (Text.spares_append.mp hspares).1
  have hother := h.rest_eq_append hsplit hspares
  generalize hbehind : Text.blank chosen _ rest = behind at hother
  have hhead : ∀ ch ∈ behind.head?, isBlank ch = true ∨ ch ∈ rest.head? := by
    intro ch hch
    rw [← hbehind] at hch
    rcases Text.mem_head?_blank hch with rfl | hsame
    · exact .inl (by decide)
    · exact .inr hsame
  have hnil : rest = [] → behind = [] := by
    rintro rfl
    exact hbehind.symm
  obtain ⟨hdecides, hsame⟩ := hahead.decides.stands_behind hextent.symm hhead hnil
  have hmirror : Ahead d.rest gap (verdict.extent tail ++ behind) verdict := by
    refine ⟨?_, hahead.gap.of_rest ?_, hdecides⟩
    · rw [hother, List.append_assoc]
    · intro hempty
      rw [← hextent] at hempty
      obtain ⟨hfirst, hlast⟩ := List.append_eq_nil_iff.mp hempty
      exact List.append_eq_nil_iff.mpr ⟨hfirst, hnil hlast⟩
  obtain ⟨hitem, hcursor⟩ := scan_of_ahead hmirror
  constructor
  · rw [hitem, hgap.savings_eq]
    apply verdict.item_moved hgap.offset_eq hgap.location_eq
    rw [rest_after hahead.text_eq, rest_after hmirror.text_eq, hsame]
  · rw [hcursor, hsame]
    exact h.after hsplit hspares

theorem scan_space (h : Mirrors chosen source front d c) (hrest : c.rest = gap ++ ch :: rest)
    (hgap : Gap (ch :: rest) gap) (hbreak : isLineBreak ch = false)
    (hspares : Text.Spares chosen c.offset gap)
    (hch : chosen (c.after gap).offset = true) :
    ∃ e : Cursor, d.scan.item = e.scan.item ∧ d.scan.cursor = e.scan.cursor ∧
      Mirrors chosen source (front ++ (gap ++ [ch])) e (c.after (gap ++ [ch])) := by
  have hthere := h.after hrest hspares
  have hnext := hthere.advance (rest_after hrest) fun _ => hbreak
  have hother := h.rest_eq_append hrest hspares
  rw [Text.blank_cons, ← offset_after hrest, if_pos hch, ← List.singleton_append,
    ← List.append_assoc] at hother
  obtain ⟨hitem, hcursor⟩ := scan_after hother fun {more tail} hmore => by
    have hlonger : Gap tail (' ' :: more) := hmore.cons_blank (by decide)
    rw [List.append_assoc]
    exact (hgap.of_rest fun hnil => absurd hnil (List.cons_ne_nil _ _)).append hlonger
  refine ⟨d.after (gap ++ [' ']), hitem, hcursor, ?_⟩
  rw [← List.append_assoc, ← advance_after, ← advance_after]
  exact hnext

end Mirrors

end Cursor

section Selects

variable {chosen : Nat → Bool} {items : List Item} {item : Item} {n : Nat}
variable {c d : Cursor} {gap tail : List Char} {verdict : Verdict}

theorem isUnknownAt_eq_false (h : ∀ later ∈ items, n < later.span.start) :
    isUnknownAt items n = false := by
  rw [isUnknownAt, List.any_eq_false]
  intro later hlater
  have hnot : ¬ later.span.start ≤ n := Nat.not_le.mpr (h later hlater)
  simp [hnot]

theorem isUnknownAt_cons : isUnknownAt (item :: items) n =
    ((item.isUnknown && decide (item.span.start ≤ n ∧ n < item.span.stop)) ||
      isUnknownAt items n) :=
  rfl

theorem Decides.of_isUnknown {text : List Char} (h : Decides text verdict)
    (hitem : (verdict.item c).isUnknown = true) :
    ∃ ch rest, text = ch :: rest ∧ verdict = .refuse ⟨.unknownCharacter ch, [], some ch⟩ ∧
      isLineBreak ch = false := by
  cases h with
  | finish => cases hitem
  | accept _ _ => cases hitem
  | refuse hrefused =>
    cases hrefused with
    | @unknownCharacter ch rest hunknown =>
      refine ⟨ch, rest, rfl, rfl, ?_⟩
      by_contra hbreak
      have hblank := isBlank_of_isLineBreak (Bool.of_not_eq_false hbreak)
      rw [hunknown.2.1] at hblank
      cases hblank
    | _ => cases hitem

/-- From the offset on, those offsets are chosen that the errors for unknown characters cover. -/
def Selects (chosen : Nat → Bool) (offset : Nat) (items : List Item) : Prop :=
  ∀ n, offset ≤ n → chosen n = isUnknownAt items n

theorem Selects.next (h : Selects chosen c.offset (verdict.item (c.after gap) :: items))
    (hahead : Ahead c.rest gap tail verdict) :
    Selects chosen (c.after (gap ++ verdict.extent tail)).offset items := by
  obtain ⟨hstart, hstop⟩ := hahead.start_le_stop
  intro n hn
  rw [← hahead.stop_eq] at hn
  have hnot : ¬ n < (verdict.item (c.after gap)).span.stop := Nat.not_lt.mpr hn
  rw [h n (Nat.le_trans hstart (Nat.le_trans hstop hn)), isUnknownAt_cons]
  simp [hnot]

theorem Selects.spares_gap (h : Selects chosen c.offset (verdict.item (c.after gap) :: items))
    (hahead : Ahead c.rest gap tail verdict)
    (horder : ∀ later ∈ items, (verdict.item (c.after gap)).span.stop ≤ later.span.start) :
    Text.Spares chosen c.offset gap := by
  apply Text.spares_of_bounds
  intro n hn hlt
  rw [← Cursor.offset_after hahead.text_eq] at hlt
  rw [h n hn]
  apply isUnknownAt_eq_false
  rw [List.forall_mem_cons, Verdict.span_item]
  refine ⟨hlt, ?_⟩
  intro later hlater
  have hstop := horder later hlater
  rw [Verdict.span_item] at hstop
  exact Nat.lt_of_lt_of_le hlt (Nat.le_trans (Nat.le_add_right _ _) hstop)

theorem Selects.spares (h : Selects chosen c.offset (verdict.item (c.after gap) :: items))
    (hahead : Ahead c.rest gap tail verdict)
    (horder : ∀ later ∈ items, (verdict.item (c.after gap)).span.stop ≤ later.span.start)
    (hitem : (verdict.item (c.after gap)).isUnknown = false) :
    Text.Spares chosen c.offset (gap ++ verdict.extent tail) := by
  obtain ⟨rest, hsplit⟩ := hahead.exists_split
  apply Text.spares_of_bounds
  intro n hn hlt
  rw [← Cursor.offset_after hsplit, ← hahead.stop_eq] at hlt
  rw [h n hn, isUnknownAt_cons, hitem, Bool.false_and, Bool.false_or]
  apply isUnknownAt_eq_false
  intro later hlater
  exact Nat.lt_of_lt_of_le hlt (horder later hlater)

theorem Selects.chosen_start (h : Selects chosen c.offset (verdict.item (c.after gap) :: items))
    (hahead : Ahead c.rest gap tail verdict) (hfinish : verdict ≠ .finish)
    (hitem : (verdict.item (c.after gap)).isUnknown = true) :
    chosen (c.after gap).offset = true := by
  have hlt := hahead.start_lt_stop hfinish
  have hstart := hahead.start_le_stop.1
  have hcovered : isUnknownAt (verdict.item (c.after gap) :: items)
      (verdict.item (c.after gap)).span.start = true := by
    rw [isUnknownAt_cons, hitem, decide_eq_true ⟨Nat.le_refl _, hlt⟩, Bool.and_true, Bool.true_or]
  rw [Verdict.span_item] at hstart hcovered
  rw [h _ hstart, hcovered]

end Selects

section Course

variable {c d : Cursor} {items : List Item} {source : String} {front : List Char}
variable {chosen : Nat → Bool}

/-- When the chosen characters are those under the errors for unknown characters, the other cursor
finds all items but these errors. -/
theorem Course.forall₂_mirrored (h : Course c items)
    (hmirrors : Cursor.Mirrors chosen source front d c) (hselects : Selects chosen c.offset items) :
    List.Forall₂ (fun item new => item = new.moved
        (Text.savings (fun n => chosen n && decide (n < item.span.start)) 0 source.toList) id)
      (items.filter (!·.isUnknown)) (d.scans.map (·.item)) := by
  induction h generalizing d front with
  | @finish c gap hahead =>
    have hspares := hselects.spares hahead (fun _ hlater => absurd hlater List.not_mem_nil) rfl
    obtain ⟨hitem, _⟩ := hmirrors.scan hahead hspares
    have hend : d.scan.item.isEnd = true :=
      (Item.isEnd_moved _ id _).symm.trans (congrArg Item.isEnd hitem.symm)
    rw [Cursor.scans_of_isEnd hend, List.map_singleton]
    exact .cons hitem .nil
  | @cons c gap tail verdict items hahead hfinish hcourse ih =>
    obtain ⟨hstop, longer, hlonger⟩ := hahead.next hmirrors.behind
    have horder := hcourse.offset_le_start hlonger
    rw [← hstop] at horder
    have hlater := hselects.next hahead
    cases hunknown : (verdict.item (c.after gap)).isUnknown with
    | false =>
      obtain ⟨hitem, hnext⟩ := hmirrors.scan hahead (hselects.spares hahead horder hunknown)
      have hend : d.scan.item.isEnd = false := by
        rw [← Item.isEnd_moved _ id, ← hitem]
        exact hahead.decides.isEnd_item_eq_false hfinish _
      rw [List.filter_cons, hunknown, Bool.not_false, if_pos rfl, Cursor.scans_of_not_isEnd hend,
        List.map_cons]
      refine .cons ?_ (ih hnext hlater)
      rw [Verdict.span_item]
      exact hitem
    | true =>
      -- The other cursor has a space where the error is, and its scan goes on behind it.
      have hspares := hselects.spares_gap hahead horder
      have hchosen := hselects.chosen_start hahead hfinish hunknown
      obtain ⟨ch, rest, rfl, rfl, hbreak⟩ := hahead.decides.of_isUnknown hunknown
      obtain ⟨e, hitem, hcursor, hnext⟩ :=
        hmirrors.scan_space hahead.text_eq hahead.gap hbreak hspares hchosen
      rw [List.filter_cons, hunknown, Bool.not_true, if_neg Bool.false_ne_true,
        Cursor.map_item_scans_congr hitem hcursor]
      exact ih hnext hlater

end Course

private theorem forall₂_items_blanked (source : String) :
    List.Forall₂ (fun item new => item = new.moved (savedBefore source item.span.start) id)
      ((items source).filter (!·.isUnknown)) (items (blanked source)) := by
  have hmirrors : Cursor.Mirrors (isUnknownAt (items source)) source []
      (Cursor.ofString (blanked source)) (Cursor.ofString source) :=
    ⟨.ofString, String.toList_ofList, rfl, rfl, rfl⟩
  exact (course_items source).forall₂_mirrored hmirrors fun _ _ => rfl

/-- Errors for unknown characters are isolated. With a space in place of each character that such an
error covers, a source has all its other items, each at its location and as many bytes further to
the front as are saved before it; and it is then accepted if and only if there were no errors but
for unknown characters. -/
theorem items_blanked (source : String) :
    List.Forall₂ (fun item new => item = new.moved (savedBefore source item.span.start) id)
      ((items source).filter (!·.isUnknown)) (items (blanked source)) ∧
    ((lex (blanked source)).isOk = true ↔
      ∀ errors, lex source = .error errors →
        ∀ e ∈ errors, e.fault.category = .unknownCharacter) := by
  have hitems := forall₂_items_blanked source
  have herrors : (items (blanked source)).map Item.isError =
      ((items source).filter (!·.isUnknown)).map Item.isError := by
    rw [eq_comm, ← List.forall₂_eq_eq_eq, List.forall₂_map_left_iff, List.forall₂_map_right_iff]
    refine hitems.imp ?_
    rintro item new heq
    rw [heq, Item.isError_moved]
  have hkept : (∀ item ∈ items (blanked source), item.isError = false) ↔
      ∀ item ∈ items source, (!item.isUnknown) = true → item.isError = false := by
    rw [← List.forall_mem_map (P := (· = false)), herrors, List.forall_mem_map,
      List.forall_mem_filter]
  refine ⟨hitems, ?_⟩
  rw [isOk_lex_iff, forall_mem_errors_iff, hkept]
  constructor
  · intro h e he
    by_contra hknown
    have herror := h _ he (by simpa [Item.isUnknown, Item.error?] using hknown)
    cases herror
  · intro h item hitem hknown
    cases item with
    | ok token => rfl
    | error e =>
      have hunknown := h e hitem
      simp [Item.isUnknown, Item.error?, hunknown] at hknown

-- The sign behind the bar and the one in the string are no errors of their own.
example : (items "§x |§ \"§\"").map Item.isError = [true, false, true, false, false] := by
  decide +kernel

end Lexis
