import Lexis.Proofs.Tiling

/-!
One character behind an item settles it (`Item.isSettled`). A source that goes on yields all items
again that end in front of its old end, and all errors that name the character they stumbled over.
An item that is not settled reaches to the end of the source, and behind it there is nothing but
this end.
-/

set_option autoImplicit false
set_option relaxedAutoImplicit false

namespace Lexis

/-- The item ends in front of the end of the source, or it is an error for a character that is
there. -/
def Item.isSettled (source : String) (item : Item) : Bool :=
  decide (item.span.stop < Text.width source.toList) || item.error?.any (·.offending.isSome)

/-- The verdict is due to a character of the text, not to its end. -/
def Verdict.IsSettled (text : List Char) : Verdict → Prop
  | .finish => False
  | .accept lexeme _ => lexeme ≠ text
  | .refuse refusal => refusal.offending ≠ none

/-- There is a text, and when it goes on the verdict on it remains and is about the same characters
as before. -/
structure Verdict.Stands (text more : List Char) (verdict : Verdict) : Prop where
  ne_nil : text ≠ []
  decides : Decides (text ++ more) verdict
  extent_eq : verdict.extent (text ++ more) = verdict.extent text

section Append

variable {text rest gap piece tail more : List Char} {refusal : Refusal} {verdict : Verdict}

theorem Refused.append_right (h : Refused text refusal) (hoffending : refusal.offending ≠ none)
    (more : List Char) : Refused (text ++ more) refusal := by
  cases h with
  | malformedInteger hnumber hc =>
    rw [List.append_assoc]
    exact .malformedInteger hnumber hc
  | malformedAssignment hc => exact .malformedAssignment hc
  | newlineInString hbody hc =>
    rw [List.cons_append, List.append_assoc]
    exact .newlineInString hbody hc
  | unterminatedString _ => exact absurd rfl hoffending
  | unterminatedComment _ => exact absurd rfl hoffending
  | @incompleteOperator first second rest hpair hnext =>
    obtain ⟨c, hc⟩ := Option.ne_none_iff_exists'.mp hoffending
    obtain ⟨tail, rfl⟩ := List.head?_eq_some_iff.mp hc
    exact .incompleteOperator hpair hnext
  | unknownCharacter hc => exact .unknownCharacter hc

theorem Refused.extent_eq_of_offending_eq_none (h : Refused text refusal)
    (hoffending : refusal.offending = none) : refusal.extent text = text := by
  cases h with
  | unterminatedString _ => simp [Refusal.extent]
  | unterminatedComment _ => rfl
  | incompleteOperator _ _ =>
    obtain rfl := List.head?_eq_none_iff.mp hoffending
    rfl
  | _ => cases hoffending

theorem Refused.extent_eq (h : Refused text refusal) (hoffending : refusal.offending ≠ none)
    (other : List Char) : refusal.extent other = refusal.extent text := by
  have hfault : refusal.fault ≠ .unterminatedComment := by
    intro hfault
    exact hoffending (h.of_unterminatedComment hfault).2.1
  rw [Refusal.extent, Refusal.extent, if_neg hfault, if_neg hfault]

/-- A verdict that is due to a character of the text stands whatever follows. -/
theorem Decides.stands (h : Decides text verdict) (hsettled : verdict.IsSettled text)
    (more : List Char) : verdict.Stands text more := by
  cases h with
  | finish => exact hsettled.elim
  | @accept lexeme rest kind hlexeme hnext =>
    cases rest with
    | nil => exact absurd (List.append_nil lexeme).symm hsettled
    | cons c rest =>
      refine ⟨List.append_ne_nil_of_left_ne_nil hlexeme.ne_nil _, ?_, rfl⟩
      rw [List.append_assoc]
      exact .accept hlexeme hnext
  | refuse hrefused =>
    exact ⟨hrefused.ne_nil, .refuse (hrefused.append_right hsettled more),
      hrefused.extent_eq hsettled _⟩

theorem Decides.extent_eq_of_not_isSettled (h : Decides text verdict)
    (hsettled : ¬ verdict.IsSettled text) : verdict.extent text = text := by
  cases h with
  | finish => rfl
  | accept _ _ => exact not_not.mp hsettled
  | refuse hrefused => exact hrefused.extent_eq_of_offending_eq_none (not_not.mp hsettled)

theorem Ahead.append_right (h : Ahead text gap tail verdict) (hstands : verdict.Stands tail more) :
    Ahead (text ++ more) gap (tail ++ more) verdict := by
  refine ⟨?_, h.gap.of_rest ?_, hstands.decides⟩
  · rw [h.text_eq, List.append_assoc]
  · intro hnil
    exact absurd hnil hstands.ne_nil

end Append

namespace Cursor

def extend (c : Cursor) (more : List Char) : Cursor := { c with rest := c.rest ++ more }

section Extend

variable {c : Cursor} {text rest gap tail more : List Char} {verdict : Verdict}

theorem extend_ofString (a b : String) : (ofString a).extend b.toList = ofString (a ++ b) := by
  rw [ofString, ofString, String.toList_append]
  rfl

theorem advance_extend {ch : Char} (h : c.rest = ch :: rest) :
    (c.extend more).advance = c.advance.extend more := by
  simp only [advance, extend, h, List.cons_append]
  rfl

theorem after_extend (h : c.rest = text ++ rest) :
    (c.extend more).after text = (c.after text).extend more := by
  induction text generalizing c with
  | nil => rfl
  | cons ch text ih =>
    rw [after_cons, after_cons, advance_extend h]
    exact ih (rest_advance_of_cons h)

theorem item_extend (h : verdict.Stands c.rest more) :
    verdict.item (c.extend more) = verdict.item c := by
  cases verdict with
  | finish => rfl
  | accept lexeme kind => rfl
  | refuse refusal =>
    have hextent : refusal.extent (c.extend more).rest = refusal.extent c.rest := h.extent_eq
    rw [Verdict.item, hextent]
    rfl

theorem scan_extend (h : Ahead c.rest gap tail verdict) (hstands : verdict.Stands tail more) :
    (c.extend more).scan.item = verdict.item (c.after gap) ∧
      (c.extend more).scan.cursor = (c.after (gap ++ verdict.extent tail)).extend more := by
  have hahead : Ahead (c.extend more).rest gap (tail ++ more) verdict := h.append_right hstands
  obtain ⟨hitem, hcursor⟩ := scan_of_ahead hahead
  obtain ⟨rest, hsplit⟩ := h.exists_split
  refine ⟨?_, ?_⟩
  · rw [hitem, after_extend h.text_eq]
    refine item_extend ?_
    rwa [rest_after h.text_eq]
  · rw [hcursor, hstands.extent_eq, after_extend hsplit]

end Extend

end Cursor

section Settled

variable {c : Cursor} {source : String} {front : List Char} {verdict : Verdict} {items : List Item}

theorem Decides.isSettled_of_item (h : Decides c.rest verdict) (hc : c.StandsBehind source front)
    (hitem : (verdict.item c).isSettled source = true) : verdict.IsSettled c.rest := by
  rw [Item.isSettled, Bool.or_eq_true, decide_eq_true_iff, Verdict.span_item, hc.width_eq] at hitem
  rcases hitem with hstop | hoffending
  · by_contra hnot
    rw [h.extent_eq_of_not_isSettled hnot] at hstop
    exact Nat.lt_irrefl _ hstop
  · cases verdict with
    | finish => cases hoffending
    | accept lexeme kind => cases hoffending
    | refuse refusal => exact Option.isSome_iff_ne_none.mp hoffending

theorem Decides.extent_eq_of_item (h : Decides c.rest verdict) (hc : c.StandsBehind source front)
    (hitem : (verdict.item c).isSettled source = false) : verdict.extent c.rest = c.rest := by
  rw [Item.isSettled, Bool.or_eq_false_iff, decide_eq_false_iff_not, Verdict.span_item,
    hc.width_eq] at hitem
  have hwidth : Text.width c.rest ≤ Text.width (verdict.extent c.rest) :=
    Nat.le_of_add_le_add_left (Nat.not_lt.mp hitem.1)
  obtain ⟨rest, hrest⟩ := h.extent_prefix
  have hsum := congrArg Text.width hrest
  rw [Text.width_append] at hsum
  obtain rfl : rest = [] := by
    by_contra hne
    have hpos := Text.width_pos_of_ne_nil hne
    omega
  rwa [List.append_nil] at hrest

theorem Ahead.filter_finish {gap : List Char} (h : Ahead c.rest gap [] .finish)
    (hc : c.StandsBehind source front) :
    [Verdict.finish.item (c.after gap)].filter (Item.isSettled source) = [] := by
  have hend : (Verdict.finish.item (c.after gap)).isSettled source = false := by
    rw [Bool.eq_false_iff]
    exact h.decides_after.isSettled_of_item (hc.after h.text_eq)
  rw [List.filter_singleton, hend, cond_false]

theorem Course.filter_of_rest_eq_nil (h : Course c items) (hc : c.StandsBehind source front)
    (hrest : c.rest = []) : items.filter (Item.isSettled source) = [] := by
  cases h with
  | finish hahead => exact hahead.filter_finish hc
  | cons hahead hfinish _ =>
    have hnil := hahead.text_eq.symm.trans hrest
    obtain rfl := (List.append_eq_nil_iff.mp hnil).2
    exact absurd (hahead.decides.unique .finish rfl) hfinish

theorem Course.filter_isPrefix (h : Course c items) (hc : c.StandsBehind source front)
    (more : List Char) :
    items.filter (Item.isSettled source) <+: (c.extend more).scans.map (·.item) := by
  induction h generalizing front with
  | finish hahead =>
    rw [hahead.filter_finish hc]
    exact List.nil_prefix
  | @cons c gap tail verdict items hahead hfinish hitems ih =>
    have hthere := hc.after hahead.text_eq
    have htail : (c.after gap).rest = tail := Cursor.rest_after hahead.text_eq
    obtain ⟨_, longer, hlonger⟩ := hahead.next hc
    cases hitem : (verdict.item (c.after gap)).isSettled source with
    | true =>
      have hsettled := hahead.decides_after.isSettled_of_item hthere hitem
      rw [htail] at hsettled
      obtain ⟨hsame, hcursor⟩ := Cursor.scan_extend hahead (hahead.decides.stands hsettled more)
      have hend : (c.extend more).scan.item.isEnd = false := by
        rw [hsame]
        exact hahead.decides.isEnd_item_eq_false hfinish _
      rw [List.filter_cons_of_pos hitem, Cursor.scans_of_not_isEnd hend, List.map_cons, hsame,
        hcursor, List.prefix_cons_inj]
      exact ih hlonger
    | false =>
      have hextent := hahead.decides_after.extent_eq_of_item hthere hitem
      have hrest : (c.after (gap ++ verdict.extent tail)).rest = [] := by
        rw [← htail, hextent, htail]
        exact Cursor.rest_after (by rw [List.append_nil, hahead.text_eq])
      rw [List.filter_cons_of_neg (by rw [hitem]; exact Bool.false_ne_true),
        hitems.filter_of_rest_eq_nil hlonger hrest]
      exact List.nil_prefix

end Settled

/-- Whatever follows a source, its settled items are the first items of the whole. -/
theorem settled_items_prefix (a b : String) :
    (items a).filter (Item.isSettled a) <+: items (a ++ b) := by
  have hprefix := (course_items a).filter_isPrefix .ofString b.toList
  rwa [Cursor.extend_ofString] at hprefix

end Lexis
