import Lexis.Cursor
import Lexis.Text.Slice

/-!
Reading a text with the cursor. Where a cursor stands in a source, its offset and its location are
all determined by the text that it has left behind.
-/

set_option autoImplicit false
set_option relaxedAutoImplicit false

namespace Lexis

namespace Cursor

def after (c : Cursor) : List Char → Cursor
  | [] => c
  | _ :: text => c.advance.after text

section After

variable {c : Cursor} {text rest : List Char}

@[simp] theorem after_nil : c.after [] = c := rfl

@[simp] theorem after_cons (ch : Char) : c.after (ch :: text) = c.advance.after text := rfl

theorem after_append (other : List Char) :
    c.after (text ++ other) = (c.after text).after other := by
  induction text generalizing c with
  | nil => rfl
  | cons ch text ih => exact ih

theorem advance_after (ch : Char) : (c.after text).advance = c.after (text ++ [ch]) := by
  rw [after_append]
  rfl

theorem rest_advance_of_cons {ch : Char} (h : c.rest = ch :: rest) : c.advance.rest = rest := by
  rw [rest_advance, h, List.tail_cons]

theorem rest_after (h : c.rest = text ++ rest) : (c.after text).rest = rest := by
  induction text generalizing c with
  | nil => exact h
  | cons ch text ih =>
    exact ih (rest_advance_of_cons h)

theorem offset_advance {ch : Char} (h : c.rest = ch :: rest) :
    c.advance.offset = c.offset + ch.utf8Size := by
  simp [advance, h]

theorem offset_after (h : c.rest = text ++ rest) :
    (c.after text).offset = c.offset + Text.width text := by
  induction text generalizing c with
  | nil => rfl
  | cons ch text ih =>
    have hadvance := offset_advance h
    rw [after_cons, ih (rest_advance_of_cons h), hadvance, Text.width_cons, Nat.add_assoc]

end After

/-- The cursor has read the front of the source and nothing else. -/
structure StandsBehind (c : Cursor) (source : String) (front : List Char) : Prop where
  source_eq : source.toList = front ++ c.rest
  cursor_eq : c = (ofString source).after front

namespace StandsBehind

variable {c : Cursor} {source : String} {front text rest : List Char}

theorem ofString : (ofString source).StandsBehind source [] := ⟨rfl, rfl⟩

theorem offset_eq (h : c.StandsBehind source front) : c.offset = Text.width front := by
  have hoffset := offset_after (c := Cursor.ofString source) h.source_eq
  rw [← h.cursor_eq] at hoffset
  exact hoffset.trans (Nat.zero_add _)

theorem width_eq (h : c.StandsBehind source front) :
    Text.width source.toList = c.offset + Text.width c.rest := by
  rw [h.source_eq, Text.width_append, h.offset_eq]

theorem front_eq {other : List Char} (h : c.StandsBehind source front)
    (hother : c.StandsBehind source other) : front = other :=
  List.append_cancel_right (h.source_eq.symm.trans hother.source_eq)

theorem after (h : c.StandsBehind source front) (hrest : c.rest = text ++ rest) :
    (c.after text).StandsBehind source (front ++ text) where
  source_eq := by rw [rest_after hrest, List.append_assoc, ← hrest, h.source_eq]
  cursor_eq := by rw [after_append, ← h.cursor_eq]

end StandsBehind

end Cursor

end Lexis
