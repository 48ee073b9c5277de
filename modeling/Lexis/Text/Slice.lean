/-!
Byte offsets into a text. A text is measured in bytes of UTF-8, and an offset inside a character
marks no place in the text: cutting there fails.
-/

set_option autoImplicit false
set_option relaxedAutoImplicit false

namespace Lexis.Text

def width : List Char → Nat
  | [] => 0
  | c :: cs => c.utf8Size + width cs

@[simp] theorem width_nil : width [] = 0 := rfl

@[simp] theorem width_cons (c : Char) (cs : List Char) :
    width (c :: cs) = c.utf8Size + width cs := rfl

@[simp] theorem width_append (xs ys : List Char) : width (xs ++ ys) = width xs + width ys := by
  induction xs with
  | nil => simp
  | cons c cs ih => simp [ih, Nat.add_assoc]

theorem length_le_width (cs : List Char) : cs.length ≤ width cs := by
  induction cs with
  | nil => simp
  | cons c cs ih =>
    have := c.utf8Size_pos
    simp only [List.length_cons, width_cons]
    omega

/-- Cuts the text at a byte offset, which must be at a character's edge and not past the end. -/
def cut? : List Char → Nat → Option (List Char × List Char)
  | cs, 0 => some ([], cs)
  | [], _ + 1 => none
  | c :: cs, n + 1 =>
    if c.utf8Size ≤ n + 1 then
      (cut? cs (n + 1 - c.utf8Size)).map fun (front, back) => (c :: front, back)
    else none

/-- The text between two byte offsets, both at a character's edge and in order. -/
def slice? (cs : List Char) (start stop : Nat) : Option (List Char) :=
  if start ≤ stop then
    (cut? cs start).bind fun (_, back) => (cut? back (stop - start)).map (·.1)
  else none

@[simp] theorem cut?_zero (cs : List Char) : cut? cs 0 = some ([], cs) := by
  cases cs <;> rfl

@[simp] theorem cut?_width_append (front back : List Char) :
    cut? (front ++ back) (width front) = some (front, back) := by
  induction front with
  | nil => simp
  | cons c cs ih =>
    obtain ⟨k, hk⟩ : ∃ k, width (c :: cs) = k + 1 :=
      ⟨width (c :: cs) - 1, by have := c.utf8Size_pos; simp only [width_cons]; omega⟩
    have hrest : k + 1 - c.utf8Size = width cs := by
      rw [← hk, width_cons]
      omega
    have hle : c.utf8Size ≤ k + 1 := by
      rw [← hk, width_cons]
      omega
    rw [hk, List.cons_append, cut?, if_pos hle, hrest, ih]
    rfl

theorem eq_append_of_cut? {cs front back : List Char} {n : Nat}
    (h : cut? cs n = some (front, back)) : cs = front ++ back ∧ n = width front := by
  induction cs generalizing n front with
  | nil =>
    cases n with
    | zero => simp_all
    | succ n => simp [cut?] at h
  | cons c cs ih =>
    cases n with
    | zero => simp_all
    | succ n =>
      rw [cut?] at h
      split at h
      · next hle =>
        obtain ⟨⟨f, b⟩, hf, heq⟩ := Option.map_eq_some_iff.mp h
        obtain ⟨rfl, rfl⟩ := Prod.mk.inj heq
        obtain ⟨rfl, hw⟩ := ih hf
        exact ⟨rfl, by rw [width_cons, ← hw]; omega⟩
      · simp at h

theorem cut?_eq_some_iff {cs front back : List Char} {n : Nat} :
    cut? cs n = some (front, back) ↔ cs = front ++ back ∧ n = width front :=
  ⟨eq_append_of_cut?, fun ⟨hcs, hn⟩ => by rw [hcs, hn, cut?_width_append]⟩

theorem slice?_eq_some_iff {cs piece : List Char} {start stop : Nat} :
    slice? cs start stop = some piece ↔
      ∃ front back, cs = front ++ piece ++ back ∧ start = width front ∧
        stop = width front + width piece := by
  constructor
  · intro h
    rw [slice?] at h
    split at h
    · next hle =>
      obtain ⟨⟨front, rest⟩, hfront, h⟩ := Option.bind_eq_some_iff.mp h
      obtain ⟨⟨mid, back⟩, hmid, rfl⟩ := Option.map_eq_some_iff.mp h
      obtain ⟨rfl, rfl⟩ := eq_append_of_cut? hfront
      obtain ⟨rfl, hw⟩ := eq_append_of_cut? hmid
      exact ⟨front, back, by simp, rfl, by simp only; omega⟩
    · simp at h
  · rintro ⟨front, back, rfl, rfl, rfl⟩
    simp [slice?, List.append_assoc]

end Lexis.Text
