import Lexis.Text.Slice
import Mathlib.Data.List.Infix

/-!
Places where a text can be cut in one way only: behind the characters of a class, behind a given
number of bytes, and in front of the first end of a block comment.
-/

set_option autoImplicit false
set_option relaxedAutoImplicit false

namespace Lexis.Text

section Append

variable {p : Char → Prop} {xs ys zs ws : List Char}

/-- Two cuts of a text agree when each of them is at the first character outside of the class. -/
theorem append_inj_of_boundary (h : xs ++ ys = zs ++ ws) (hxs : ∀ c ∈ xs, p c)
    (hzs : ∀ c ∈ zs, p c) (hys : ∀ c ∈ ys.head?, ¬ p c) (hws : ∀ c ∈ ws.head?, ¬ p c) :
    xs = zs ∧ ys = ws := by
  induction xs generalizing zs with
  | nil =>
    cases zs with
    | nil => exact ⟨rfl, h⟩
    | cons z zs =>
      have hhead : z ∈ ys.head? := by
        rw [List.nil_append] at h
        rw [h]
        rfl
      exact absurd (hzs z List.mem_cons_self) (hys z hhead)
  | cons x xs ih =>
    cases zs with
    | nil =>
      have hhead : x ∈ ws.head? := by
        rw [List.nil_append] at h
        rw [← h]
        rfl
      exact absurd (hxs x List.mem_cons_self) (hws x hhead)
    | cons z zs =>
      obtain ⟨rfl, htail⟩ := List.cons.inj h
      obtain ⟨rfl, rfl⟩ := ih htail (fun c hc => hxs c (List.mem_cons_of_mem x hc))
        (fun c hc => hzs c (List.mem_cons_of_mem x hc))
      exact ⟨rfl, rfl⟩

theorem append_inj_of_width (h : xs ++ ys = zs ++ ws) (hwidth : width xs = width zs) :
    xs = zs ∧ ys = ws := by
  have hcut : cut? (xs ++ ys) (width xs) = some (zs, ws) := by
    rw [h, hwidth, cut?_width_append]
  rw [cut?_width_append] at hcut
  exact Prod.mk.inj (Option.some.inj hcut)

theorem exists_append_of_width_le (h : xs ++ ys = zs ++ ws) (hle : width xs ≤ width zs) :
    ∃ more, zs = xs ++ more ∧ ys = more ++ ws := by
  rcases List.append_eq_append_iff.mp h with hmore | ⟨more, rfl, rfl⟩
  · exact hmore
  · rw [width_append] at hle
    have hlength := length_le_width more
    obtain rfl : more = [] := List.length_eq_zero_iff.mp (by omega)
    exact ⟨[], by simp, rfl⟩

theorem exists_append_of_prefix {text : List Char} (hxs : xs <+: text) (hys : ys <+: text) :
    ∃ common more, ys = common ++ more ∧ common <+: xs ∧ (more = [] ∨ common = xs) ∧
      width common = min (width xs) (width ys) := by
  rcases List.prefix_or_prefix_of_prefix hxs hys with ⟨more, rfl⟩ | hle
  · refine ⟨xs, more, rfl, List.prefix_rfl, .inr rfl, ?_⟩
    rw [width_append, Nat.min_eq_left (Nat.le_add_right _ _)]
  · refine ⟨ys, [], by rw [List.append_nil], hle, .inl rfl, ?_⟩
    obtain ⟨more, rfl⟩ := hle
    rw [width_append, Nat.min_eq_right (Nat.le_add_right _ _)]

theorem width_le_of_prefix (h : xs <+: ys) : width xs ≤ width ys := by
  obtain ⟨more, rfl⟩ := h
  rw [width_append]
  exact Nat.le_add_right _ _

theorem width_pos_of_ne_nil (h : xs ≠ []) : 0 < width xs :=
  Nat.lt_of_lt_of_le (List.length_pos_of_ne_nil h) (length_le_width xs)

end Append

theorem infix_concat_iff_close {text : List Char} {c : Char} :
    ['*', '/'] <:+: text ++ [c] ↔
      ['*', '/'] <:+: text ∨ (text.getLast? = some '*' ∧ c = '/') := by
  rw [List.infix_concat_iff, or_comm]
  refine or_congr_right ?_
  constructor
  · rintro ⟨front, hfront⟩
    obtain ⟨hstar, hslash⟩ := List.append_inj'
      (show front ++ ['*'] ++ ['/'] = text ++ [c] by simpa using hfront) rfl
    exact ⟨by simp [← hstar], (List.cons.inj hslash).1.symm⟩
  · rintro ⟨hlast, rfl⟩
    obtain ⟨front, rfl⟩ := List.getLast?_eq_some_iff.mp hlast
    exact ⟨front, by simp⟩

theorem not_infix_of_append {text tail : List Char}
    (h : ¬ ['*', '/'] <:+: text ++ tail) : ¬ ['*', '/'] <:+: text :=
  fun hclose => h (hclose.trans (List.prefix_append text tail).isInfix)

private theorem false_of_close_append {text middle tail rest : List Char} {c : Char}
    (hfree : ¬ ['*', '/'] <:+: text ++ c :: middle)
    (h : '*' :: '/' :: tail = c :: (middle ++ '*' :: '/' :: rest)) : False := by
  obtain ⟨rfl, hrest⟩ := List.cons.inj h
  cases middle with
  | nil => simp at hrest
  | cons d middle =>
    obtain ⟨rfl, _⟩ := List.cons.inj hrest
    exact hfree ⟨text, middle, by simp⟩

theorem append_inj_of_first_close {body other tail rest : List Char}
    (h : body ++ '*' :: '/' :: tail = other ++ '*' :: '/' :: rest)
    (hbody : ¬ ['*', '/'] <:+: body) (hother : ¬ ['*', '/'] <:+: other) :
    body = other ∧ tail = rest := by
  rcases List.append_eq_append_iff.mp h with ⟨more, hmore, htail⟩ | ⟨more, hmore, htail⟩
  · cases more with
    | nil =>
      rw [List.append_nil] at hmore
      simp only [List.nil_append, List.cons.injEq, true_and] at htail
      exact ⟨hmore.symm, htail⟩
    | cons c more =>
      rw [hmore] at hother
      exact (false_of_close_append hother htail).elim
  · cases more with
    | nil =>
      rw [List.append_nil] at hmore
      simp only [List.nil_append, List.cons.injEq, true_and] at htail
      exact ⟨hmore, htail.symm⟩
    | cons c more =>
      rw [hmore] at hbody
      exact (false_of_close_append hbody htail).elim

end Lexis.Text
