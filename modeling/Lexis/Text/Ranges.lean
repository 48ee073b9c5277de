/-!
Sets of code points given by closed intervals in ascending order. Membership walks the intervals and
stops at the first one that begins above the point asked for.
-/

set_option autoImplicit false
set_option relaxedAutoImplicit false

namespace Lexis.Text

/-- Closed intervals of code points, each given by its first and its last point. -/
abbrev Ranges := List (Nat × Nat)

namespace Ranges

def covers : Ranges → Nat → Bool
  | [], _ => false
  | (first, last) :: more, n => first ≤ n && (n ≤ last || covers more n)

theorem covers_cons (first last : Nat) (more : Ranges) (n : Nat) :
    covers ((first, last) :: more) n = (first ≤ n && (n ≤ last || covers more n)) := rfl

theorem exists_of_covers {ranges : Ranges} {n : Nat} (h : covers ranges n = true) :
    ∃ r ∈ ranges, r.1 ≤ n ∧ n ≤ r.2 := by
  induction ranges with
  | nil => simp [covers] at h
  | cons r more ih =>
    obtain ⟨first, last⟩ := r
    simp only [covers_cons, Bool.and_eq_true, Bool.or_eq_true, decide_eq_true_eq] at h
    rcases h.2 with hlast | hmore
    · exact ⟨(first, last), by simp, h.1, hlast⟩
    · obtain ⟨r, hr, hn⟩ := ih hmore
      exact ⟨r, by simp [hr], hn⟩

end Ranges

end Lexis.Text
