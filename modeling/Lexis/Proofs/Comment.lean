import Lexis.Proofs.Course

/-!
Block comments are a search for the first star in front of a slash. A stream in front of a comment
goes on behind the first end that the text has, whatever stands before it, and where there is no end
it gives the error for an open comment (`Stream.Reachable.pull_block_comment`).
-/

set_option autoImplicit false
set_option relaxedAutoImplicit false

namespace Lexis

/-- The text is cut around its first end of a block comment: no other end begins further to the
left. -/
structure ClosesFirst (text body rest : List Char) : Prop where
  text_eq : text = body ++ '*' :: '/' :: rest
  first : ∀ other tail, text = other ++ '*' :: '/' :: tail → body.length ≤ other.length

section ClosesFirst

variable {text body rest : List Char}

theorem ClosesFirst.not_infix (h : ClosesFirst text body rest) : ¬ ['*', '/'] <:+: body := by
  rintro ⟨front, back, rfl⟩
  have hle : (front ++ ['*', '/'] ++ back).length ≤ front.length := by
    apply h.first front (back ++ '*' :: '/' :: rest)
    rw [h.text_eq]
    simp
  simp only [List.length_append, List.length_cons, List.length_nil] at hle
  omega

theorem ClosesFirst.unique {other tail : List Char} (h : ClosesFirst text body rest)
    (hother : ClosesFirst text other tail) : body = other ∧ rest = tail :=
  Text.append_inj_of_first_close (h.text_eq.symm.trans hother.text_eq) h.not_infix hother.not_infix

theorem exists_closesFirst (h : ['*', '/'] <:+: text) :
    ∃ body rest, ClosesFirst text body rest := by
  induction text with
  | nil => simp at h
  | cons c cs ih =>
    by_cases hclose : ['*', '/'] <+: c :: cs
    · obtain ⟨rest, hrest⟩ := hclose
      exact ⟨[], rest, hrest.symm, fun _ _ _ => Nat.zero_le _⟩
    · have hlater : ['*', '/'] <:+: cs := (List.infix_cons_iff.mp h).resolve_left hclose
      obtain ⟨body, rest, hbody⟩ := ih hlater
      refine ⟨c :: body, rest, by rw [hbody.text_eq]; rfl, ?_⟩
      intro other tail htext
      cases other with
      | nil => exact absurd ⟨tail, htext.symm⟩ hclose
      | cons d other =>
        obtain ⟨rfl, hcs⟩ := List.cons.inj htext
        have hle := hbody.first other tail hcs
        rw [List.length_cons, List.length_cons]
        omega

theorem closesFirst_of_not_infix (htext : text = body ++ '*' :: '/' :: rest)
    (hbody : ¬ ['*', '/'] <:+: body) : ClosesFirst text body rest := by
  have hclosed : ['*', '/'] <:+: text := ⟨body, rest, by rw [htext]; simp⟩
  obtain ⟨first, tail, hfirst⟩ := exists_closesFirst hclosed
  obtain ⟨rfl, rfl⟩ := Text.append_inj_of_first_close (hfirst.text_eq.symm.trans htext)
    hfirst.not_infix hbody
  exact hfirst

end ClosesFirst

def commentText (body : List Char) : List Char := '/' :: '*' :: (body ++ ['*', '/'])

section Cursor

variable {c : Cursor} {source : String} {front text body rest : List Char}

theorem Cursor.scan_of_comment (h : c.rest = commentText body ++ rest)
    (hbody : ¬ ['*', '/'] <:+: body) :
    c.scan.item = (c.after (commentText body)).scan.item ∧
      c.scan.cursor = (c.after (commentText body)).scan.cursor := by
  apply Cursor.scan_after h
  intro gap tail hgap
  exact .cons (.block hbody) hgap

theorem Cursor.scan_of_open_comment (hc : c.StandsBehind source front)
    (h : c.rest = '/' :: '*' :: text) (hopen : ¬ ['*', '/'] <:+: text) :
    c.scan.item = .error
        { span := { start := c.offset, stop := Text.width source.toList }
          location := c.location
          lexeme := "/"
          offending := none
          fault := .unterminatedComment } ∧
      c.scan.cursor.rest = [] := by
  have hahead : Ahead c.rest [] c.rest (.refuse ⟨.unterminatedComment, ['/'], none⟩) := by
    refine ⟨rfl, .nil, .refuse ?_⟩
    rw [h]
    exact .unterminatedComment hopen
  obtain ⟨hitem, hcursor⟩ := Cursor.scan_of_ahead hahead
  constructor
  · rw [hitem, hc.width_eq]
    rfl
  · rw [hcursor]
    exact Cursor.rest_after (List.append_nil c.rest).symm

end Cursor

namespace Stream.Reachable

variable {source : String} {s : Stream} {text : List Char}

/-- A stream in front of a block comment goes on behind the first end of the comment, as if it had
been there before; if the comment has no end, the stream refuses all that is left. -/
theorem pull_block_comment (h : s.Reachable source) (hrest : s.cursor.rest = '/' :: '*' :: text) :
    (['*', '/'] <:+: text → ∃ body rest, ClosesFirst text body rest ∧
      let t : Stream := { s with cursor := s.cursor.after (commentText body) }
      t.cursor.rest = rest ∧ s.pull.1.item = t.pull.1.item ∧ s.pull.2 = t.pull.2) ∧
    (¬ ['*', '/'] <:+: text →
      s.pull.1.item = .error
          { span := { start := s.cursor.offset, stop := Text.width source.toList }
            location := s.cursor.location
            lexeme := "/"
            offending := none
            fault := .unterminatedComment } ∧
        s.pull.2.cursor.rest = []) := by
  constructor
  · intro hclosed
    obtain ⟨body, rest, hfirst⟩ := exists_closesFirst hclosed
    have hsplit : s.cursor.rest = commentText body ++ rest := by
      rw [hrest, hfirst.text_eq, commentText]
      simp
    obtain ⟨hitem, hcursor⟩ := Cursor.scan_of_comment hsplit hfirst.not_infix
    refine ⟨body, rest, hfirst, Cursor.rest_after hsplit, hitem, ?_⟩
    simp only [Stream.pull, hitem, hcursor]
  · intro hopen
    obtain ⟨front, hc⟩ := h.standsBehind
    exact Cursor.scan_of_open_comment hc hrest hopen

/-- The star that opens a comment does not close it, a comment in a comment is none, and of several
stars the last one counts. -/
theorem pull_block_comment_stars :
    (ofString "x/*/'/***/y").pull.2.Reachable "x/*/'/***/y" ∧
      (ofString "x/*/'/***/y").pull.2.pull.1.item = .ok
        { kind := .identifier
          text := "y"
          span := { start := 10, stop := 11 }
          location := { line := 1, column := 11 } } := by
  have h : (ofString "x/*/'/***/y").pull.2.Reachable "x/*/'/***/y" := .pull .start
  have hrest : (ofString "x/*/'/***/y").pull.2.cursor.rest =
      '/' :: '*' :: ['/', '\'', '/', '*', '*', '*', '/', 'y'] := by decide +kernel
  obtain ⟨body, rest, hfirst, hbehind, hitem, _⟩ := (pull_block_comment h hrest).1
    ⟨['/', '\'', '/', '*', '*'], ['y'], rfl⟩
  have hknown : ClosesFirst ['/', '\'', '/', '*', '*', '*', '/', 'y']
      ['/', '\'', '/', '*', '*'] ['y'] := closesFirst_of_not_infix rfl (by decide)
  obtain ⟨rfl, rfl⟩ := hfirst.unique hknown
  refine ⟨h, ?_⟩
  rw [hitem]
  decide +kernel

end Stream.Reachable

end Lexis
