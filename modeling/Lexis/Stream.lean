import Lexis.Scan

/-!
Taking the items of a source one at a time. `Stream.pull` always answers, with the end of the
source again and again once it is reached. `Stream.next?` goes on only until the end or an error
has been seen.
-/

set_option autoImplicit false
set_option relaxedAutoImplicit false

namespace Lexis

/-- A place in a source, and whether reading on is over. -/
structure Stream where
  cursor : Cursor
  finished : Bool := false
  deriving DecidableEq, Repr

namespace Stream

def ofString (source : String) : Stream := { cursor := Cursor.ofString source }

/-- The next item, whether reading on is over or not. The end of the source finishes the stream,
an error does not. -/
def pull (s : Stream) : Scan × Stream :=
  let scan := s.cursor.scan
  (scan, { cursor := scan.cursor, finished := s.finished || scan.item.isEnd })

/-- The next item unless the stream is finished. The end of the source and errors finish it. -/
def next? (s : Stream) : Option (Scan × Stream) :=
  if s.finished then none
  else
    let (scan, later) := s.pull
    some (scan, { later with finished := later.finished || scan.item.isError })

def size (s : Stream) : Nat := if s.finished then 0 else s.cursor.remaining + 1

theorem size_lt_of_next? {s t : Stream} {scan : Scan} (h : s.next? = some (scan, t)) :
    t.size < s.size := by
  unfold next? at h
  split at h
  · simp at h
  · next hs =>
    simp only [pull, Option.some.injEq, Prod.mk.injEq] at h
    obtain ⟨rfl, rfl⟩ := h
    cases hend : s.cursor.scan.item.isEnd with
    | true => simp [size, hs]
    | false =>
      have hlt := Cursor.remaining_scan_lt hend
      simp only [size, hs]
      split
      · simp
      · simpa using hlt

/-- All further items until the stream is finished, and what is left of it then. -/
def drain (s : Stream) : List Scan × Stream :=
  match _h : s.next? with
  | none => ([], s)
  | some (scan, t) =>
    let (scans, last) := t.drain
    (scan :: scans, last)
termination_by s.size
decreasing_by exact size_lt_of_next? _h

theorem drain_of_none {s : Stream} (h : s.next? = none) : s.drain = ([], s) := by
  rw [drain]
  split
  · rfl
  · next hu => cases h.symm.trans hu

theorem drain_of_some {s t : Stream} {scan : Scan} (h : s.next? = some (scan, t)) :
    s.drain = (scan :: t.drain.1, t.drain.2) := by
  rw [drain]
  split
  · next hu => cases h.symm.trans hu
  · next hu => cases h.symm.trans hu; rfl

end Stream

end Lexis
