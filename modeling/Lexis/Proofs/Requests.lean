import Lexis.Proofs.Progress

/-!
A stream can be asked for items in two ways, and in any order. Whatever the order, the items that it
gives are its first ones, each of them once (`Stream.Serves.given`); only the request that stops can
go without an answer, and the answers so far tell whether it does.
-/

set_option autoImplicit false
set_option relaxedAutoImplicit false

namespace Lexis

inductive Request where
  /-- For the next item in any case. -/
  | pull
  /-- For the next item unless the stream is finished. -/
  | next
  deriving DecidableEq, Repr

structure Reply where
  request : Request
  item? : Option Item

/-- Behind the reply the stream is finished: the reply is the end of the source, or an error that
was asked for in the way that stops. -/
def Reply.Closes (reply : Reply) : Prop :=
  ∃ item, reply.item? = some item ∧
    (item.isEnd = true ∨ (reply.request = .next ∧ item.isError = true))

theorem Cursor.item_scan_of_isEnd {c : Cursor} (h : c.scan.item.isEnd = true) :
    c.scan.cursor.scan.item = c.scan.item := by
  obtain ⟨gap, hahead, hitem, hcursor⟩ := exists_ahead_of_isEnd h
  have hagain : Ahead c.scan.cursor.rest [] [] .finish := by
    refine ⟨?_, .nil, .finish⟩
    rw [hcursor, rest_after hahead.text_eq]
    rfl
  rw [(scan_of_ahead hagain).1, hitem, hcursor]
  rfl

theorem Stream.pulls_of_isEnd {s : Stream} (h : s.cursor.scan.item.isEnd = true) (n : Nat) :
    s.pulls n = List.replicate n s.cursor.scan.item := by
  induction n generalizing s with
  | zero => rfl
  | succ n ih =>
    have hagain : s.pull.2.cursor.scan.item = s.cursor.scan.item := Cursor.item_scan_of_isEnd h
    rw [pulls, ih (hagain ▸ h), hagain]
    rfl

theorem Stream.Reachable.span_of_isEnd {s : Stream} {source : String} (h : s.Reachable source)
    (hend : s.cursor.scan.item.isEnd = true) : s.cursor.scan.item.span =
      { start := Text.width source.toList, stop := Text.width source.toList } := by
  obtain ⟨front, hc⟩ := h.standsBehind
  obtain ⟨gap, hahead, hitem, _⟩ := Cursor.exists_ahead_of_isEnd hend
  rw [hitem, Verdict.span_item, hahead.offset_of_finish hc]
  rfl

namespace Stream

def answer (s : Stream) : Request → Option Item × Stream
  | .pull => (some s.pull.1.item, s.pull.2)
  | .next =>
    match s.next? with
    | none => (none, s)
    | some (scan, later) => (some scan.item, later)

def replies (s : Stream) : List Request → List Reply
  | [] => []
  | r :: requests => { request := r, item? := (s.answer r).1 } :: (s.answer r).2.replies requests

def behind (s : Stream) : List Request → Stream
  | [] => s
  | r :: requests => (s.answer r).2.behind requests

section Concat

variable {s : Stream} {requests : List Request}

theorem replies_concat (r : Request) : s.replies (requests ++ [r]) =
    s.replies requests ++ [{ request := r, item? := ((s.behind requests).answer r).1 }] := by
  induction requests generalizing s with
  | nil => rfl
  | cons first requests ih => exact congrArg _ ih

theorem behind_concat (r : Request) :
    s.behind (requests ++ [r]) = ((s.behind requests).answer r).2 := by
  induction requests generalizing s with
  | nil => rfl
  | cons first requests ih => exact ih

end Concat

section Answer

variable {s : Stream} {r : Request} {item : Item} {source : String}

theorem next?_eq_none_iff : s.next? = none ↔ s.finished = true := by
  rw [next?]
  split <;> simp_all

theorem exists_next (h : s.finished = false) : ∃ t, s.next? = some (s.cursor.scan, t) ∧
    t.cursor = s.cursor.scan.cursor ∧
    t.finished = (s.cursor.scan.item.isEnd || s.cursor.scan.item.isError) := by
  rw [next?, h]
  exact ⟨_, rfl, rfl, by simp [h]⟩

theorem answer_next_eq_none_iff : (s.answer .next).1 = none ↔ s.finished = true := by
  rw [← next?_eq_none_iff, answer]
  split <;> simp_all

theorem answer_of_none (h : (s.answer r).1 = none) : (s.answer r).2 = s := by
  cases r with
  | pull => cases h
  | next => rw [answer, next?_eq_none_iff.mpr (answer_next_eq_none_iff.mp h)]

theorem answer_of_some (h : (s.answer r).1 = some item) :
    item = s.cursor.scan.item ∧ (s.answer r).2.cursor = s.cursor.scan.cursor ∧
      ((s.answer r).2.finished = true ↔
        s.finished = true ∨ item.isEnd = true ∨ (r = .next ∧ item.isError = true)) := by
  cases r with
  | pull =>
    obtain rfl := Option.some.inj h
    refine ⟨rfl, rfl, ?_⟩
    simp [answer, pull]
  | next =>
    have hopen : s.finished = false := by
      rw [Bool.eq_false_iff, ne_eq, ← answer_next_eq_none_iff, h]
      exact Option.some_ne_none item
    obtain ⟨t, hnext, hcursor, hfinished⟩ := exists_next hopen
    simp only [answer, hnext] at h ⊢
    obtain rfl := Option.some.inj h
    refine ⟨rfl, hcursor, ?_⟩
    simp [hfinished, hopen]

theorem Reachable.answer (h : s.Reachable source) (r : Request) :
    (s.answer r).2.Reachable source := by
  cases r with
  | pull => exact h.pull
  | next =>
    rw [Stream.answer]
    split
    · exact h
    · next hnext => exact h.next hnext

end Answer

section Run

variable {s : Stream} {past : List Reply} {source : String}

structure HasGiven (s : Stream) (source : String) (past : List Reply) : Prop where
  reachable : s.Reachable source
  given : ∃ n, past.filterMap Reply.item? = (ofString source).pulls n ∧
    s.cursor = ((ofString source).later n).cursor
  finished_iff : s.finished = true ↔ ∃ reply ∈ past, reply.Closes
  /-- If it has given the end of the source, it stands in front of this end. -/
  ended : ∀ reply ∈ past, ∀ item, reply.item? = some item → item.isEnd = true →
    s.cursor.scan.item = item

theorem hasGiven_ofString (source : String) : (ofString source).HasGiven source [] where
  reachable := .start
  given := ⟨0, rfl, rfl⟩
  finished_iff := by simp [ofString]
  ended := by simp

theorem HasGiven.answer (h : s.HasGiven source past) (r : Request) :
    (s.answer r).2.HasGiven source (past ++ [{ request := r, item? := (s.answer r).1 }]) := by
  cases hanswer : (s.answer r).1 with
  | none =>
    rw [answer_of_none hanswer]
    refine ⟨h.reachable, ?_, ?_, ?_⟩
    · obtain ⟨n, hitems, hcursor⟩ := h.given
      exact ⟨n, by simp [hitems], hcursor⟩
    · rw [h.finished_iff]
      simp [or_and_right, exists_or, Reply.Closes]
    · intro reply hreply item hitem hend
      rcases List.mem_append.mp hreply with hpast | hlast
      · exact h.ended reply hpast item hitem hend
      · obtain rfl := List.mem_singleton.mp hlast
        cases hitem
  | some item =>
    obtain ⟨hitem, hcursor, hfinished⟩ := answer_of_some hanswer
    refine ⟨h.reachable.answer r, ?_, ?_, ?_⟩
    · obtain ⟨n, hitems, hthere⟩ := h.given
      refine ⟨n + 1, ?_, ?_⟩
      · rw [List.filterMap_append, hitems, pulls_add, hitem, hthere]
        rfl
      · rw [later_succ, hcursor, hthere]
        rfl
    · rw [hfinished, h.finished_iff]
      simp [or_and_right, exists_or, Reply.Closes]
    · intro reply hreply other hother hend
      rw [hcursor]
      rcases List.mem_append.mp hreply with hpast | hlast
      · have hhere := h.ended reply hpast other hother hend
        rw [Cursor.item_scan_of_isEnd (hhere ▸ hend), hhere]
      · obtain rfl := List.mem_singleton.mp hlast
        obtain rfl := Option.some.inj hother
        rw [hitem] at hend ⊢
        exact Cursor.item_scan_of_isEnd hend

theorem hasGiven_replies (source : String) (requests : List Request) :
    ((ofString source).behind requests).HasGiven source ((ofString source).replies requests) := by
  induction requests using List.reverseRecOn with
  | nil => exact hasGiven_ofString source
  | append_singleton requests r ih =>
    rw [behind_concat, replies_concat]
    exact ih.answer r

/-- What the replies to requests amount to, and what the stream owes to the next request. -/
structure Serves (source : String) (past : List Reply) (s : Stream) : Prop where
  /-- The items given are the first of those that are there to be pulled, and a pull would go on
  with the next one. -/
  given : ∃ n, past.filterMap Reply.item? = (ofString source).pulls n ∧
    (s.answer .pull).1 = some ((ofString source).later n).pull.1.item
  unanswered_iff : (s.answer .next).1 = none ↔ ∃ reply ∈ past, reply.Closes
  unchanged : ∀ r, (s.answer r).1 = none → (s.answer r).2 = s
  ended : ∀ reply ∈ past, ∀ item, reply.item? = some item → item.isEnd = true →
    item.span = { start := Text.width source.toList, stop := Text.width source.toList } ∧
      (s.answer .pull).1 = some item

/-- In whatever order items are asked for in the two ways, the stream serves them. -/
theorem requests_are_served (source : String) (requests : List Request) :
    Serves source ((ofString source).replies requests) ((ofString source).behind requests) := by
  have h := hasGiven_replies source requests
  refine ⟨?_, ?_, fun r => answer_of_none, ?_⟩
  · obtain ⟨n, hitems, hcursor⟩ := h.given
    refine ⟨n, hitems, ?_⟩
    change some (Cursor.scan _).item = some (Cursor.scan _).item
    rw [hcursor]
  · rw [answer_next_eq_none_iff, h.finished_iff]
  · intro reply hreply item hitem hend
    have hhere := h.ended reply hreply item hitem hend
    subst hhere
    exact ⟨h.reachable.span_of_isEnd hend, rfl⟩

-- An error stops one way of asking and not the other; the end stops the first one for good.
example : ((ofString "@ x").replies [.next, .next, .pull, .next, .pull]).map
    (·.item?.map Item.isEnd) = [some false, none, some false, none, some true] := by
  decide +kernel

end Run

end Stream

end Lexis
