import Lexis.Proofs.Rendering
import Lexis.Proofs.Whereabouts

/-!
Errors that a source gives rise to can be shown under the line where they begin. The picture has two
lines, and the carets in the lower one stand under those characters of the upper one that the error
is about, of which there is at least one (`LexError.HasPicture`).
-/

set_option autoImplicit false
set_option relaxedAutoImplicit false

namespace Lexis

theorem forall_mem_toDigits {base : Nat} (hbase : 1 < base) {p : Char → Prop}
    (hdigit : ∀ k, p (Nat.digitChar k)) (n : Nat) : ∀ c ∈ Nat.toDigits base n, p c := by
  induction n using Nat.strongRecOn with
  | ind n ih =>
    rw [Nat.toDigits_eq_if hbase]
    split
    · exact List.forall_mem_singleton.mpr (hdigit n)
    · next hle =>
      have hlt : n / base < n := Nat.div_lt_self (by omega) hbase
      exact List.forall_mem_append.mpr
        ⟨ih (n / base) hlt, List.forall_mem_singleton.mpr (hdigit _)⟩

theorem isUnbroken_toDigits {base : Nat} (hbase : 1 < base) (n : Nat) :
    IsUnbroken (Nat.toDigits base n) := by
  have hdigit : ∀ k, isLineBreak (Nat.digitChar k) = false := by
    intro k
    have hfeed := @Nat.digitChar_ne k '\n'
    have hreturn := @Nat.digitChar_ne k '\r'
    simp_all [isLineBreak]
  exact forall_mem_toDigits hbase hdigit n

theorem isUnbroken_repr (n : Nat) : IsUnbroken n.repr.toList := by
  rw [Nat.repr_eq_ofList_toDigits, String.toList_ofList]
  exact isUnbroken_toDigits (by decide) n

theorem isUnbroken_escape (mark c : Char) : IsUnbroken (Text.escape mark c) := by
  have hplain : c ≠ '\n' → c ≠ '\r' → isLineBreak c = false :=
    fun hfeed hreturn => isLineBreak_eq_false_iff.mpr ⟨hfeed, hreturn⟩
  rw [Text.escape]
  split_ifs with _ _ hfeed hreturn _ _
  · decide
  · decide
  · decide
  · decide
  · exact isUnbroken_cons.mpr ⟨by decide, isUnbroken_singleton.mpr (hplain hfeed hreturn)⟩
  · exact isUnbroken_append.mpr
      ⟨isUnbroken_append.mpr ⟨by decide, isUnbroken_toDigits (by decide) _⟩, by decide⟩
  · exact isUnbroken_singleton.mpr (hplain hfeed hreturn)

theorem isUnbroken_enclose {mark : Char} (h : isLineBreak mark = false) (cs : List Char) :
    IsUnbroken (Text.enclose mark cs) := by
  rw [Text.enclose, isUnbroken_append, isUnbroken_cons]
  refine ⟨⟨h, ?_⟩, isUnbroken_singleton.mpr h⟩
  intro d hd
  obtain ⟨c, _, hd⟩ := List.mem_flatMap.mp hd
  exact isUnbroken_escape mark c d hd

theorem isUnbroken_quote (text : String) : IsUnbroken (Text.quote text).toList := by
  rw [Text.quote, String.toList_ofList]
  exact isUnbroken_enclose (by decide) _

theorem isUnbroken_quoteChar (c : Char) : IsUnbroken (Text.quoteChar c).toList := by
  rw [Text.quoteChar, String.toList_ofList]
  exact isUnbroken_enclose (by decide) _

theorem Refused.isUnbroken_message {text : List Char} {refusal : Refusal}
    (h : Refused text refusal) : IsUnbroken refusal.fault.message.toList := by
  have constant : ∀ fault ∈ [Fault.malformedInteger, .malformedAssignment, .newlineInString,
      .unterminatedString, .unterminatedComment], IsUnbroken fault.message.toList := by decide
  cases h with
  | @incompleteOperator first second _ hpair _ =>
    have table : ∀ p ∈ pairs, isLineBreak p.2 = false := by decide
    have hmessage : (Fault.incompleteOperator second).message =
        "Incomplete operator, expected '" ++ String.singleton second ++ "'" := rfl
    rw [hmessage, String.toList_append, String.toList_append, String.toList_singleton,
      isUnbroken_append, isUnbroken_append, isUnbroken_singleton]
    exact ⟨⟨by decide, table (first, second) hpair⟩, by decide⟩
  | @unknownCharacter c _ _ =>
    have hmessage : (Fault.unknownCharacter c).message =
        "Unknown character " ++ Text.quoteChar c := rfl
    rw [hmessage, String.toList_append, isUnbroken_append]
    exact ⟨by decide, isUnbroken_quoteChar c⟩
  | _ => exact constant _ (by simp)

def Span.countInside (s : Span) : Offset → List Char → Nat
  | _, [] => 0
  | offset, c :: cs =>
    (if s.start ≤ offset ∧ offset + c.utf8Size ≤ s.stop then 1 else 0) +
      countInside s (offset + c.utf8Size) cs

section CountInside

variable {s : Span} {offset : Offset} {xs ys : List Char}

theorem Span.countInside_append :
    s.countInside offset (xs ++ ys) =
      s.countInside offset xs + s.countInside (offset + Text.width xs) ys := by
  induction xs generalizing offset with
  | nil => rw [List.nil_append, countInside, Text.width_nil, Nat.zero_add, Nat.add_zero]
  | cons c cs ih =>
    rw [List.cons_append, countInside, countInside, ih, Text.width_cons, Nat.add_assoc,
      Nat.add_assoc]

theorem Span.countInside_of_le_start (h : offset + Text.width xs ≤ s.start) :
    s.countInside offset xs = 0 := by
  induction xs generalizing offset with
  | nil => rfl
  | cons c cs ih =>
    rw [Text.width_cons, ← Nat.add_assoc] at h
    have hlt : offset < s.start :=
      Nat.lt_of_lt_of_le (Nat.lt_add_of_pos_right c.utf8Size_pos) (Nat.le_of_add_right_le h)
    rw [countInside, if_neg fun hin => Nat.not_le_of_lt hlt hin.1, ih h]

theorem Span.countInside_of_stop_le (h : s.stop ≤ offset) : s.countInside offset xs = 0 := by
  induction xs generalizing offset with
  | nil => rfl
  | cons c cs ih =>
    have hlt : s.stop < offset + c.utf8Size :=
      Nat.lt_of_le_of_lt h (Nat.lt_add_of_pos_right c.utf8Size_pos)
    rw [countInside, if_neg fun hin => Nat.not_le_of_lt hlt hin.2, ih (Nat.le_of_lt hlt)]

theorem Span.countInside_of_inside (hstart : s.start ≤ offset)
    (hstop : offset + Text.width xs ≤ s.stop) : s.countInside offset xs = xs.length := by
  induction xs generalizing offset with
  | nil => rfl
  | cons c cs ih =>
    rw [Text.width_cons, ← Nat.add_assoc] at hstop
    have hlater : s.start ≤ offset + c.utf8Size := Nat.le_add_right_of_le hstart
    rw [countInside, if_pos ⟨hstart, Nat.le_of_add_right_le hstop⟩, ih hlater hstop,
      List.length_cons, Nat.add_comm]

end CountInside

/-- The text is what is seen of that line of the source that holds the byte at the offset; the line
begins at `start`. -/
def IsSeenAt (source : String) (offset start : Offset) (shown : List Char) : Prop :=
  ∃ before ending after, Lines source.toList (before ++ (shown ++ ending) :: after) ∧
    IsUnbroken shown ∧ (∀ c ∈ ending, isLineBreak c = true) ∧
    start = Text.width before.flatten ∧
    start ≤ offset ∧ offset < start + Text.width (shown ++ ending)

namespace LexError

def upper (e : LexError) (shown : List Char) : String :=
  e.location.line.repr ++ "| " ++ String.ofList shown

/-- The lower line of a picture: under each character in front of the error a blank, or a tab under
a tab, then the carets and what is wrong. -/
def lower (e : LexError) (shown : List Char) (carets : Nat) : String :=
  String.ofList (List.replicate e.location.line.repr.length ' ') ++ "| " ++
    String.ofList
      ((shown.take (e.location.column - 1)).map fun c => if c = '\t' then '\t' else ' ') ++
    String.ofList (List.replicate carets '^') ++ "--- " ++ e.fault.message

/-- The error is shown with its line and with a caret for each character that it is about. -/
structure HasPicture (e : LexError) (source : String) (start : Offset) (shown : List Char)
    (carets : Nat) : Prop where
  line : IsSeenAt source e.span.start start shown
  carets_eq : carets = e.span.countInside start shown
  carets_pos : 1 ≤ carets
  carets_le : e.location.column - 1 + carets ≤ shown.length
  render : e.diagnostic.render? source =
    some (e.upper shown ++ "\n" ++ e.lower shown carets)
  upper_unbroken : IsUnbroken (e.upper shown).toList
  lower_unbroken : IsUnbroken (e.lower shown carets).toList
  /-- None of the sums that are formed while the line is looked up is too big for a word. -/
  positions : ∀ n, Text.width ((Line.split source.toList).take n).flatten < Offset.limit

theorem isUnbroken_upper {shown : List Char} (h : IsUnbroken shown) (e : LexError) :
    IsUnbroken (e.upper shown).toList := by
  simp only [upper, String.toList_append, String.toList_ofList, isUnbroken_append]
  exact ⟨⟨isUnbroken_repr _, by decide⟩, h⟩

theorem isUnbroken_lower {e : LexError} (h : IsUnbroken e.fault.message.toList)
    (shown : List Char) (carets : Nat) : IsUnbroken (e.lower shown carets).toList := by
  have hpadding : IsUnbroken ((shown.take (e.location.column - 1)).map
      fun c => if c = '\t' then '\t' else ' ') := by
    intro d hd
    obtain ⟨c, _, rfl⟩ := List.mem_map.mp hd
    split <;> decide
  simp only [lower, String.toList_append, String.toList_ofList, isUnbroken_append]
  exact ⟨⟨⟨⟨⟨isUnbroken_replicate (by decide) _, by decide⟩, hpadding⟩,
    isUnbroken_replicate (by decide) _⟩, by decide⟩, h⟩

theorem picture_diagnostic {e : LexError} {front seen marked : List Char}
    (hcolumn : e.location.column = front.length + 1) (hpos : 1 ≤ marked.length) :
    e.diagnostic.picture (front ++ seen) front marked =
      e.upper (front ++ seen) ++ "\n" ++ e.lower (front ++ seen) marked.length := by
  have htake : (front ++ seen).take (e.location.column - 1) = front := by
    rw [hcolumn]
    exact List.take_left
  rw [Diagnostic.picture, Nat.max_eq_right hpos, upper, lower, htake]
  simp only [String.append_assoc]
  rfl

end LexError

theorem Verdict.item_eq_error {c : Cursor} {verdict : Verdict} {e : LexError}
    (h : verdict.item c = .error e) :
    ∃ refusal, verdict = .refuse refusal ∧ e.location = c.location ∧ e.fault = refusal.fault ∧
      e.span = { start := c.offset, stop := c.offset + Text.width (refusal.extent c.rest) } := by
  cases verdict with
  | refuse refusal =>
    obtain rfl := Except.error.inj h
    exact ⟨refusal, rfl, rfl, rfl, rfl⟩
  | finish => cases h
  | accept lexeme kind => cases h

theorem Refused.exists_head {text : List Char} {refusal : Refusal} (h : Refused text refusal) :
    ∃ c cs, text = c :: cs ∧ isLineBreak c = false := by
  obtain ⟨rest, hrest⟩ := h.extent_prefix
  obtain ⟨c, cs, hextent⟩ := List.exists_cons_of_ne_nil h.extent_ne_nil
  rw [hextent, List.cons_append] at hrest
  refine ⟨c, cs ++ rest, hrest.symm, ?_⟩
  by_contra hbreak
  have hblank := isBlank_of_isLineBreak (Bool.of_not_eq_false hbreak)
  have hbare := (Decides.refuse h).isBare.head_not_isBlank c (by rw [← hrest]; rfl)
  rw [hblank] at hbare
  cases hbare

section Marks

variable {c : Cursor} {source : String} {before after : List (List Char)}
variable {front back : List Char} {refusal : Refusal}

/-- Of the text that a refusal covers something can be seen: all of it, or the rest of the line. -/
theorem Cursor.OnLine.exists_marked (h : c.OnLine source before front back after)
    (hfront : IsUnbroken front) (hrefused : Refused c.rest refusal) :
    ∃ marked more ending, back = marked ++ more ++ ending ∧
      IsUnbroken (front ++ (marked ++ more)) ∧ (∀ c ∈ ending, isLineBreak c = true) ∧
      (Line.find source c.offset).visible = front ++ (marked ++ more) ∧
      marked ≠ [] ∧ marked <+: refusal.extent c.rest ∧
      (more = [] ∨ marked = refusal.extent c.rest) ∧
      Text.width marked = min (Text.width (refusal.extent c.rest))
        (Text.width (marked ++ more)) := by
  obtain ⟨seen, ending, rfl, hbody, hending, htail, hvisible⟩ := h.exists_seen hfront
  have hrest : c.rest = seen ++ (ending ++ after.flatten) := by
    rw [h.rest_eq, List.append_assoc]
  obtain ⟨ch, cs, hhead, hch⟩ := hrefused.exists_head
  have hseen : [ch] <+: seen :=
    (isUnbroken_singleton.mpr hch).prefix_of_append (hhead.symm.trans hrest) htail
  obtain ⟨marked, more, rfl, hextent, hmore, hwidth⟩ :=
    Text.exists_append_of_prefix hrefused.extent_prefix ⟨_, hrest.symm⟩
  refine ⟨marked, more, ending, rfl, hbody, hending, hvisible, ?_, hextent, hmore, hwidth⟩
  rintro rfl
  have hpos := Text.width_pos_of_ne_nil hrefused.extent_ne_nil
  have hlong := Text.width_pos_of_ne_nil (hseen.ne_nil (List.cons_ne_nil ch []))
  rw [Text.width_nil] at hwidth
  omega

theorem Cursor.OnLine.countInside_eq (h : c.OnLine source before front back after) {width : Nat}
    {marked more : List Char} (hmarked : Text.width marked ≤ width)
    (hmore : more = [] ∨ Text.width marked = width) :
    Span.countInside { start := c.offset, stop := c.offset + width } (Text.width before.flatten)
      (front ++ (marked ++ more)) = marked.length := by
  have hoffset := h.offset_eq
  have hfront : Span.countInside { start := c.offset, stop := c.offset + width }
      (Text.width before.flatten) front = 0 :=
    Span.countInside_of_le_start (Nat.le_of_eq hoffset.symm)
  have hinside : Span.countInside { start := c.offset, stop := c.offset + width } c.offset marked =
      marked.length :=
    Span.countInside_of_inside (Nat.le_refl c.offset) (Nat.add_le_add_left hmarked c.offset)
  have hbehind : Span.countInside { start := c.offset, stop := c.offset + width }
      (c.offset + Text.width marked) more = 0 := by
    rcases hmore with rfl | rfl
    · rfl
    · exact Span.countInside_of_stop_le (Nat.le_refl _)
  rw [Span.countInside_append, hfront, ← hoffset, Span.countInside_append, hinside, hbehind,
    Nat.zero_add, Nat.add_zero]

theorem Cursor.OnLine.render (h : c.OnLine source before front back after)
    (hsize : Text.width source.toList + 1 < Offset.limit) {d : Diagnostic} {width : Nat}
    {marked more : List Char}
    (hspan : d.span = { start := c.offset, stop := c.offset + width })
    (hwidth : width ≤ Text.width c.rest)
    (hshown : (Line.find source c.offset).visible = front ++ (marked ++ more))
    (hrest : marked ++ more <+: c.rest)
    (hmarked : Text.width marked = min width (Text.width (marked ++ more))) :
    d.render? source = some (d.picture (front ++ (marked ++ more)) front marked) := by
  have hfits : ∀ n ≤ Text.width c.rest, c.offset + n < Offset.limit := by
    intro n hn
    rw [h.behind.width_eq] at hsize
    exact Nat.lt_of_le_of_lt (Nat.add_le_add_left hn _) (Nat.lt_of_succ_lt hsize)
  have hstart : d.span.start = c.offset := by rw [hspan]
  have hfirst : (d.lineIn source).start = Text.width before.flatten := by
    rw [Diagnostic.lineIn, hstart, h.find_eq]
  have hseen : (d.lineIn source).visible = front ++ (marked ++ more) := by
    rw [Diagnostic.lineIn, hstart, hshown]
  have hend : d.visibleEnd source = c.offset + Text.width (marked ++ more) := by
    rw [Diagnostic.visibleEnd, hseen, hfirst, hstart, Text.width_append, ← Nat.add_assoc,
      ← h.offset_eq, Nat.max_eq_right (Nat.le_add_right _ _)]
  have hslice : Text.slice? source.toList c.offset
      (min (c.offset + width) (c.offset + Text.width (marked ++ more))) = some marked := by
    rw [Nat.add_min_add_left, ← hmarked, Text.slice?_eq_some_iff]
    obtain ⟨rest, hrest⟩ := hrest
    refine ⟨before.flatten ++ front, more ++ rest, ?_, h.behind.offset_eq, ?_⟩
    · rw [h.behind.source_eq, ← hrest]
      simp only [List.append_assoc]
    · rw [h.behind.offset_eq]
  have horder : d.span.start ≤ d.span.stop := by
    rw [hspan]
    exact Nat.le_add_right _ _
  have hstop : d.span.stop < Offset.limit := by
    rw [hspan]
    exact hfits width hwidth
  rw [Diagnostic.render?_of_le hsize horder hstop, hseen, hend, hfirst, hspan, h.slice_front,
    hslice]
  rfl

theorem Cursor.OnLine.isSeenAt (h : c.OnLine source before front back after)
    {seen ending : List Char} (hback : back = seen ++ ending) (hbody : IsUnbroken (front ++ seen))
    (hending : ∀ c ∈ ending, isLineBreak c = true) (hne : seen ≠ []) :
    IsSeenAt source c.offset (Text.width before.flatten) (front ++ seen) := by
  have hline : front ++ back = front ++ seen ++ ending := by rw [hback, List.append_assoc]
  refine ⟨before, ending, after, hline ▸ h.lines, hbody, hending, rfl, ?_, ?_⟩
  · rw [h.offset_eq]
    exact Nat.le_add_right _ _
  · have hpos := Text.width_pos_of_ne_nil hne
    have hwide : Text.width front < Text.width (front ++ seen ++ ending) := by
      rw [Text.width_append, Text.width_append]
      omega
    rw [h.offset_eq]
    exact Nat.add_lt_add_left hwide _

end Marks

theorem Line.width_take_split_le (text : List Char) (n : Nat) :
    Text.width ((split text).take n).flatten ≤ Text.width text := by
  refine Text.width_le_of_prefix ⟨((split text).drop n).flatten, ?_⟩
  rw [← List.flatten_append, List.take_append_drop, flatten_split]

theorem Cursor.StandsBehind.exists_hasPicture {c : Cursor} {source : String} {text : List Char}
    {verdict : Verdict} {e : LexError} (hc : c.StandsBehind source text) (hclear : ¬ c.AmidBreak)
    (hdecides : Decides c.rest verdict) (hsize : Text.width source.toList < Offset.limit / 2)
    (he : verdict.item c = .error e) :
    ∃ start shown carets, e.HasPicture source start shown carets := by
  obtain ⟨refusal, rfl, hlocation, hfault, hspan⟩ := Verdict.item_eq_error he
  have hrefused := hdecides.refused
  obtain ⟨before, front, back, after, hline⟩ := hc.exists_onLine
  obtain ⟨_, hfront, hcursor⟩ := hline.location.resolve_right fun hamid => hclear hamid.1
  obtain ⟨marked, more, ending, rfl, hbody, hending, hvisible, hne, hextent, hmore, hwidth⟩ :=
    hline.exists_marked hfront hrefused
  have hcolumn : e.location.column = front.length + 1 := by rw [hlocation, hcursor]
  have hlimit : Text.width source.toList + 1 < Offset.limit := by
    have hhalf : Offset.limit / 2 + 1 < Offset.limit := by decide
    omega
  have hcount : e.span.countInside (Text.width before.flatten) (front ++ (marked ++ more)) =
      marked.length := by
    rw [hspan]
    exact hline.countInside_eq (Text.width_le_of_prefix hextent)
      (hmore.imp_right fun hall => by rw [hall])
  have hpos : 1 ≤ marked.length := List.length_pos_of_ne_nil hne
  have hmessage : IsUnbroken e.fault.message.toList := by
    rw [hfault]
    exact hrefused.isUnbroken_message
  have hrest : marked ++ more <+: c.rest :=
    ⟨ending ++ after.flatten, by rw [hline.rest_eq]; simp only [List.append_assoc]⟩
  have hrender := hline.render hlimit (d := e.diagnostic) hspan
    (Text.width_le_of_prefix hrefused.extent_prefix) hvisible hrest hwidth
  refine ⟨Text.width before.flatten, front ++ (marked ++ more), marked.length,
    { line := ?_
      carets_eq := hcount.symm
      carets_pos := hpos
      carets_le := ?_
      render := hrender.trans (congrArg some (LexError.picture_diagnostic hcolumn hpos))
      upper_unbroken := LexError.isUnbroken_upper hbody e
      lower_unbroken := LexError.isUnbroken_lower hmessage _ _
      positions := fun n =>
        Nat.lt_of_le_of_lt (Line.width_take_split_le _ n) (Nat.lt_of_succ_lt hlimit) }⟩
  · rw [hspan]
    exact hline.isSeenAt rfl hbody hending (List.append_ne_nil_of_left_ne_nil hne more)
  · rw [hcolumn]
    simp only [Nat.add_sub_cancel, List.length_append]
    omega

theorem exists_hasPicture_of_mem_items {source : String} {e : LexError}
    (hsize : Text.width source.toList < Offset.limit / 2) (he : .error e ∈ items source) :
    ∃ start shown carets, e.HasPicture source start shown carets := by
  obtain ⟨d, text, verdict, hd, hclear, hdecides, hitem⟩ :=
    (course_items source).exists_verdict_of_mem .ofString he
  exact hd.exists_hasPicture hclear hdecides hsize hitem.symm

namespace Stream.Reachable

variable {source : String} {s : Stream} {e : LexError}

/-- Every error that a source gives rise to can be shown under its line. -/
theorem pull_picture (h : s.Reachable source) (hsize : Text.width source.toList < Offset.limit / 2)
    (he : s.pull.1.item = .error e) :
    ∃ start shown carets, e.HasPicture source start shown carets := by
  obtain ⟨c, text, verdict, hc, hclear, hdecides, hitem⟩ := h.exists_verdict
  exact hc.exists_hasPicture hclear hdecides hsize (hitem.symm.trans he)

theorem pull_picture_newline_in_string :
    (ofString "1x\r\t\"ü\r\n").pull.2.Reachable "1x\r\t\"ü\r\n" ∧
      Text.width "1x\r\t\"ü\r\n".toList < Offset.limit / 2 ∧
      ∃ e, (ofString "1x\r\t\"ü\r\n").pull.2.pull.1.item = .error e ∧
        (∃ start shown carets, e.HasPicture "1x\r\t\"ü\r\n" start shown carets) ∧
        e.diagnostic.render? "1x\r\t\"ü\r\n" =
          some "2| \t\"ü\n | \t^^--- String literal may not span multiple lines" := by
  have hreachable : (ofString "1x\r\t\"ü\r\n").pull.2.Reachable "1x\r\t\"ü\r\n" := .pull .start
  have hsize : Text.width "1x\r\t\"ü\r\n".toList < Offset.limit / 2 := by decide
  have hitem : (ofString "1x\r\t\"ü\r\n").pull.2.pull.1.item = .error
      { span := { start := 4, stop := 8 }
        location := { line := 2, column := 2 }
        lexeme := "\"ü"
        offending := some '\r'
        fault := .newlineInString } := by
    rw [← Item.error?_eq_some_iff]
    decide +kernel
  exact ⟨hreachable, hsize, _, hitem, pull_picture hreachable hsize hitem, by decide +kernel⟩

end Stream.Reachable

end Lexis
