import Lexis.Proofs.Locality
import Lexis.Proofs.Layout
import Lexis.Proofs.Stability

/-!
Two texts with a line break between them. The line break settles what the end of the first text
would have settled, and in the same way, unless the first text ends in the middle of a lexeme; what
is below it is read as on its own, only further down (`items_append_newline`).
-/

set_option autoImplicit false
set_option relaxedAutoImplicit false

namespace Lexis

def Location.lowered (lines : Nat) (l : Location) : Location := { l with line := l.line + lines }

theorem relocates_lowered (lines : Nat) : Relocates (Location.lowered lines) where
  nextColumn := fun _ _ => rfl
  nextLine := fun l _ => congrArg (Location.mk · 1) (Nat.add_right_comm l.line 1 lines)

/-- How many bytes a text takes up together with the line break behind it. -/
def widthAbove (above : String) : Nat := Text.width above.toList + 1

def linesAbove (above : String) : Nat := lineBreaks (above.toList ++ ['\n'])

def Token.below (above : String) (t : Token) : Token :=
  { t with
    span := t.span.shifted (widthAbove above)
    location := t.location.lowered (linesAbove above) }

def LexError.below (above : String) (e : LexError) : LexError :=
  { e with
    span := e.span.shifted (widthAbove above)
    location := e.location.lowered (linesAbove above) }

def Item.below (above : String) : Item → Item
  | .ok token => .ok (token.below above)
  | .error e => .error (e.below above)

theorem Item.moved_eq_below (above : String) (item : Item) :
    item.moved (widthAbove above) (Location.lowered (linesAbove above)) = item.below above := by
  cases item <;> rfl

theorem filterMap_error?_map_below (above : String) (items : List Item) :
    (items.map (Item.below above)).filterMap Item.error? =
      (items.filterMap Item.error?).map (LexError.below above) := by
  rw [List.filterMap_map, List.map_filterMap]
  congr 1
  funext item
  cases item <;> rfl

section Newline

variable {text rest gap other tail : List Char} {verdict : Verdict}

theorem Gap.append_newline (h : Gap [] gap) (hother : Gap rest other) :
    Gap rest (gap ++ '\n' :: other) := by
  induction h with
  | nil => exact hother.cons_blank (by decide)
  | @cons piece gap hpiece _ ih =>
    rw [List.append_assoc]
    rw [List.append_nil] at hpiece
    cases hpiece with
    | blank hc => exact .cons (.blank hc) ih
    | line hbody hc => exact .cons (.line hbody hc) ih
    | block hbody => exact .cons (.block hbody) ih
    | @lastLine body hbody hnil =>
      -- The comment that the source ended now ends with its line.
      subst hnil
      have hline : Filler (other ++ rest) ('/' :: '/' :: (body ++ ['\n'])) :=
        .line hbody (by decide)
      simpa using Gap.cons hline hother

/-- Where a lexeme or an error ends with the source it ends with the line as well, unless the error
is for want of a character. -/
theorem Decides.stands_newline (h : Decides text verdict) (hfinish : verdict ≠ .finish)
    (hoffending : ∀ refusal, verdict = .refuse refusal → refusal.offending ≠ none)
    (rest : List Char) : verdict.Stands text ('\n' :: rest) := by
  cases h with
  | finish => exact absurd rfl hfinish
  | @accept lexeme tail kind hlexeme hnext =>
    refine ⟨List.append_ne_nil_of_left_ne_nil hlexeme.ne_nil tail, ?_, rfl⟩
    rw [List.append_assoc]
    refine .accept hlexeme ?_
    cases tail with
    | nil =>
      intro c hc hclash
      obtain rfl := Option.some.inj hc
      exact absurd hclash.isBlank_eq_false (by decide)
    | cons c tail => exact hnext
  | refuse hrefused =>
    exact (Decides.refuse hrefused).stands (hoffending _ rfl) _

end Newline

section Items

variable {c : Cursor} {items : List Item}

theorem Course.scans_extend_newline (h : Course c items)
    (herrors : ∀ e, .error e ∈ items → e.offending ≠ none) (rest : List Char) :
    (c.extend ('\n' :: rest)).scans.map (·.item) = items.dropLast ++
      ((c.extend ('\n' :: rest)).after (c.rest ++ ['\n'])).scans.map (·.item) := by
  induction h with
  | @finish c gap hahead =>
    have hgap : c.rest = gap := hahead.text_eq.trans (List.append_nil gap)
    have hrest : (c.extend ('\n' :: rest)).rest = c.rest ++ ['\n'] ++ rest := by
      rw [List.append_assoc]
      rfl
    obtain ⟨hitem, hcursor⟩ := Cursor.scan_after hrest fun hnext => by
      rw [hgap, List.append_assoc]
      exact hahead.gap.append_newline hnext
    exact Cursor.map_item_scans_congr hitem hcursor
  | @cons c gap tail verdict items hahead hfinish hitems ih =>
    have hoffending : ∀ refusal, verdict = .refuse refusal → refusal.offending ≠ none := by
      rintro refusal rfl
      exact herrors _ List.mem_cons_self
    have hstands := hahead.decides.stands_newline hfinish hoffending rest
    obtain ⟨hsame, hcursor⟩ := Cursor.scan_extend hahead hstands
    have hend : (c.extend ('\n' :: rest)).scan.item.isEnd = false := by
      rw [hsame]
      exact hahead.decides.isEnd_item_eq_false hfinish _
    have hlater := ih fun e he => herrors e (List.mem_cons_of_mem _ he)
    obtain ⟨more, hsplit⟩ := hahead.exists_split
    have hne : items ≠ [] := hitems.ne_nil
    rw [Cursor.scans_of_not_isEnd hend, List.map_cons, hsame, hcursor, hlater,
      List.dropLast_cons_of_ne_nil hne, List.cons_append, Cursor.rest_after hsplit,
      ← Cursor.after_extend hsplit, ← Cursor.after_append, ← List.append_assoc, ← hsplit]

end Items

theorem Cursor.StandsBehind.follows_ofString {c : Cursor} {source above : String}
    (h : c.StandsBehind source (above.toList ++ ['\n'])) :
    Follows (widthAbove above) (Location.lowered (linesAbove above))
      (Cursor.ofString (String.ofList c.rest)) c := by
  obtain ⟨hclear, hlocation⟩ := h.location_of_newline
  refine ⟨String.toList_ofList.symm, ?_, ?_, ⟨Nat.le_refl 1, Nat.le_refl 1⟩,
    iff_of_false hclear (not_amidBreak_ofString _)⟩
  · rw [h.offset_eq, Text.width_append]
    rfl
  · rw [hlocation, Nat.add_comm]
    rfl

private theorem items_join (a b : String)
    (h : ∀ e, .error e ∈ items a → e.offending ≠ none) :
    items (a ++ "\n" ++ b) = (items a).dropLast ++ (items b).map (Item.below a) := by
  have hsource : (Cursor.ofString a).extend ('\n' :: b.toList) =
      Cursor.ofString (a ++ "\n" ++ b) := by
    rw [String.append_assoc, ← Cursor.extend_ofString, String.toList_append]
    rfl
  have hjoin := (course_items a).scans_extend_newline h b.toList
  rw [hsource] at hjoin
  have hrest : (Cursor.ofString (a ++ "\n" ++ b)).rest = (a.toList ++ ['\n']) ++ b.toList := by
    change (a ++ "\n" ++ b).toList = _
    rw [String.toList_append, String.toList_append]
    rfl
  have hthere := Cursor.StandsBehind.ofString.after hrest
  rw [List.nil_append] at hthere
  have hbelow := hthere.follows_ofString.scans (relocates_lowered _)
  rw [Cursor.rest_after hrest, String.ofList_toList] at hbelow
  have hmoved : Item.moved (widthAbove a) (Location.lowered (linesAbove a)) = Item.below a :=
    funext (Item.moved_eq_below a)
  rw [hmoved] at hbelow
  exact hjoin.trans (congrArg _ hbelow)

/-- The items of two texts with a line break between them are those of the first, all but its end,
and those of the second at their new places, unless the first text has an error for want of a
character. So they are when the first text is accepted, and then the whole is accepted if and only
if the second is, and has the errors of the second. -/
theorem items_append_newline (a b : String) :
    ((∀ e, .error e ∈ items a → e.offending ≠ none) →
      items (a ++ "\n" ++ b) = (items a).dropLast ++ (items b).map (Item.below a)) ∧
    ∀ tokens, lex a = .ok tokens →
      items (a ++ "\n" ++ b) = (items a).dropLast ++ (items b).map (Item.below a) ∧
      (lex (a ++ "\n" ++ b)).isOk = (lex b).isOk ∧
      ∀ errors, lex b = .error errors →
        lex (a ++ "\n" ++ b) = .error (errors.map (LexError.below a)) := by
  refine ⟨items_join a b, ?_⟩
  intro tokens htokens
  have hitems := lex_eq_ok_iff.mp htokens
  have hnone : ∀ e, Except.error e ∉ items a := by
    rw [hitems]
    simp
  have hjoin := items_join a b fun e he => absurd he (hnone e)
  have herrors : (items (a ++ "\n" ++ b)).filterMap Item.error? =
      ((items b).filterMap Item.error?).map (LexError.below a) := by
    have hfirst : (items a).dropLast.filterMap Item.error? = [] := by
      rw [List.filterMap_eq_nil_iff]
      intro item hitem
      cases item with
      | ok token => rfl
      | error e => exact absurd (List.mem_of_mem_dropLast hitem) (hnone e)
    rw [hjoin, List.filterMap_append, hfirst, List.nil_append, filterMap_error?_map_below]
  refine ⟨hjoin, ?_, ?_⟩
  · rw [isOk_lex, isOk_lex, herrors, List.isEmpty_map]
  · intro errors hlex
    obtain ⟨rfl, hne⟩ := lex_eq_error_iff.mp hlex
    exact lex_eq_error_iff.mpr ⟨herrors, by rwa [ne_eq, List.map_eq_nil_iff]⟩

end Lexis
