import Lexis.Proofs.Course

/-!
The next item of a stream, told from the source alone. Behind the longest gap stands the end of the
source, the longest lexeme there is, or a text that is refused for the reason given.
-/

set_option autoImplicit false
set_option relaxedAutoImplicit false

namespace Lexis

structure Skip (source : String) (offset : Offset) (front gap tail : List Char) : Prop where
  source_eq : source.toList = front ++ gap ++ tail
  offset_eq : offset = Text.width front
  isGap : Gap tail gap
  longest : ∀ other rest, gap ++ tail = other ++ rest → Gap rest other → other.length ≤ gap.length

structure LongestLexeme (text lexeme : List Char) : Prop where
  isPrefix : lexeme <+: text
  isLexeme : ∃ kind, Lexeme lexeme kind
  longest : ∀ other kind, other <+: text → Lexeme other kind → other.length ≤ lexeme.length

/-- The lexeme is the longest one in front of the rest, no block comment begins with it, and
neither does a number run into a letter nor an assignment sign into a letter or a digit. -/
structure Munches (lexeme rest : List Char) : Prop where
  longest : LongestLexeme (lexeme ++ rest) lexeme
  comment : ¬ ['/', '*'] <+: lexeme ++ rest
  number : IsNumber lexeme → ∀ c ∈ rest.head?, isLetter c = false
  assign : lexeme = [':', '='] → ∀ c ∈ rest.head?, isWordChar c = false

section Longest

variable {lexeme rest : List Char} {kind : Kind} {c : Char}

theorem longestLexeme_of_not_clashes (h : Lexeme lexeme kind)
    (hnext : ∀ c ∈ rest.head?, ¬ Clashes lexeme c) : LongestLexeme (lexeme ++ rest) lexeme where
  isPrefix := List.prefix_append lexeme rest
  isLexeme := ⟨kind, h⟩
  longest := by
    rintro other kind' ⟨tail, htext⟩ hother
    rcases List.append_eq_append_iff.mp htext with ⟨more, hmore, _⟩ | ⟨more, hmore, hrest⟩
    · rw [hmore, List.length_append]
      exact Nat.le_add_right _ _
    · cases more with
      | nil => rw [hmore, List.append_nil]
      | cons c more =>
        rw [hmore] at hother
        exact absurd (h.clashes_of_append hother) (hnext c (by simp [hrest]))

theorem LongestLexeme.not_lexeme_concat (h : LongestLexeme (lexeme ++ rest) lexeme)
    (hc : c ∈ rest.head?) (kind : Kind) : ¬ Lexeme (lexeme ++ [c]) kind := by
  intro hlexeme
  obtain ⟨tail, rfl⟩ := List.head?_eq_some_iff.mp hc
  have hle := h.longest _ _ ⟨tail, by rw [List.append_assoc, List.singleton_append]⟩ hlexeme
  rw [List.length_append, List.length_singleton] at hle
  omega

theorem not_isBare_slashes (cs : List Char) : ¬ IsBare ('/' :: '/' :: cs) := by
  have hline : (∀ c ∈ cs, isLineBreak c = false) ∨ ∃ body c rest, cs = body ++ c :: rest ∧
      (∀ d ∈ body, isLineBreak d = false) ∧ isLineBreak c = true := by
    induction cs with
    | nil => exact .inl (by simp)
    | cons c cs ih =>
      by_cases hc : isLineBreak c = true
      · exact .inr ⟨[], c, cs, rfl, by simp, hc⟩
      · have hfirst := Bool.eq_false_iff.mpr hc
        rcases ih with hnone | ⟨body, d, rest, rfl, hbody, hd⟩
        · exact .inl (List.forall_mem_cons.mpr ⟨hfirst, hnone⟩)
        · exact .inr ⟨c :: body, d, rest, rfl, List.forall_mem_cons.mpr ⟨hfirst, hbody⟩, hd⟩
  intro hbare
  rcases hline with hnone | ⟨body, c, rest, rfl, hbody, hc⟩
  · exact hbare ('/' :: '/' :: cs) [] (List.append_nil _).symm (.lastLine hnone rfl)
  · exact hbare ('/' :: '/' :: (body ++ [c])) rest (by simp) (.line hbody hc)

theorem decides_accept_iff (hbare : IsBare (lexeme ++ rest)) :
    Decides (lexeme ++ rest) (.accept lexeme kind) ↔ Lexeme lexeme kind ∧ Munches lexeme rest := by
  constructor
  · intro h
    obtain ⟨hlexeme, rest', hrest, hnext⟩ := h.accepted
    obtain rfl := List.append_cancel_left hrest
    refine ⟨hlexeme, longestLexeme_of_not_clashes hlexeme hnext, ?_, ?_, ?_⟩
    · rintro ⟨tail, htail⟩
      obtain ⟨d, ds, rfl, _⟩ := hlexeme.head
      obtain ⟨rfl, hstar⟩ := List.cons.inj htail
      obtain rfl := hlexeme.of_slash
      change '*' :: tail = rest at hstar
      subst hstar
      exact hnext '*' rfl (.slash (.inr rfl))
    · intro hnumber c hc
      by_contra hletter
      refine hnext c hc (.number hnumber ?_)
      exact isWordChar_of_isLetter (Bool.of_not_eq_false hletter)
    · rintro rfl c hc
      by_contra hword
      exact hnext c hc (.assign (Bool.of_not_eq_false hword))
  · rintro ⟨hlexeme, hmunch⟩
    refine .accept hlexeme ?_
    intro c hc hclash
    have hconcat := hmunch.longest.not_lexeme_concat hc
    cases hclash with
    | word hword hnext => exact hconcat _ (lexeme_of_isWord (isWord_concat hword hnext))
    | number hnumber hnext =>
      by_cases hdigit : isDigit c = true
      · exact hconcat _ (.integer (isNumber_concat hnumber.2 hdigit))
      · rw [isWordChar, hmunch.number hnumber c hc, Bool.eq_false_iff.mpr hdigit] at hnext
        cases hnext
    | assign hnext =>
      rw [hmunch.assign rfl c hc] at hnext
      cases hnext
    | less hnext =>
      rcases hnext with rfl | rfl
      · exact hconcat .relational (.operator (by decide))
      · exact hconcat .relational (.operator (by decide))
    | greater hnext =>
      subst hnext
      exact hconcat .relational (.operator (by decide))
    | slash hnext =>
      obtain ⟨tail, rfl⟩ := List.head?_eq_some_iff.mp hc
      rcases hnext with rfl | rfl
      · exact not_isBare_slashes tail hbare
      · exact hmunch.comment ⟨tail, rfl⟩

end Longest

theorem Ahead.skip {c : Cursor} {source : String} {front gap tail : List Char} {verdict : Verdict}
    (h : Ahead c.rest gap tail verdict) (hc : c.StandsBehind source front) :
    Skip source c.offset front gap tail where
  source_eq := by rw [List.append_assoc, ← h.text_eq, hc.source_eq]
  offset_eq := hc.offset_eq
  isGap := h.gap
  longest := by
    intro other rest heq hother
    exact (h.gap.prefix_of_bare h.decides.isBare hother heq.symm).length_le

theorem Skip.eq_of_bare {source : String} {offset : Offset} {front gap tail text rest : List Char}
    {c : Char} (h : Skip source offset front gap tail) (hsource : source.toList = text ++ c :: rest)
    (hoffset : offset = Text.width text) (hblank : isBlank c = false) (hslash : c ≠ '/') :
    front = text ∧ gap = [] ∧ tail = c :: rest := by
  have hcut : front ++ (gap ++ tail) = text ++ c :: rest := by
    rw [← List.append_assoc, ← h.source_eq, hsource]
  obtain ⟨rfl, hrest⟩ := Text.append_inj_of_width hcut (h.offset_eq.symm.trans hoffset)
  cases gap with
  | nil => exact ⟨rfl, rfl, hrest⟩
  | cons d gap =>
    obtain ⟨rfl, _⟩ := List.cons.inj hrest
    rcases h.isGap.head_eq rfl with hblank' | hslash'
    · rw [hblank] at hblank'
      cases hblank'
    · exact absurd hslash' hslash

theorem Verdict.item_eq_ok {c : Cursor} {verdict : Verdict} {token : Token}
    (h : verdict.item c = .ok token) (hend : token.isEnd = false) :
    ∃ lexeme, verdict = .accept lexeme token.kind ∧ token.text = String.ofList lexeme ∧
      token.span = { start := c.offset, stop := c.offset + Text.width lexeme } := by
  cases verdict with
  | finish =>
    obtain rfl := Except.ok.inj h
    simp [Token.isEnd] at hend
  | accept lexeme kind =>
    obtain rfl := Except.ok.inj h
    exact ⟨lexeme, rfl, rfl, rfl⟩
  | refuse refusal => cases h

namespace Stream.Reachable

variable {source : String} {s : Stream}

/-- Wherever a stream of the source stands, its next item is the end of the source if nothing but
a gap is left, and it is a token exactly when a lexeme munches what is behind the longest gap. That
token is the longest lexeme there, and its text alone determines its kind. -/
theorem pull_munches (h : s.Reachable source) :
    ∃ front gap tail, Skip source s.cursor.offset front gap tail ∧
      (s.pull.1.item.isEnd = true ↔ tail = []) ∧
      ((∃ token, s.pull.1.item = .ok token ∧ token.isEnd = false) ↔
        ∃ lexeme rest, tail = lexeme ++ rest ∧ Munches lexeme rest) ∧
      ∀ token, s.pull.1.item = .ok token → token.isEnd = false →
        LongestLexeme tail token.text.toList ∧
        (∀ kind, Lexeme token.text.toList kind ↔ kind = token.kind) ∧
        token.span =
          { start := Text.width (front ++ gap)
            stop := Text.width (front ++ gap) + Text.width token.text.toList } := by
  obtain ⟨front, hc⟩ := h.standsBehind
  obtain ⟨gap, tail, verdict, hahead, hitem, _⟩ := s.cursor.exists_ahead_scan
  change s.pull.1.item = verdict.item (s.cursor.after gap) at hitem
  have hbare := hahead.decides.isBare
  refine ⟨front, gap, tail, hahead.skip hc, ?_, ⟨?_, ?_⟩, ?_⟩
  · rw [hitem, hahead.decides.isEnd_item_iff]
    constructor
    · rintro rfl
      exact hahead.decides.eq_nil
    · rintro rfl
      exact hahead.decides.unique .finish rfl
  · rintro ⟨token, htoken, hend⟩
    obtain ⟨lexeme, rfl, _⟩ := Verdict.item_eq_ok (hitem.symm.trans htoken) hend
    obtain ⟨_, rest, rfl, _⟩ := hahead.decides.accepted
    exact ⟨lexeme, rest, rfl, ((decides_accept_iff hbare).mp hahead.decides).2⟩
  · rintro ⟨lexeme, rest, rfl, hmunch⟩
    obtain ⟨kind, hlexeme⟩ := hmunch.longest.isLexeme
    have hdecides := (decides_accept_iff hbare).mpr ⟨hlexeme, hmunch⟩
    obtain rfl := hahead.decides.unique hdecides rfl
    refine ⟨_, hitem, ?_⟩
    simp [Token.isEnd, hlexeme.kind_ne_endOfInput]
  · intro token htoken hend
    obtain ⟨lexeme, rfl, htext, hspan⟩ := Verdict.item_eq_ok (hitem.symm.trans htoken) hend
    obtain ⟨hlexeme, rest, rfl, hnext⟩ := hahead.decides.accepted
    rw [htext, String.toList_ofList]
    refine ⟨longestLexeme_of_not_clashes hlexeme hnext, ?_, ?_⟩
    · intro kind
      constructor
      · intro hkind
        exact hkind.kind_unique hlexeme
      · rintro rfl
        exact hlexeme
    · rw [hspan, (hc.after hahead.text_eq).offset_eq]

theorem pull_munches_operator :
    (ofString "a<=").pull.2.Reachable "a<=" ∧
      ∃ token, (ofString "a<=").pull.2.pull.1.item = .ok token ∧ token.text = "<=" ∧
        token.kind = .relational ∧ token.span = { start := 1, stop := 3 } := by
  have h : (ofString "a<=").pull.2.Reachable "a<=" := .pull .start
  have hlexeme : Lexeme ['<', '='] .relational := .operator (by decide)
  have hmunch : Munches ['<', '='] [] :=
    { longest := ⟨List.prefix_rfl, ⟨_, hlexeme⟩, fun _ _ hother _ => hother.length_le⟩
      comment := by decide
      number := fun _ c hc => absurd hc (Option.not_mem_none c)
      assign := fun _ c hc => absurd hc (Option.not_mem_none c) }
  obtain ⟨front, gap, tail, hskip, _, hiff, htoken⟩ := pull_munches h
  obtain ⟨rfl, rfl, rfl⟩ := hskip.eq_of_bare (show "a<=".toList = ['a'] ++ ['<', '='] from rfl)
    (by decide +kernel) (by decide) (by decide)
  obtain ⟨token, hitem, hend⟩ := hiff.mpr ⟨_, _, rfl, hmunch⟩
  obtain ⟨hlongest, hkind, hspan⟩ := htoken token hitem hend
  have htext : token.text.toList = ['<', '='] :=
    hlongest.isPrefix.eq_of_length_le (hlongest.longest _ _ List.prefix_rfl hlexeme)
  refine ⟨h, token, hitem, String.toList_injective htext, ?_, ?_⟩
  · rw [← htext, hkind] at hlexeme
    exact hlexeme.symm
  · rw [hspan, htext]
    rfl

/-- Wherever a stream of the source stands, its next item is an error exactly when what is behind
the longest gap is refused, which is so for one reason at most, and the error gives the reason. -/
theorem pull_refuses (h : s.Reachable source) :
    ∃ front gap tail, Skip source s.cursor.offset front gap tail ∧
      ((∃ e, s.pull.1.item = .error e) ↔ ∃! refusal, Refused tail refusal) ∧
      ∀ refusal, Refused tail refusal → s.pull.1.item = .error
        { span :=
            { start := Text.width (front ++ gap)
              stop := Text.width (front ++ gap) + Text.width (refusal.extent tail) }
          location := ((Cursor.ofString source).after (front ++ gap)).location
          lexeme := String.ofList refusal.lexeme
          offending := refusal.offending
          fault := refusal.fault } := by
  obtain ⟨front, hc⟩ := h.standsBehind
  obtain ⟨gap, tail, verdict, hahead, hitem, _⟩ := s.cursor.exists_ahead_scan
  change s.pull.1.item = verdict.item (s.cursor.after gap) at hitem
  have hverdict : ∀ refusal, Refused tail refusal → verdict = .refuse refusal := by
    intro refusal hrefused
    exact hahead.decides.unique (.refuse hrefused) rfl
  refine ⟨front, gap, tail, hahead.skip hc, ⟨?_, ?_⟩, ?_⟩
  · rintro ⟨e, he⟩
    rw [hitem] at he
    cases verdict with
    | finish => cases he
    | accept lexeme kind => cases he
    | refuse refusal =>
      have hrefused := hahead.decides.refused
      exact ⟨refusal, hrefused, fun other hother => hother.unique hrefused⟩
  · rintro ⟨refusal, hrefused, _⟩
    rw [hitem, hverdict refusal hrefused]
    exact ⟨_, rfl⟩
  · intro refusal hrefused
    have hthere := hc.after hahead.text_eq
    rw [hitem, hverdict refusal hrefused, Verdict.item, Cursor.rest_after hahead.text_eq,
      hthere.offset_eq, ← hthere.cursor_eq]

theorem pull_refuses_open_quote :
    (ofString "a\"").pull.2.Reachable "a\"" ∧
      (ofString "a\"").pull.2.pull.1.item = .error
        { span := { start := 1, stop := 2 }
          location := { line := 1, column := 2 }
          lexeme := "\""
          offending := none
          fault := .unterminatedString } := by
  have h : (ofString "a\"").pull.2.Reachable "a\"" := .pull .start
  have hrefused : Refused ['"'] ⟨.unterminatedString, ['"'], none⟩ :=
    .unterminatedString (by simp [IsPlain])
  obtain ⟨front, gap, tail, hskip, _, hitem⟩ := pull_refuses h
  obtain ⟨rfl, rfl, rfl⟩ := hskip.eq_of_bare (show "a\"".toList = ['a'] ++ ['"'] from rfl)
    (by decide +kernel) (by decide) (by decide)
  exact ⟨h, hitem _ hrefused⟩

end Stream.Reachable

end Lexis
