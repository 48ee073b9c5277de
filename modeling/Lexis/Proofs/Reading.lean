import Lexis.Automaton
import Lexis.Proofs.Verdict

/-!
What the automaton knows in each state about the text that it has read since the lexeme began. Each
action either keeps this knowledge (`Reading.keep`, `Reading.drop`, `Reading.enter`), or turns it
into a piece of a gap (`Reading.restart`) or into a verdict (`Reading.emit`, `Reading.fail`).
-/

set_option autoImplicit false
set_option relaxedAutoImplicit false

namespace Lexis

namespace State

def spellings : State → List (List Char)
  | slash => [['/']]
  | additive => [['+'], ['-']]
  | multiplicative => [['*']]
  | relational => [['='], ['<', '='], ['<', '>'], ['>', '=']]
  | less => [['<']]
  | greater => [['>']]
  | negation => [['!']]
  | pipe => [['|']]
  | doublePipe => [['|', '|']]
  | ampersand => [['&']]
  | doubleAmpersand => [['&', '&']]
  | colon => [[':']]
  | assign => [[':', '=']]
  | openParen => [['(']]
  | closeParen => [[')']]
  | _ => []

end State

/-- What is known in a state: the lexeme, the whole text read since it began, and the character
ahead. Inside a comment only the first slash is in the lexeme. -/
def Reading (state : State) (lexeme read : List Char) (next : Option Char) : Prop :=
  match state with
  | .start => lexeme = [] ∧ read = []
  | .identifier => lexeme = read ∧ ((read = [] ∧ next.any isLetter = true) ∨ IsWord read)
  | .integer => lexeme = read ∧ ((read = [] ∧ next.any isDigit = true) ∨ IsNumber read)
  | .stringBody => lexeme = read ∧ ∃ body, IsPlain body ∧ read = '"' :: body
  | .stringEnd => lexeme = read ∧ IsQuoted read
  | .lineComment => lexeme = ['/'] ∧
      ∃ body, (∀ c ∈ body, isLineBreak c = false) ∧ read = '/' :: '/' :: body
  | .blockComment => lexeme = ['/'] ∧
      ∃ body, ¬ ['*', '/'] <:+: body ∧ body.getLast? ≠ some '*' ∧ read = '/' :: '*' :: body
  | .blockCommentStar => lexeme = ['/'] ∧
      ∃ body, ¬ ['*', '/'] <:+: body ∧ body.getLast? = some '*' ∧ read = '/' :: '*' :: body
  | state => lexeme = read ∧ read ∈ state.spellings

namespace Reading

variable {state next : State} {lexeme read rest : List Char} {c : Char} {symbol : Option Char}

private theorem opening_reading (h : opening? c = some next) (ahead : Option Char) :
    Reading next [c] [c] ahead := by
  unfold opening? at h
  split at h <;> cases h
  · exact ⟨rfl, [], by simp [IsPlain], rfl⟩
  all_goals exact ⟨rfl, by decide⟩

theorem keep (h : Reading state lexeme read (some c))
    (ha : transition state (some c) (String.ofList lexeme) = .keep next) (ahead : Option Char) :
    Reading next (lexeme ++ [c]) (read ++ [c]) ahead := by
  cases state with
  | start =>
    obtain ⟨rfl, rfl⟩ := h
    simp only [transition, begin] at ha
    repeat' split at ha
    all_goals cases ha
    next hopening => exact opening_reading hopening ahead
  | identifier =>
    obtain ⟨rfl, hread⟩ := h
    simp only [transition, Option.any_some] at ha
    split at ha
    · next hc =>
      cases ha
      refine ⟨rfl, .inr ?_⟩
      rcases hread with ⟨rfl, hletter⟩ | hword
      · exact ⟨hletter, by simp⟩
      · exact isWord_concat hword hc
    · cases ha
  | integer =>
    obtain ⟨rfl, hread⟩ := h
    simp only [transition, Option.any_some] at ha
    repeat' split at ha
    all_goals cases ha
    next hc =>
      refine ⟨rfl, .inr (isNumber_concat ?_ hc)⟩
      rcases hread with ⟨rfl, _⟩ | hnumber
      · simp
      · exact hnumber.2
  | stringBody =>
    obtain ⟨rfl, body, hplain, rfl⟩ := h
    simp only [transition, inString] at ha
    split at ha
    · next hc =>
      cases ha
      subst hc
      exact ⟨rfl, body, hplain, rfl⟩
    · next hquote =>
      split at ha
      · cases ha
      · next hbreak =>
        cases ha
        exact ⟨rfl, body ++ [c], hplain.concat hquote (Bool.eq_false_iff.mpr hbreak), rfl⟩
  | less =>
    obtain ⟨rfl, hread⟩ := h
    obtain rfl := List.mem_singleton.mp hread
    simp only [transition, Option.some.injEq] at ha
    split at ha
    · next hc =>
      cases ha
      rcases hc with rfl | rfl
      · exact ⟨rfl, by decide⟩
      · exact ⟨rfl, by decide⟩
    · cases ha
  | greater | pipe | ampersand | colon =>
    obtain ⟨rfl, hread⟩ := h
    obtain rfl := List.mem_singleton.mp hread
    simp only [transition, Option.some.injEq] at ha
    split at ha
    · next hc =>
      cases ha
      subst hc
      exact ⟨rfl, by decide⟩
    · cases ha
  | blockComment | blockCommentStar =>
    simp only [transition, inBlockComment, behindStar] at ha
    repeat' split at ha
    all_goals cases ha
  | _ =>
    simp only [transition] at ha
    repeat' split at ha
    all_goals cases ha

/-- A character is dropped only inside a comment, or as the second one of its beginning. -/
theorem drop (h : Reading state lexeme read (some c))
    (ha : transition state (some c) (String.ofList lexeme) = .drop next) (ahead : Option Char) :
    Reading next lexeme (read ++ [c]) ahead := by
  cases state with
  | slash =>
    obtain ⟨rfl, hread⟩ := h
    obtain rfl := List.mem_singleton.mp hread
    simp only [transition, Option.some.injEq] at ha
    split at ha
    · next hc =>
      cases ha
      subst hc
      exact ⟨rfl, [], by simp, rfl⟩
    · split at ha
      · next hc =>
        cases ha
        subst hc
        exact ⟨rfl, [], by decide, by simp, rfl⟩
      · cases ha
  | lineComment =>
    obtain ⟨rfl, body, hbody, rfl⟩ := h
    simp only [transition, Option.all_some] at ha
    split at ha
    · cases ha
    · next hc =>
      cases ha
      have hlast : ∀ d ∈ [c], isLineBreak d = false :=
        List.forall_mem_singleton.mpr (Bool.eq_false_iff.mpr hc)
      exact ⟨rfl, body ++ [c], List.forall_mem_append.mpr ⟨hbody, hlast⟩, rfl⟩
  | blockComment =>
    obtain ⟨rfl, body, hbody, hlast, rfl⟩ := h
    -- Behind a character that is no star nothing can close the comment.
    have hopen : ¬ ['*', '/'] <:+: body ++ [c] := by
      rw [Text.infix_concat_iff_close]
      rintro (hclose | ⟨hstar, _⟩)
      · exact hbody hclose
      · exact hlast hstar
    simp only [transition, inBlockComment] at ha
    split at ha
    · next hc =>
      cases ha
      exact ⟨rfl, body ++ [c], hopen, by simp [hc], rfl⟩
    · next hc =>
      cases ha
      exact ⟨rfl, body ++ [c], hopen, by simp [hc], rfl⟩
  | blockCommentStar =>
    obtain ⟨rfl, body, hbody, _, rfl⟩ := h
    simp only [transition, behindStar] at ha
    split at ha
    · cases ha
    · next hslash =>
      have hopen : ¬ ['*', '/'] <:+: body ++ [c] := by
        rw [Text.infix_concat_iff_close]
        rintro (hclose | ⟨_, hc⟩)
        · exact hbody hclose
        · exact hslash hc
      split at ha
      · next hc =>
        cases ha
        exact ⟨rfl, body ++ [c], hopen, by simp [hc], rfl⟩
      · next hc =>
        cases ha
        exact ⟨rfl, body ++ [c], hopen, by simp [hc], rfl⟩
  | start | stringBody =>
    simp only [transition, begin, inString] at ha
    repeat' split at ha
    all_goals cases ha
  | _ =>
    simp only [transition] at ha
    repeat' split at ha
    all_goals cases ha

theorem enter (h : Reading state lexeme read symbol)
    (ha : transition state symbol (String.ofList lexeme) = .enter next) :
    Reading next lexeme read symbol := by
  obtain ⟨rfl, ⟨rfl, hdigit⟩ | ⟨rfl, hletter⟩⟩ := transition_eq_enter ha
  · obtain ⟨rfl, rfl⟩ := h
    exact ⟨rfl, .inl ⟨rfl, hdigit⟩⟩
  · obtain ⟨rfl, rfl⟩ := h
    exact ⟨rfl, .inl ⟨rfl, hletter⟩⟩

theorem restart (h : Reading state lexeme read rest.head?)
    (ha : transition state rest.head? (String.ofList lexeme) = .restart) :
    Filler rest.tail (read ++ rest.head?.toList) := by
  obtain ⟨rfl, c, hc, hblank⟩ | ⟨rfl, hbreak⟩ | ⟨rfl, hslash⟩ := transition_eq_restart ha
  · obtain ⟨rfl, rfl⟩ := h
    rw [hc]
    exact .blank hblank
  · obtain ⟨rfl, body, hbody, rfl⟩ := h
    cases rest with
    | nil =>
      rw [List.head?_nil, Option.toList_none, List.append_nil]
      exact .lastLine hbody rfl
    | cons c rest => exact .line hbody hbreak
  · obtain ⟨rfl, body, hbody, hlast, rfl⟩ := h
    obtain ⟨front, rfl⟩ := List.getLast?_eq_some_iff.mp hlast
    have hfiller : Filler rest.tail ('/' :: '*' :: (front ++ ['*', '/'])) :=
      .block (Text.not_infix_of_append hbody)
    rw [hslash]
    simpa using hfiller

/-- A restart happens on a blank, with nothing read, or behind the slash that began a comment. -/
theorem restart_begin (h : Reading state lexeme read symbol)
    (ha : transition state symbol (String.ofList lexeme) = .restart) :
    (lexeme = [] ∧ read = [] ∧ ∃ c, symbol = some c ∧ isBlank c = true) ∨
      (lexeme = ['/'] ∧ ∃ text, read = '/' :: text) := by
  obtain ⟨rfl, hblank⟩ | ⟨rfl, _⟩ | ⟨rfl, _⟩ := transition_eq_restart ha
  · exact .inl ⟨h.1, h.2, hblank⟩
  · obtain ⟨hlexeme, _, _, rfl⟩ := h
    exact .inr ⟨hlexeme, _, rfl⟩
  · obtain ⟨hlexeme, _, _, _, rfl⟩ := h
    exact .inr ⟨hlexeme, _, rfl⟩

private def closed : List (State × Kind) :=
  [(.additive, .additive), (.multiplicative, .multiplicative), (.relational, .relational),
    (.negation, .negation), (.doublePipe, .disjunction), (.doubleAmpersand, .conjunction),
    (.openParen, .openParen), (.closeParen, .closeParen)]

private theorem accepted_of_closed {kind : Kind} (hclosed : (state, kind) ∈ closed)
    (hread : read ∈ state.spellings) : Lexeme read kind ∧ ∀ c ∈ rest.head?, ¬ Clashes read c := by
  have table : ∀ p ∈ closed, ∀ text ∈ p.1.spellings, (text, p.2) ∈ operators ∧
      text ∉ [[':', '='], ['<'], ['>'], ['/']] := by decide
  obtain ⟨hmem, hopen⟩ := table _ hclosed read hread
  refine ⟨.operator hmem, ?_⟩
  intro c _ hclash
  rcases hclash.of_operator (List.mem_map_of_mem hmem) with
    ⟨rfl, _⟩ | ⟨rfl, _⟩ | ⟨rfl, _⟩ | ⟨rfl, _⟩
  all_goals exact hopen (by decide)

private theorem false_of_none_of_any {p q : Char → Bool} (hnone : ¬ symbol.any q = true)
    (hany : symbol.any p = true) (hpq : ∀ c, p c = true → q c = true) : False := by
  obtain ⟨c, hc, hp⟩ := (Option.any_eq_true _ _).mp hany
  exact hnone ((Option.any_eq_true _ _).mpr ⟨c, hc, hpq c hp⟩)

theorem emit {kind : Kind} (h : Reading state lexeme read rest.head?)
    (ha : transition state rest.head? (String.ofList lexeme) = .emit kind) :
    (kind = .endOfInput ∧ lexeme = [] ∧ read = [] ∧ rest = []) ∨
      (lexeme = read ∧ Lexeme read kind ∧ ∀ c ∈ rest.head?, ¬ Clashes read c) := by
  cases state with
  | start =>
    obtain ⟨rfl, rfl⟩ := h
    cases rest with
    | nil =>
      cases ha
      exact .inl ⟨rfl, rfl, rfl, rfl⟩
    | cons c rest =>
      simp only [transition, List.head?_cons, begin] at ha
      repeat' split at ha
      all_goals cases ha
  | identifier =>
    obtain ⟨rfl, hread⟩ := h
    by_cases hnext : rest.head?.any isWordChar = true
    · rw [transition, if_pos hnext] at ha
      cases ha
    · rw [transition, if_neg hnext] at ha
      cases ha
      rcases hread with ⟨rfl, hletter⟩ | hword
      · exact (false_of_none_of_any hnext hletter fun _ => isWordChar_of_isLetter).elim
      · refine .inr ⟨rfl, lexeme_of_isWord hword, ?_⟩
        intro c hc hclash
        exact hnext ((Option.any_eq_true _ _).mpr ⟨c, hc, hclash.of_isWord hword⟩)
  | integer =>
    obtain ⟨rfl, hread⟩ := h
    by_cases hdigit : rest.head?.any isDigit = true
    · rw [transition, if_pos hdigit] at ha
      cases ha
    · by_cases hnext : rest.head?.any isWordChar = true
      · rw [transition, if_neg hdigit, if_pos hnext] at ha
        cases ha
      · rw [transition, if_neg hdigit, if_neg hnext] at ha
        cases ha
        rcases hread with ⟨rfl, hany⟩ | hnumber
        · exact absurd hany hdigit
        · refine .inr ⟨rfl, .integer hnumber, ?_⟩
          intro c hc hclash
          exact hnext ((Option.any_eq_true _ _).mpr ⟨c, hc, hclash.of_isNumber hnumber⟩)
  | stringEnd =>
    obtain ⟨rfl, hquoted⟩ := h
    cases ha
    exact .inr ⟨rfl, .string hquoted, fun c _ => not_clashes_of_isQuoted hquoted⟩
  | slash | less | greater | assign =>
    obtain ⟨rfl, hread⟩ := h
    obtain rfl := List.mem_singleton.mp hread
    simp only [transition] at ha
    repeat' split at ha
    all_goals cases ha
    refine .inr ⟨rfl, .operator (by decide), ?_⟩
    intro c hc hclash
    have hnext := hclash.of_operator (by decide)
    simp_all
  | additive | multiplicative | relational | negation | doublePipe | doubleAmpersand | openParen
      | closeParen =>
    obtain ⟨rfl, hread⟩ := h
    cases ha
    exact .inr ⟨rfl, accepted_of_closed (by decide) hread⟩
  | stringBody | blockComment | blockCommentStar =>
    simp only [transition, inString, inBlockComment, behindStar] at ha
    repeat' split at ha
    all_goals cases ha
  | _ =>
    simp only [transition] at ha
    repeat' split at ha
    all_goals cases ha

private theorem opener_of_none (h : opening? c = none) : c ∉ openers := by
  have opened : openers.all (fun d => (opening? d).isSome) = true := by decide
  intro hmem
  have hsome := List.all_eq_true.mp opened c hmem
  rw [h] at hsome
  cases hsome

theorem fail {fault : Fault} (h : Reading state lexeme read rest.head?)
    (ha : transition state rest.head? (String.ofList lexeme) = .fail fault) :
    Refused (read ++ rest) ⟨fault, lexeme, rest.head?⟩ ∧
      Refusal.extent ⟨fault, lexeme, rest.head?⟩ (read ++ rest) = read ++ rest.head?.toList := by
  cases state with
  | start =>
    obtain ⟨rfl, rfl⟩ := h
    cases rest with
    | nil => cases ha
    | cons c rest =>
      simp only [transition, List.head?_cons, begin] at ha
      repeat' split at ha
      all_goals cases ha
      next hdigit hletter hblank _ hnone =>
        have hword : isWordChar c = false := by
          rw [isWordChar, Bool.eq_false_iff.mpr hletter, Bool.eq_false_iff.mpr hdigit,
            Bool.or_false]
        exact ⟨.unknownCharacter ⟨hword, Bool.eq_false_iff.mpr hblank, opener_of_none hnone⟩, rfl⟩
  | integer =>
    obtain ⟨rfl, hread⟩ := h
    by_cases hdigit : rest.head?.any isDigit = true
    · rw [transition, if_pos hdigit] at ha
      cases ha
    · by_cases hnext : rest.head?.any isWordChar = true
      · rw [transition, if_neg hdigit, if_pos hnext] at ha
        cases ha
        obtain ⟨c, hc, hword⟩ := (Option.any_eq_true _ _).mp hnext
        obtain ⟨tail, rfl⟩ := List.head?_eq_some_iff.mp hc
        rw [List.head?_cons, Option.any_some] at hdigit
        have hletter : isLetter c = true := by
          rwa [isWordChar, Bool.eq_false_iff.mpr hdigit, Bool.or_false] at hword
        rcases hread with ⟨_, hany⟩ | hnumber
        · exact absurd hany hdigit
        · cases lexeme with
          | nil => exact absurd rfl hnumber.1
          | cons d digits => exact ⟨.malformedInteger hnumber hletter, rfl⟩
      · rw [transition, if_neg hdigit, if_neg hnext] at ha
        cases ha
  | stringBody =>
    obtain ⟨rfl, body, hplain, rfl⟩ := h
    cases rest with
    | nil =>
      cases ha
      exact ⟨by simpa using Refused.unterminatedString hplain, rfl⟩
    | cons c rest =>
      simp only [transition, List.head?_cons, inString] at ha
      repeat' split at ha
      all_goals cases ha
      next hbreak => exact ⟨Refused.newlineInString hplain hbreak, rfl⟩
  | blockComment | blockCommentStar =>
    obtain ⟨rfl, body, hbody, _, rfl⟩ := h
    cases rest with
    | nil =>
      cases ha
      exact ⟨by simpa using Refused.unterminatedComment hbody, rfl⟩
    | cons c rest =>
      simp only [transition, List.head?_cons, inBlockComment, behindStar] at ha
      repeat' split at ha
      all_goals cases ha
  | pipe | ampersand | colon =>
    obtain ⟨rfl, hread⟩ := h
    obtain rfl := List.mem_singleton.mp hread
    simp only [transition] at ha
    split at ha
    · cases ha
    · next hnext =>
      cases ha
      exact ⟨Refused.incompleteOperator (by decide) hnext, rfl⟩
  | assign =>
    obtain ⟨rfl, hread⟩ := h
    obtain rfl := List.mem_singleton.mp hread
    simp only [transition] at ha
    split at ha
    · next hnext =>
      cases ha
      obtain ⟨c, hc, hword⟩ := (Option.any_eq_true _ _).mp hnext
      obtain ⟨tail, rfl⟩ := List.head?_eq_some_iff.mp hc
      exact ⟨.malformedAssignment hword, rfl⟩
    · cases ha
  | _ =>
    simp only [transition] at ha
    repeat' split at ha
    all_goals cases ha

end Reading

end Lexis
