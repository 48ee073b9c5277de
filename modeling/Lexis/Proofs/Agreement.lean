import Lexis.Command
import Lexis.Proofs.Picture
import Lexis.Proofs.Requests

/-!
There are several ways to read a whole source, and they agree. A stream that stops at the first
error gives the items up to there (`Stream.map_item_drain`): the tokens in front of the error and
the error itself, or all tokens if there is none (`DrainAgrees`). The tasks of the command read a
source in these ways. As every error of a source can be shown, none of their reports breaks down; so
the tasks end alike, and print what the source comes to whatever the settings are
(`Command.TasksAgree`).
-/

set_option autoImplicit false
set_option relaxedAutoImplicit false

namespace Lexis

def untilError : List Item → List Item
  | [] => []
  | .ok token :: items => .ok token :: untilError items
  | .error e :: _ => [.error e]

/-- The tokens of a source that begin in front of the offset. -/
def tokensBefore (source : String) (offset : Offset) : List Token :=
  ((items source).filterMap Item.token?).filter fun token => token.span.start < offset

section UntilError

variable {items : List Item} {tokens : List Token} {e : LexError} {errors : List LexError}

theorem filterMap_token?_map_ok (tokens : List Token) :
    (tokens.map Except.ok : List Item).filterMap Item.token? = tokens := by
  rw [List.filterMap_map]
  exact List.filterMap_some

theorem filterMap_error?_map_ok (tokens : List Token) :
    (tokens.map Except.ok : List Item).filterMap Item.error? = [] := by
  rw [List.filterMap_map]
  exact List.filterMap_eq_nil_iff.mpr fun _ _ => rfl

theorem untilError_map_ok (tokens : List Token) :
    untilError (tokens.map .ok) = tokens.map .ok := by
  induction tokens with
  | nil => rfl
  | cons token tokens ih => rw [List.map_cons, untilError, ih]

theorem untilError_append_error (tokens : List Token) (e : LexError) (items : List Item) :
    untilError (tokens.map .ok ++ .error e :: items) = tokens.map .ok ++ [.error e] := by
  induction tokens with
  | nil => rfl
  | cons token tokens ih => rw [List.map_cons, List.cons_append, untilError, ih, List.cons_append]

theorem exists_eq_append_error (h : items.filterMap Item.error? = e :: errors) :
    ∃ tokens later, items = List.map .ok tokens ++ .error e :: later := by
  induction items with
  | nil => cases h
  | cons item items ih =>
    cases item with
    | error first =>
      obtain ⟨rfl, _⟩ := List.cons.inj h
      exact ⟨[], items, rfl⟩
    | ok token =>
      obtain ⟨tokens, later, rfl⟩ := ih h
      exact ⟨token :: tokens, later, rfl⟩

end UntilError

section Order

variable {source : String}

theorem filter_tokens_of_pairwise {tokens : List Token} {e : LexError} {later : List Item}
    (h : (tokens.map .ok ++ .error e :: later : List Item).Pairwise
      fun item later => item.span.start < later.span.start) :
    ((tokens.map .ok ++ .error e :: later : List Item).filterMap Item.token?).filter
      (fun token => token.span.start < e.span.start) = tokens := by
  obtain ⟨_, hlater, hbefore⟩ := List.pairwise_append.mp h
  have htokens : tokens.filter (fun token => token.span.start < e.span.start) = tokens := by
    rw [List.filter_eq_self]
    intro token htoken
    exact decide_eq_true
      (hbefore _ (List.mem_map_of_mem htoken) (.error e) List.mem_cons_self)
  have hrest : (later.filterMap Item.token?).filter
      (fun token => token.span.start < e.span.start) = [] := by
    rw [List.filter_eq_nil_iff]
    intro token htoken
    obtain ⟨item, hitem, hsome⟩ := List.mem_filterMap.mp htoken
    have hlt := (List.pairwise_cons.mp hlater).1 item hitem
    cases item with
    | error _ => cases hsome
    | ok other =>
      obtain rfl := Option.some.inj hsome
      exact fun hbehind => Nat.lt_asymm hlt (of_decide_eq_true hbehind)
  rw [List.filterMap_append, filterMap_token?_map_ok, List.filter_append, htokens]
  change tokens ++ (later.filterMap Item.token?).filter _ = tokens
  rw [hrest, List.append_nil]

theorem items_eq_of_errors {e : LexError} {errors : List LexError}
    (h : (items source).filterMap Item.error? = e :: errors) :
    ∃ later, items source =
      (tokensBefore source e.span.start).map .ok ++ .error e :: later := by
  obtain ⟨tokens, later, heq⟩ := exists_eq_append_error h
  have horder := (course_items source).pairwise_start_lt .ofString
  rw [heq] at horder
  refine ⟨later, ?_⟩
  rw [tokensBefore, heq, filter_tokens_of_pairwise horder]

end Order

namespace Stream

section Drain

variable {s : Stream}

theorem drain_of_stops (h : s.finished = false)
    (hstops : (s.cursor.scan.item.isEnd || s.cursor.scan.item.isError) = true) :
    s.drain.1 = [s.cursor.scan] := by
  obtain ⟨t, hnext, _, hfinished⟩ := exists_next h
  have hstop := next?_eq_none_iff.mpr (hfinished.trans hstops)
  rw [drain_of_some hnext, drain_of_none hstop]

/-- What is taken from a stream until it stops are the items ahead of it up to the first error. -/
theorem map_item_drain (h : s.finished = false) :
    s.drain.1.map (·.item) = untilError (s.cursor.scans.map (·.item)) := by
  generalize hc : s.cursor = c
  induction c using Cursor.scan_induction generalizing s with
  | stop c hend =>
    subst hc
    have hstops : (s.cursor.scan.item.isEnd || s.cursor.scan.item.isError) = true := by
      rw [hend, Bool.true_or]
    rw [drain_of_stops h hstops, Cursor.scans_of_isEnd hend, List.map_singleton]
    cases s.cursor.scan.item <;> rfl
  | go c hend ih =>
    subst hc
    rw [Cursor.scans_of_not_isEnd hend, List.map_cons]
    cases hitem : s.cursor.scan.item with
    | error e =>
      have hstops : (s.cursor.scan.item.isEnd || s.cursor.scan.item.isError) = true := by
        rw [hitem]
        rfl
      rw [drain_of_stops h hstops, List.map_singleton, hitem]
      rfl
    | ok token =>
      obtain ⟨t, hnext, hcursor, hfinished⟩ := exists_next h
      rw [hend, hitem] at hfinished
      rw [drain_of_some hnext, List.map_cons, ih hfinished hcursor, hitem]
      rfl

theorem map_item_drain_ofString (source : String) :
    (ofString source).drain.1.map (·.item) = untilError (items source) :=
  map_item_drain rfl

theorem next?_drain (s : Stream) : s.drain.2.next? = none := by
  induction s using drain.induct with
  | case1 s hnext => rwa [drain_of_none hnext]
  | case2 s scan t hnext ih => rwa [drain_of_some hnext]

end Drain

theorem errors_pulls {source : String} {n : Nat} (hn : source.length < n) :
    ((ofString source).pulls n).filterMap Item.error? = (items source).filterMap Item.error? := by
  obtain ⟨k, hle, hend, _, hitems⟩ := (ofString source).exists_end
  have hlength : (ofString source).cursor.remaining = source.length := rfl
  obtain ⟨m, rfl⟩ := Nat.exists_eq_add_of_le (show k + 1 ≤ n by omega)
  -- Whatever is pulled behind the first end is this end again.
  have hagain := Cursor.item_scan_of_isEnd hend
  have hlater : ((ofString source).later (k + 1)).pulls m =
      List.replicate m ((ofString source).later k).pull.1.item := by
    rw [later_succ, pulls_of_isEnd (hagain ▸ hend)]
    exact congrArg (List.replicate m) hagain
  have hnone : ((ofString source).later k).pull.1.item.error? = none := by
    cases hitem : ((ofString source).later k).pull.1.item with
    | ok token => rfl
    | error e => simp [hitem, Item.isEnd] at hend
  rw [pulls_add, hlater, ← hitems, List.filterMap_append, List.filterMap_replicate_of_none hnone,
    List.append_nil]
  rfl

end Stream

/-- A source comes to the same whether its items are taken until they stop or pulled one by one. -/
structure DrainAgrees (source : String) : Prop where
  accepted : ∀ tokens, lex source = .ok tokens →
    (Stream.ofString source).drain.1.map (·.item) = tokens.map .ok
  refused : ∀ errors, lex source = .error errors → ∃ e later, errors = e :: later ∧
    (Stream.ofString source).drain.1.map (·.item) =
      (tokensBefore source e.span.start).map .ok ++ [.error e]
  stopped : (Stream.ofString source).drain.2.next? = none
  /-- However far it is pulled, the source is refused for the errors among the items. -/
  pulled : ∀ n, source.length < n → ∀ errors, lex source = .error errors ↔
    ((Stream.ofString source).pulls n).filterMap Item.error? = errors ∧ errors ≠ []

section Source

variable {source : String} {tokens : List Token} {e : LexError} {errors : List LexError}

theorem drain_of_lex_eq_ok (h : lex source = .ok tokens) :
    (Stream.ofString source).drain.1.map (·.item) = tokens.map .ok := by
  rw [Stream.map_item_drain_ofString, lex_eq_ok_iff.mp h, untilError_map_ok]

theorem drain_of_lex_eq_error (h : lex source = .error (e :: errors)) :
    (Stream.ofString source).drain.1.map (·.item) =
      (tokensBefore source e.span.start).map .ok ++ [.error e] := by
  obtain ⟨later, heq⟩ := items_eq_of_errors (lex_eq_error_iff.mp h).1
  rw [Stream.map_item_drain_ofString, heq, untilError_append_error]

theorem lex_cases (source : String) :
    (∃ tokens, lex source = .ok tokens) ∨ ∃ e errors, lex source = .error (e :: errors) := by
  cases h : lex source with
  | ok tokens => exact .inl ⟨tokens, rfl⟩
  | error errors =>
    obtain ⟨e, errors, rfl⟩ := List.exists_cons_of_ne_nil (lex_eq_error_iff.mp h).2
    exact .inr ⟨e, errors, rfl⟩

theorem drainAgrees (source : String) : DrainAgrees source where
  accepted _ h := drain_of_lex_eq_ok h
  refused errors h := by
    obtain ⟨e, errors, rfl⟩ := List.exists_cons_of_ne_nil (lex_eq_error_iff.mp h).2
    exact ⟨e, errors, rfl, drain_of_lex_eq_error h⟩
  stopped := Stream.next?_drain _
  pulled n hn errors := by rw [Stream.errors_pulls hn, lex_eq_error_iff]

end Source

namespace Command

section Lines

theorem isUnbroken_alignRight {text : String} (h : IsUnbroken text.toList) (size : Nat) :
    IsUnbroken (Text.alignRight size text).toList := by
  rw [Text.alignRight, String.toList_ofList, List.leftpad, isUnbroken_append]
  exact ⟨isUnbroken_replicate (by decide) _, h⟩

theorem isUnbroken_alignLeft {text : String} (h : IsUnbroken text.toList) (size : Nat) :
    IsUnbroken (Text.alignLeft size text).toList := by
  rw [Text.alignLeft, String.toList_ofList, List.rightpad, isUnbroken_append]
  exact ⟨h, isUnbroken_replicate (by decide) _⟩

theorem isUnbroken_display (t : Token) : IsUnbroken t.display.toList := by
  have hname : IsUnbroken t.kind.name.toList := by
    cases t.kind with
    | keyword word => cases word <;> decide
    | _ => decide
  rw [Token.display]
  split
  · exact hname
  · rw [String.toList_append, String.toList_append, isUnbroken_append, isUnbroken_append]
    exact ⟨⟨hname, by decide⟩, isUnbroken_quote t.text⟩

theorem isUnbroken_tokenLine (t : Token) : IsUnbroken (tokenLine t).toList := by
  simp only [tokenLine, String.toList_append, isUnbroken_append]
  exact ⟨⟨⟨⟨isUnbroken_alignRight (isUnbroken_repr _) 4, by decide⟩,
    isUnbroken_alignLeft (isUnbroken_repr _) 3⟩, by decide⟩, isUnbroken_display t⟩

theorem toList_unlines_cons (line : String) (lines : List String) :
    (unlines (line :: lines)).toList = line.toList ++ ['\n'] ++ (unlines lines).toList := by
  rw [unlines, List.map_cons, String.join_cons, String.toList_append, String.toList_append]
  rfl

theorem lines_unlines {lines : List String} (h : ∀ line ∈ lines, IsUnbroken line.toList) :
    Lines (unlines lines).toList (lines.map (fun line => line.toList ++ ['\n']) ++ [[]]) := by
  induction lines with
  | nil => exact .last isUnbroken_nil
  | cons line lines ih =>
    obtain ⟨hline, hlines⟩ := List.forall_mem_cons.mp h
    rw [toList_unlines_cons, List.map_cons, List.cons_append]
    exact .cons hline .feed (ih hlines)

theorem lines_tokenLines (tokens : List Token) : Lines (tokenLines tokens).toList
    (tokens.map (fun t => (tokenLine t).toList ++ ['\n']) ++ [[]]) := by
  have hunbroken : ∀ line ∈ tokens.map tokenLine, IsUnbroken line.toList := by
    intro line hline
    obtain ⟨t, _, rfl⟩ := List.mem_map.mp hline
    exact isUnbroken_tokenLine t
  have hlines := lines_unlines hunbroken
  rwa [List.map_map] at hlines

end Lines

def Task.outcome (settings : Settings) (file source : String) (task : Task) : Outcome :=
  Invocation.execute { settings, task, file } (.ok source)

def reportText (reported : List (LexError × String)) : String :=
  unlines (reported.flatMap (fun (e, picture) =>
      ["Lexer error (" ++ e.message ++ ")", picture, ""]) ++
    [reported.length.repr ++ " lexical error(s)"])

structure TasksAgree (file source : String) : Prop where
  status : ∀ settings (task : Task),
    (task.outcome settings file source).status = if (lex source).isOk then 0 else 1
  output : ∀ settings other (task : Task),
    (task.outcome settings file source).output = (task.outcome other file source).output
  accepted : ∀ settings tokens, lex source = .ok tokens →
    ((Task.tokens false).outcome settings file source).output = tokenLines tokens ∧
    ((Task.tokens true).outcome settings file source).output = tokenLines tokens ∧
    Lines (tokenLines tokens).toList
      (tokens.map (fun t => (tokenLine t).toList ++ ['\n']) ++ [[]])
  /-- All errors are shown, and so is the first one alone. -/
  refused : ∀ settings errors, lex source = .error errors →
    ∃ reported : List (LexError × String), reported.map Prod.fst = errors ∧
      (∀ p ∈ reported, p.1.diagnostic.render? source = some p.2) ∧
      ((Task.tokens true).outcome settings file source).output = reportText reported ∧
      (Task.check.outcome settings file source).output = reportText reported ∧
      ∃ first later, reported = first :: later ∧
        ((Task.tokens false).outcome settings file source).output =
          tokenLines (tokensBefore source first.1.span.start) ++ reportText [first]

section Report

variable {source : String} {errors : List LexError} {reported : List (LexError × String)}

theorem reportFrom_of_shown (count : Nat)
    (h : ∀ p ∈ reported, p.1.diagnostic.render? source = some p.2) :
    reportFrom source count (reported.map Prod.fst) =
      (failure, reported.flatMap (fun (e, picture) =>
          ["Lexer error (" ++ e.message ++ ")", picture, ""]) ++
        [count.repr ++ " lexical error(s)"]) := by
  induction reported with
  | nil => rfl
  | cons p reported ih =>
    obtain ⟨hp, hreported⟩ := List.forall_mem_cons.mp h
    rw [List.map_cons, reportFrom, hp, ih hreported]
    rfl

theorem errorReport_of_shown (h : ∀ p ∈ reported, p.1.diagnostic.render? source = some p.2) :
    errorReport source (reported.map Prod.fst) = (failure, reportText reported) := by
  rw [errorReport, reportFrom_of_shown _ h, List.length_map]
  rfl

/-- No report on a source breaks down: there is a picture for each of its errors. -/
theorem exists_reported (hsize : Text.width source.toList < Offset.limit / 2)
    (h : lex source = .error errors) : ∃ reported : List (LexError × String),
      reported.map Prod.fst = errors ∧
        ∀ p ∈ reported, p.1.diagnostic.render? source = some p.2 := by
  have hitems : ∀ e, .error e ∈ items source →
      ∃ picture, e.diagnostic.render? source = some picture := by
    intro e he
    obtain ⟨start, shown, carets, hpicture⟩ := exists_hasPicture_of_mem_items hsize he
    exact ⟨_, hpicture.render⟩
  have hpicture := forall_mem_errors_iff.mpr hitems errors h
  clear h
  induction errors with
  | nil => exact ⟨[], rfl, List.forall_mem_nil _⟩
  | cons e errors ih =>
    obtain ⟨⟨picture, he⟩, herrors⟩ := List.forall_mem_cons.mp hpicture
    obtain ⟨reported, rfl, hreported⟩ := ih herrors
    exact ⟨(e, picture) :: reported, rfl, List.forall_mem_cons.mpr ⟨he, hreported⟩⟩

end Report

namespace Task

variable {source : String} {tokens : List Token} {first : LexError × String}
variable {later : List (LexError × String)}

theorem run_of_ok (h : lex source = .ok tokens) (file : String) (task : Task) :
    (task.run file source).status = success ∧
      (task.run file source).output =
        match task with
        | .tokens _ => tokenLines tokens
        | .check => "No lexical errors found\n" := by
  match task with
  | .tokens false =>
    have hdrain := drain_of_lex_eq_ok h
    simp only [run, printUntilError, hdrain, filterMap_token?_map_ok, filterMap_error?_map_ok,
      and_self]
  | .tokens true => simp only [run, printAll, h, and_self]
  | .check => simp only [run, checkSource, h, and_self]

theorem run_of_error (h : lex source = .error ((first :: later).map Prod.fst))
    (hshown : ∀ p ∈ first :: later, p.1.diagnostic.render? source = some p.2) (file : String)
    (task : Task) :
    (task.run file source).status = failure ∧
      (task.run file source).output =
        match task with
        | .tokens false =>
          tokenLines (tokensBefore source first.1.span.start) ++ reportText [first]
        | _ => reportText (first :: later) := by
  have hreport := errorReport_of_shown hshown
  match task with
  | .tokens false =>
    have hfirst : errorReport source ([first].map Prod.fst) = (failure, reportText [first]) :=
      errorReport_of_shown (List.forall_mem_singleton.mpr (hshown first List.mem_cons_self))
    rw [List.map_singleton] at hfirst
    have hdrain := drain_of_lex_eq_error h
    have htokens : ((tokensBefore source first.1.span.start).map .ok ++ [.error first.1] :
        List Item).filterMap Item.token? = tokensBefore source first.1.span.start := by
      rw [List.filterMap_append, filterMap_token?_map_ok]
      exact List.append_nil _
    have herrors : ((tokensBefore source first.1.span.start).map .ok ++ [.error first.1] :
        List Item).filterMap Item.error? = [first.1] := by
      rw [List.filterMap_append, filterMap_error?_map_ok]
      rfl
    simp only [run, printUntilError, hdrain, htokens, herrors, hfirst, and_self]
  | .tokens true => simp only [run, printAll, h, hreport, and_self]
  | .check => simp only [run, checkSource, h, hreport, and_self]

end Task

theorem tasksAgree {source : String} (hsize : Text.width source.toList < Offset.limit / 2)
    (file : String) : TasksAgree file source where
  status settings task := by
    rcases lex_cases source with ⟨tokens, h⟩ | ⟨e, errors, h⟩
    · rw [h]
      exact (Task.run_of_ok h file task).1
    · obtain ⟨_ | ⟨first, later⟩, herrors, hshown⟩ := exists_reported hsize h
      · cases herrors
      · rw [← herrors] at h
        rw [h]
        exact (Task.run_of_error h hshown file task).1
  output _ _ _ := rfl
  accepted settings tokens h :=
    ⟨(Task.run_of_ok h file (.tokens false)).2, (Task.run_of_ok h file (.tokens true)).2,
      lines_tokenLines tokens⟩
  refused settings errors h := by
    obtain ⟨reported, rfl, hshown⟩ := exists_reported hsize h
    have hne := (lex_eq_error_iff.mp h).2
    cases reported with
    | nil => exact absurd rfl hne
    | cons first later =>
      exact ⟨first :: later, rfl, hshown, (Task.run_of_error h hshown file (.tokens true)).2,
        (Task.run_of_error h hshown file .check).2, first, later, rfl,
        (Task.run_of_error h hshown file (.tokens false)).2⟩

end Command

/-- All ways to read a source to its end agree, and so do the tasks of the command on a source that
fits in memory. -/
theorem readings_agree (source : String) : DrainAgrees source ∧
    (Text.width source.toList < Offset.limit / 2 → ∀ file, Command.TasksAgree file source) :=
  ⟨drainAgrees source, Command.tasksAgree⟩

theorem readings_agree_two_errors :
    let source := "x\t1y\n\"z"
    Text.width source.toList < Offset.limit / 2 ∧ ∀ (settings : Command.Settings) (file : String),
      (Command.Task.check.outcome settings file source).status = 1 ∧
      (Command.Task.check.outcome settings file source).output =
        "Lexer error (Integer literal may not be followed by a letter at 1:3)\n" ++
        "1| x\t1y\n |  \t^^--- Integer literal may not be followed by a letter\n\n" ++
        "Lexer error (Unterminated string literal at 2:1)\n" ++
        "2| \"z\n | ^^--- Unterminated string literal\n\n2 lexical error(s)\n" ∧
      ((Command.Task.tokens false).outcome settings file source).output =
        "   1:1   ID \"x\"\n" ++
        "Lexer error (Integer literal may not be followed by a letter at 1:3)\n" ++
        "1| x\t1y\n |  \t^^--- Integer literal may not be followed by a letter\n\n" ++
        "1 lexical error(s)\n" := by
  intro source
  have hsize : Text.width source.toList < Offset.limit / 2 := by decide
  refine ⟨hsize, fun settings file => ?_⟩
  have hagree := (readings_agree source).2 hsize file
  let malformed : LexError :=
    ⟨{ start := 2, stop := 4 }, { column := 3 }, "1", some 'y', .malformedInteger⟩
  let unterminated : LexError :=
    ⟨{ start := 5, stop := 7 }, { line := 2 }, "\"z", none, .unterminatedString⟩
  have hrefused : lex source = .error [malformed, unterminated] := by decide +kernel
  have hmalformed : malformed.diagnostic.render? source =
      some "1| x\t1y\n |  \t^^--- Integer literal may not be followed by a letter" := by
    decide +kernel
  have hunterminated : unterminated.diagnostic.render? source =
      some "2| \"z\n | ^^--- Unterminated string literal" := by
    decide +kernel
  obtain ⟨reported, herrors, hshown, _, hcheck, first, later, rfl, hstop⟩ :=
    hagree.refused settings _ hrefused
  obtain ⟨second, rfl⟩ : ∃ second, later = [second] := by
    have hlength := congrArg List.length herrors
    simpa [List.length_eq_one_iff] using hlength
  obtain ⟨hfirst, hsecond⟩ : first.1 = malformed ∧ second.1 = unterminated := by
    simpa using herrors
  obtain ⟨hpicture, hother⟩ : first.1.diagnostic.render? source = some first.2 ∧
      second.1.diagnostic.render? source = some second.2 := by
    simpa using hshown
  obtain rfl : first = (malformed, _) :=
    Prod.ext hfirst (Option.some.inj ((hfirst ▸ hpicture).symm.trans hmalformed))
  obtain rfl : second = (unterminated, _) :=
    Prod.ext hsecond (Option.some.inj ((hsecond ▸ hother).symm.trans hunterminated))
  refine ⟨?_, ?_, ?_⟩
  · rw [hagree.status, hrefused]
    rfl
  · rw [hcheck]
    decide +kernel
  · rw [hstop]
    decide +kernel

end Lexis
