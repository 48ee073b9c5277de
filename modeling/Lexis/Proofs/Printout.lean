import Lexis.Proofs.Agreement
import Mathlib

/-!
The printed tokens of a source can be read back. A line for a token determines its kind, its text
and its location (`Command.tokenLine_eq_iff`): the colon and the blanks show where the columns end,
and a quoted text has one reading only. As no token breaks its line, the whole output determines
the lines, and so all tokens but for their spans (`output_eq_iff_matches`).
-/

set_option autoImplicit false
set_option relaxedAutoImplicit false

namespace Lexis

namespace Text

private theorem digitChar_inj {m n : Nat} (hm : m < 16) (hn : n < 16)
    (h : m.digitChar = n.digitChar) : m = n := by
  have table : ∀ m < 16, ∀ n < 16, m.digitChar = n.digitChar → m = n := by decide
  exact table m hm n hn h

theorem toDigits_inj {base m n : Nat} (hbase : 1 < base) (hle : base ≤ 16)
    (h : Nat.toDigits base m = Nat.toDigits base n) : m = n := by
  induction m using Nat.strongRecOn generalizing n with
  | ind m ih =>
    have hm := Nat.toDigits_eq_if (n := m) hbase
    have hn := Nat.toDigits_eq_if (n := n) hbase
    have hmpos := Nat.length_toDigits_pos (b := base) (n := m / base)
    have hnpos := Nat.length_toDigits_pos (b := base) (n := n / base)
    rw [hm, hn] at h
    split_ifs at h with hmlt hnlt hnlt
    · exact digitChar_inj (hmlt.trans_le hle) (hnlt.trans_le hle) (List.singleton_inj.mp h)
    · have hlength := congrArg List.length h
      simp only [List.length_append, List.length_singleton] at hlength
      omega
    · have hlength := congrArg List.length h
      simp only [List.length_append, List.length_singleton] at hlength
      omega
    · obtain ⟨hfront, hlast⟩ := List.append_inj' h rfl
      have hdiv : m / base = n / base := ih _ (Nat.div_lt_self (by omega) hbase) hfront
      have hmod : m % base = n % base :=
        digitChar_inj ((Nat.mod_lt m (by omega)).trans_le hle)
          ((Nat.mod_lt n (by omega)).trans_le hle) (List.singleton_inj.mp hlast)
      rw [← Nat.div_add_mod m base, hdiv, hmod, Nat.div_add_mod]

theorem isDigit_of_mem_repr {n : Nat} : ∀ c ∈ n.repr.toList, c.isDigit = true := by
  intro c hc
  rw [Nat.toList_repr] at hc
  exact Nat.isDigit_of_mem_toDigits (by decide) (by decide) hc

section Fields

variable {size : Nat} {text other rest tail : List Char}

private theorem not_isDigit_blank : ¬ ' '.isDigit = true := by decide

theorem leftpad_inj (h : text.leftpad size ' ' = other.leftpad size ' ')
    (htext : ∀ c ∈ text, c.isDigit = true) (hother : ∀ c ∈ other, c.isDigit = true) :
    text = other := by
  have hhead : ∀ digits : List Char, (∀ c ∈ digits, c.isDigit = true) →
      ∀ c ∈ digits.head?, ¬ c = ' ' := by
    rintro digits hdigits c hc rfl
    exact not_isDigit_blank (hdigits ' ' (List.mem_of_mem_head? hc))
  exact (append_inj_of_boundary (p := (· = ' ')) h (fun _ => List.eq_of_mem_replicate)
    (fun _ => List.eq_of_mem_replicate) (hhead text htext) (hhead other hother)).2

theorem rightpad_append_inj
    (h : text.rightpad size ' ' ++ ' ' :: rest = other.rightpad size ' ' ++ ' ' :: tail)
    (htext : ∀ c ∈ text, c.isDigit = true) (hother : ∀ c ∈ other, c.isDigit = true) :
    text = other ∧ rest = tail := by
  have hhead : ∀ (n : Nat) (more : List Char),
      ∀ c ∈ (List.replicate n ' ' ++ ' ' :: more).head?, ¬ c.isDigit = true := by
    intro n more c hc
    cases n <;> obtain rfl := Option.some.inj hc <;> exact not_isDigit_blank
  rw [List.rightpad, List.rightpad, List.append_assoc, List.append_assoc] at h
  obtain ⟨rfl, hrest⟩ := append_inj_of_boundary (p := (·.isDigit = true)) h htext hother
    (hhead _ _) (hhead _ _)
  exact ⟨rfl, (List.cons.inj (List.append_cancel_left hrest)).2⟩

end Fields

def letterEscapes : List (Char × Char) :=
  [('\x00', '0'), ('\t', 't'), ('\n', 'n'), ('\r', 'r'), ('\\', '\\'), ('"', '"')]

theorem escape_cases (c : Char) :
    (∃ letter, (c, letter) ∈ letterEscapes ∧ escape '"' c = ['\\', letter]) ∨
      escape '"' c = '\\' :: 'u' :: '\x7b' :: (hexDigits c ++ ['\x7d']) ∨
      (c ≠ '\\' ∧ c ≠ '"' ∧ escape '"' c = [c]) := by
  rw [escape]
  split_ifs with hnull htab hfeed hreturn hself _
  · subst hnull
    exact .inl ⟨_, by decide, rfl⟩
  · subst htab
    exact .inl ⟨_, by decide, rfl⟩
  · subst hfeed
    exact .inl ⟨_, by decide, rfl⟩
  · subst hreturn
    exact .inl ⟨_, by decide, rfl⟩
  · rcases hself with rfl | rfl
    · exact .inl ⟨_, by decide, rfl⟩
    · exact .inl ⟨_, by decide, rfl⟩
  · exact .inr (.inl rfl)
  · exact .inr (.inr ⟨fun h => hself (.inl h), fun h => hself (.inr h), rfl⟩)

theorem hexDigits_inj {c d : Char} (h : hexDigits c = hexDigits d) : c = d :=
  Char.toNat_inj.mp (toDigits_inj (by decide) (by decide) h)

theorem hexDigits_append_inj {c d : Char} {rest tail : List Char}
    (h : hexDigits c ++ '\x7d' :: rest = hexDigits d ++ '\x7d' :: tail) : c = d ∧ rest = tail := by
  have hdigits : ∀ c : Char, ∀ digit ∈ hexDigits c, digit ≠ '\x7d' := fun c =>
    forall_mem_toDigits (p := (· ≠ '\x7d')) (by decide)
      (fun _ => Nat.digitChar_ne '\x7d' (by decide)) c.toNat
  obtain ⟨hhex, hrest⟩ := append_inj_of_boundary (p := (· ≠ '\x7d')) h (hdigits c) (hdigits d)
    (by simp) (by simp)
  exact ⟨hexDigits_inj hhex, (List.cons.inj hrest).2⟩

/-- No two characters are escaped alike, whatever follows them. -/
theorem escape_append_inj {c d : Char} {rest tail : List Char}
    (h : escape '"' c ++ rest = escape '"' d ++ tail) : c = d ∧ rest = tail := by
  have letters : ∀ p ∈ letterEscapes, p.2 ≠ 'u' ∧ ∀ q ∈ letterEscapes, p.2 = q.2 → p.1 = q.1 := by
    decide
  -- The first character tells whether there is an escape, and the second one which sort it is.
  rcases escape_cases c with ⟨a, ha, hc⟩ | hc | ⟨hc, _, hplain⟩
  · rcases escape_cases d with ⟨b, hb, hd⟩ | hd | ⟨hd, _, hplain⟩
    · simp only [hc, hd, List.cons_append, List.nil_append, List.cons.injEq, true_and] at h
      exact ⟨(letters _ ha).2 _ hb h.1, h.2⟩
    · simp only [hc, hd, List.cons_append, List.nil_append, List.cons.injEq, true_and] at h
      exact absurd h.1 (letters _ ha).1
    · simp only [hc, hplain, List.cons_append, List.nil_append, List.cons.injEq] at h
      exact absurd h.1.symm hd
  · rcases escape_cases d with ⟨b, hb, hd⟩ | hd | ⟨hd, _, hplain⟩
    · simp only [hc, hd, List.cons_append, List.nil_append, List.cons.injEq, true_and] at h
      exact absurd h.1.symm (letters _ hb).1
    · simp only [hc, hd, List.cons_append, List.append_assoc, List.nil_append, List.cons.injEq,
        true_and] at h
      exact hexDigits_append_inj h
    · simp only [hc, hplain, List.cons_append, List.nil_append, List.cons.injEq] at h
      exact absurd h.1.symm hd
  · rcases escape_cases d with ⟨b, hb, hd⟩ | hd | ⟨_, _, hother⟩
    · simp only [hplain, hd, List.cons_append, List.nil_append, List.cons.injEq] at h
      exact absurd h.1 hc
    · simp only [hplain, hd, List.cons_append, List.nil_append, List.cons.injEq] at h
      exact absurd h.1 hc
    · rw [hplain, hother] at h
      exact List.cons.inj h

private theorem head_escape (c : Char) :
    ∃ first more, escape '"' c = first :: more ∧ first ≠ '"' := by
  rcases escape_cases c with ⟨letter, _, hc⟩ | hc | ⟨_, hquote, hc⟩
  · exact ⟨'\\', [letter], hc, by decide⟩
  · exact ⟨'\\', _, hc, by decide⟩
  · exact ⟨c, [], hc, hquote⟩

private theorem ne_escape_append (c : Char) (rest : List Char) : ['"'] ≠ escape '"' c ++ rest := by
  obtain ⟨first, more, hescape, hfirst⟩ := head_escape c
  rw [hescape, List.cons_append]
  exact fun h => hfirst (List.cons.inj h).1.symm

theorem flatMap_escape_inj {cs ds : List Char}
    (h : cs.flatMap (escape '"') ++ ['"'] = ds.flatMap (escape '"') ++ ['"']) : cs = ds := by
  induction cs generalizing ds with
  | nil =>
    cases ds with
    | nil => rfl
    | cons d ds =>
      rw [List.flatMap_cons, List.append_assoc] at h
      exact absurd h (ne_escape_append d _)
  | cons c cs ih =>
    cases ds with
    | nil =>
      rw [List.flatMap_cons, List.append_assoc] at h
      exact absurd h.symm (ne_escape_append c _)
    | cons d ds =>
      rw [List.flatMap_cons, List.flatMap_cons, List.append_assoc, List.append_assoc] at h
      obtain ⟨rfl, hrest⟩ := escape_append_inj h
      rw [ih hrest]

theorem quote_inj {s t : String} (h : quote s = quote t) : s = t := by
  have henclose : enclose '"' s.toList = enclose '"' t.toList := String.ofList_inj.mp h
  exact String.toList_inj.mp (flatMap_escape_inj (List.cons.inj henclose).2)

end Text

structure Token.Matches (t u : Token) : Prop where
  kind : t.kind = u.kind
  text : t.text = u.text
  location : t.location = u.location

/-- At the end of the source there is no text, so that none is missed where it is printed. -/
def Token.IsPrintable (t : Token) : Prop := t.isEnd = true → t.text = ""

theorem Token.display_inj {t u : Token} (h : t.display = u.display) :
    t.kind = u.kind ∧ (t.isEnd = false → t.text = u.text) := by
  have table : ∀ kind ∈ Kind.all, kind.name.toList.all (· != ' ') = true := by decide
  have hnames : ∀ kind : Kind, ∀ c ∈ kind.name.toList, c ≠ ' ' := fun kind c hc =>
    bne_iff_ne.mp (List.all_eq_true.mp (table kind kind.mem_all) c hc)
  have hdisplay : ∀ v : Token, v.display.toList = v.kind.name.toList ++
      if v.isEnd then [] else ' ' :: (Text.quote v.text).toList := by
    intro v
    rw [display]
    split
    · rw [List.append_nil]
    · rw [String.toList_append, String.toList_append, List.append_assoc]
      rfl
  have hhead : ∀ v : Token, ∀ c ∈ (if v.isEnd then [] else
      ' ' :: (Text.quote v.text).toList).head?, ¬ c ≠ ' ' := by
    intro v c hc
    split at hc
    · cases hc
    · exact not_not_intro (Option.some.inj hc).symm
  have htext := congrArg String.toList h
  rw [hdisplay, hdisplay] at htext
  obtain ⟨hname, hquote⟩ := Text.append_inj_of_boundary (p := (· ≠ ' ')) htext
    (hnames t.kind) (hnames u.kind) (hhead t) (hhead u)
  have hkind := Kind.name_injective (String.toList_inj.mp hname)
  have hend : u.isEnd = t.isEnd := by rw [isEnd, isEnd, hkind]
  refine ⟨hkind, fun hother => ?_⟩
  rw [hend, hother] at hquote
  exact Text.quote_inj (String.toList_inj.mp (List.cons.inj hquote).2)

namespace Command

theorem toList_tokenLine (t : Token) : (tokenLine t).toList =
    t.location.line.repr.toList.leftpad 4 ' ' ++ ':' ::
      (t.location.column.repr.toList.rightpad 3 ' ' ++ ' ' :: t.display.toList) := by
  simp [tokenLine, Text.alignRight, Text.alignLeft]

theorem tokenLine_eq_iff {t u : Token} (ht : t.IsPrintable) (hu : u.IsPrintable) :
    tokenLine t = tokenLine u ↔ t.Matches u := by
  constructor
  · intro h
    have hcolon : ∀ n : Nat, ∀ c ∈ n.repr.toList.leftpad 4 ' ', c ≠ ':' := by
      rintro n c hc rfl
      rcases List.mem_append.mp hc with hblank | hdigit
      · cases List.eq_of_mem_replicate hblank
      · cases Text.isDigit_of_mem_repr ':' hdigit
    have htext := congrArg String.toList h
    rw [toList_tokenLine, toList_tokenLine] at htext
    obtain ⟨hline, hrest⟩ := Text.append_inj_of_boundary (p := (· ≠ ':')) htext (hcolon _)
      (hcolon _) (by simp) (by simp)
    obtain ⟨hcolumn, hdisplay⟩ := Text.rightpad_append_inj (List.cons.inj hrest).2
      Text.isDigit_of_mem_repr Text.isDigit_of_mem_repr
    have hline := Text.leftpad_inj hline Text.isDigit_of_mem_repr Text.isDigit_of_mem_repr
    obtain ⟨hkind, htext⟩ := Token.display_inj (String.toList_inj.mp hdisplay)
    have hend : u.isEnd = t.isEnd := by rw [Token.isEnd, Token.isEnd, hkind]
    refine ⟨hkind, ?_, ?_⟩
    · cases hother : t.isEnd with
      | false => exact htext hother
      | true => rw [ht hother, hu (hend.trans hother)]
    · rw [Location.mk.injEq]
      exact ⟨Nat.repr_injective (String.toList_inj.mp hline),
        Nat.repr_injective (String.toList_inj.mp hcolumn)⟩
  · rintro ⟨hkind, htext, hlocation⟩
    rw [tokenLine, tokenLine, Token.display, Token.display, Token.isEnd, Token.isEnd, hkind, htext,
      hlocation]

theorem unlines_inj {lines others : List String} (hlines : ∀ line ∈ lines, IsUnbroken line.toList)
    (hothers : ∀ line ∈ others, IsUnbroken line.toList) (h : unlines lines = unlines others) :
    lines = others := by
  have hfeed : ∀ rest : List Char, ∀ c ∈ ('\n' :: rest).head?, ¬ isLineBreak c = false := by
    intro rest c hc
    obtain rfl := Option.some.inj hc
    decide
  induction lines generalizing others with
  | nil =>
    cases others with
    | nil => rfl
    | cons other others =>
      have htext := congrArg String.toList h
      rw [toList_unlines_cons] at htext
      simp [unlines] at htext
  | cons line lines ih =>
    have htext := congrArg String.toList h
    cases others with
    | nil =>
      rw [toList_unlines_cons] at htext
      simp [unlines] at htext
    | cons other others =>
      obtain ⟨hline, hlines⟩ := List.forall_mem_cons.mp hlines
      obtain ⟨hother, hothers⟩ := List.forall_mem_cons.mp hothers
      rw [toList_unlines_cons, toList_unlines_cons, List.append_assoc, List.append_assoc] at htext
      obtain ⟨hsame, hrest⟩ := Text.append_inj_of_boundary (p := (isLineBreak · = false)) htext
        hline hother (hfeed _) (hfeed _)
      rw [String.toList_inj.mp hsame,
        ih hlines hothers (String.toList_inj.mp (List.cons.inj hrest).2)]

theorem tokenLines_eq_iff {tokens others : List Token} (htokens : ∀ t ∈ tokens, t.IsPrintable)
    (hothers : ∀ t ∈ others, t.IsPrintable) :
    tokenLines tokens = tokenLines others ↔ List.Forall₂ Token.Matches tokens others := by
  have hunbroken : ∀ tokens : List Token, ∀ line ∈ tokens.map tokenLine,
      IsUnbroken line.toList := by
    intro tokens line hline
    obtain ⟨t, _, rfl⟩ := List.mem_map.mp hline
    exact isUnbroken_tokenLine t
  have hlines : tokenLines tokens = tokenLines others ↔
      tokens.map tokenLine = others.map tokenLine :=
    ⟨unlines_inj (hunbroken tokens) (hunbroken others), fun h => congrArg unlines h⟩
  rw [hlines]
  clear hlines hunbroken
  induction tokens generalizing others with
  | nil => cases others <;> simp
  | cons t tokens ih =>
    cases others with
    | nil => simp
    | cons u others =>
      obtain ⟨ht, htokens⟩ := List.forall_mem_cons.mp htokens
      obtain ⟨hu, hothers⟩ := List.forall_mem_cons.mp hothers
      rw [List.map_cons, List.map_cons, List.cons.injEq, List.forall₂_cons]
      exact and_congr (tokenLine_eq_iff ht hu) (ih htokens hothers)

end Command

theorem Course.isPrintable {c : Cursor} {items : List Item} (h : Course c items) {t : Token}
    (ht : .ok t ∈ items) : t.IsPrintable := by
  induction h with
  | finish _ =>
    obtain rfl := Except.ok.inj (List.mem_singleton.mp ht)
    exact fun _ => rfl
  | @cons c gap tail verdict items hahead hfinish _ ih =>
    rcases List.mem_cons.mp ht with hitem | hlater
    · intro hend
      have hother := hahead.decides.isEnd_item_eq_false hfinish (c.after gap)
      rw [← hitem, Item.isEnd, hend] at hother
      cases hother
    · exact ih hlater

section Output

variable {source other : String} {tokens others : List Token}

theorem isPrintable_of_lex (h : lex source = .ok tokens) : ∀ t ∈ tokens, t.IsPrintable := by
  intro t ht
  have hcourse := course_items source
  rw [lex_eq_ok_iff.mp h] at hcourse
  exact hcourse.isPrintable (List.mem_map_of_mem ht)

/-- What is printed for two accepted sources is the same just when their tokens are, but for their
spans. -/
theorem output_eq_iff_matches (h : lex source = .ok tokens) (hother : lex other = .ok others)
    (settings settings' : Command.Settings) (file file' : String) (keepGoing keepGoing' : Bool) :
    ((Command.Task.tokens keepGoing).outcome settings file source).output =
        ((Command.Task.tokens keepGoing').outcome settings' file' other).output ↔
      List.Forall₂ Token.Matches tokens others := by
  have houtput : ∀ {source : String} {tokens : List Token}, lex source = .ok tokens →
      ∀ settings file keepGoing,
        ((Command.Task.tokens keepGoing).outcome settings file source).output =
          Command.tokenLines tokens := by
    intro source tokens h settings file keepGoing
    exact (Command.Task.run_of_ok h file (.tokens keepGoing)).2
  rw [houtput h, houtput hother]
  exact Command.tokenLines_eq_iff (isPrintable_of_lex h) (isPrintable_of_lex hother)

theorem output_eq_iff_matches_comments :
    ∃ tokens others, lex "a/*e*/" = .ok tokens ∧ lex "a/*\u00e9*/" = .ok others ∧
      tokens ≠ others ∧ List.Forall₂ Token.Matches tokens others := by
  have haccepted : lex "a/*e*/" = .ok
      [⟨.identifier, "a", { stop := 1 }, {}⟩,
        ⟨.endOfInput, "", { start := 6, stop := 6 }, { column := 7 }⟩] := by decide +kernel
  have hother : lex "a/*\u00e9*/" = .ok
      [⟨.identifier, "a", { stop := 1 }, {}⟩,
        ⟨.endOfInput, "", { start := 7, stop := 7 }, { column := 7 }⟩] := by decide +kernel
  refine ⟨_, _, haccepted, hother, by decide, ?_⟩
  exact (output_eq_iff_matches haccepted hother {} {} "" "" false false).mp (by decide +kernel)

end Output

end Lexis
