import Lexis.Proofs.Whereabouts

/-!
Strings and their literals. A literal is a string between two quotes; a string token has one for its
text and gives back what stands between the quotes. A literal is a token by itself exactly for those
strings that may stand between quotes (`lex_literal_iff`), and all string tokens of all sources are
of this sort (`Stream.Reachable.text_of_string`).
-/

set_option autoImplicit false
set_option relaxedAutoImplicit false

namespace Lexis

def literal (s : String) : String := "\"" ++ s ++ "\""

def loneToken (kind : Kind) (source : String) : Token where
  kind
  text := source
  span := { start := 0, stop := Text.width source.toList }
  location := .first

def lineEnd (source : String) : Token where
  kind := .endOfInput
  text := ""
  span := { start := Text.width source.toList, stop := Text.width source.toList }
  location := { line := 1, column := source.toList.length + 1 }

section Literal

variable {s other : String} {text : List Char}

theorem toList_literal (s : String) : (literal s).toList = '"' :: (s.toList ++ ['"']) := by
  rw [literal, String.toList_append, String.toList_append]
  rfl

theorem literal_injective (h : literal s = literal other) : s = other := by
  have hlist := congrArg String.toList h
  rw [toList_literal, toList_literal, List.cons.injEq] at hlist
  exact String.toList_injective (List.append_cancel_right hlist.2)

theorem IsPlain.isQuoted_literal (h : IsPlain s.toList) : IsQuoted (literal s).toList :=
  ⟨s.toList, h, toList_literal s⟩

theorem IsQuoted.exists_literal (h : IsQuoted text) :
    ∃ s : String, IsPlain s.toList ∧ String.ofList text = literal s := by
  obtain ⟨body, hplain, rfl⟩ := h
  refine ⟨String.ofList body, by rwa [String.toList_ofList], String.toList_injective ?_⟩
  rw [toList_literal, String.toList_ofList, String.toList_ofList]

theorem Token.stringValue?_eq_some_iff {token : Token} :
    token.stringValue? = some s ↔ token.kind = .string ∧ token.text = literal s := by
  rw [stringValue?]
  split
  · next hkind =>
    rw [Option.map_eq_some_iff, and_iff_right hkind]
    constructor
    · rintro ⟨body, hbody, rfl⟩
      rw [unquote?_eq_some_iff] at hbody
      apply String.toList_injective
      rw [hbody, toList_literal, String.toList_ofList, List.cons_append]
    · intro htext
      refine ⟨s.toList, ?_, String.ofList_toList⟩
      rw [unquote?_eq_some_iff, htext, toList_literal, List.cons_append]
  · next hkind =>
    constructor
    · intro h
      cases h
    · intro h
      exact absurd h.1 hkind

end Literal

theorem Lexeme.isQuoted {text : List Char} (h : Lexeme text .string) : IsQuoted text := by
  cases h with
  | string hquoted => exact hquoted
  | operator hmem =>
    have kinds : ∀ p ∈ operators, p.2 ≠ .string := by decide
    exact absurd rfl (kinds _ hmem)

theorem Stream.Reachable.text_of_string {source : String} {s : Stream} {token : Token}
    (h : s.Reachable source) (htoken : s.pull.1.item = .ok token) (hkind : token.kind = .string) :
    ∃ body : String, IsPlain body.toList ∧ token.text = literal body := by
  obtain ⟨c, _, verdict, _, _, hdecides, hitem⟩ := h.exists_verdict
  have hend : token.isEnd = false := by
    rw [Token.isEnd, hkind]
    rfl
  obtain ⟨lexeme, rfl, htext, _⟩ := Verdict.item_eq_ok (hitem.symm.trans htoken) hend
  rw [hkind] at hdecides
  rw [htext]
  exact hdecides.accepted.1.isQuoted.exists_literal

theorem lex_of_lexeme {source : String} {kind : Kind} (h : Lexeme source.toList kind) :
    lex source = .ok [loneToken kind source, lineEnd source] := by
  have hrest : (Cursor.ofString source).rest = source.toList ++ [] := (List.append_nil _).symm
  have hnow : Ahead (Cursor.ofString source).rest [] (source.toList ++ [])
      (.accept source.toList kind) :=
    ⟨hrest, .nil, .accept h fun c hc => absurd hc (Option.not_mem_none c)⟩
  have hthen : Ahead ((Cursor.ofString source).after source.toList).rest [] [] .finish := by
    rw [Cursor.rest_after hrest]
    exact ⟨rfl, .nil, .finish⟩
  have hoffset := Cursor.offset_after hrest
  obtain ⟨hlocation, _⟩ :=
    Cursor.after_unbroken hrest h.isUnbroken (Cursor.not_amidBreak_ofString source)
  have hitems : [(Verdict.accept source.toList kind).item (Cursor.ofString source),
      Verdict.finish.item ((Cursor.ofString source).after source.toList)] =
        [loneToken kind source, lineEnd source].map .ok := by
    rw [Verdict.item, Verdict.item, hoffset, hlocation, String.ofList_toList]
    simp [loneToken, lineEnd, Cursor.ofString, Location.first]
  rw [lex_eq_ok_iff, ← hitems]
  exact course_iff.mp (.cons hnow Verdict.noConfusion (.finish hthen))

theorem Cursor.head?_scans (c : Cursor) : c.scans.head? = some c.scan := by
  rw [scans]
  split <;> rfl

theorem lex_literal_iff {s : String} :
    lex (literal s) = .ok [loneToken .string (literal s), lineEnd (literal s)] ↔
      IsPlain s.toList := by
  constructor
  · intro h
    have hscan : some (Cursor.ofString (literal s)).scan.item =
        ([loneToken .string (literal s), lineEnd (literal s)].map Except.ok).head? := by
      rw [← lex_eq_ok_iff.mp h, items, List.head?_map, Cursor.head?_scans, Option.map_some]
    obtain ⟨body, hplain, hbody⟩ :=
      Stream.Reachable.start.text_of_string (Option.some.inj hscan) rfl
    rwa [literal_injective hbody]
  · intro h
    exact lex_of_lexeme (.string h.isQuoted_literal)

/-- Strings without quotes and line breaks and string tokens stand for each other. The literal of
such a string, and of no other, is a token by itself, and the token gives the string back. Every
string token of a source gives such a string back and has its literal for a text, and no other token
gives back anything. -/
theorem literals_round_trip :
    (∀ s : String,
      (lex (literal s) = .ok [loneToken .string (literal s), lineEnd (literal s)] ↔
        IsPlain s.toList) ∧
      (loneToken .string (literal s)).stringValue? = some s) ∧
    (∀ (source : String) (s : Stream) (token : Token), s.Reachable source →
      s.pull.1.item = .ok token →
        (token.kind = .string → ∃ body : String, IsPlain body.toList ∧
          token.text = literal body ∧ token.stringValue? = some body) ∧
        (token.kind ≠ .string → token.stringValue? = none)) ∧
    ∀ (token : Token) (s : String),
      token.stringValue? = some s ↔ token.kind = .string ∧ token.text = literal s := by
  refine ⟨fun s => ⟨lex_literal_iff, ?_⟩, ?_, fun _ _ => Token.stringValue?_eq_some_iff⟩
  · exact Token.stringValue?_eq_some_iff.mpr ⟨rfl, rfl⟩
  · intro source s token hs htoken
    refine ⟨?_, fun hkind => if_neg hkind⟩
    intro hkind
    obtain ⟨body, hplain, htext⟩ := hs.text_of_string htoken hkind
    exact ⟨body, hplain, htext, Token.stringValue?_eq_some_iff.mpr ⟨hkind, htext⟩⟩

-- One quote cannot be both of the quotes.
example :
    Token.stringValue? { kind := .string, text := "\"", span := {}, location := {} } = none := by
  decide

end Lexis
