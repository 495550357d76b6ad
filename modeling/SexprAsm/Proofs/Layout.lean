import SexprAsm.Proofs.Lexeme

/-!
# Layouts

A layout of tokens is a source that spells them in order, with blanks before, between and after
them. A gap may be empty unless the tokens around it would run together: two numbers and two
identifiers need something between them, and a run at the very end needs something after it.

The scanner reads tokens from a source exactly when the source is a layout of them and each of them
is well formed.
-/

namespace SexprAsm

open Scan

namespace Token

def Kind.isRun : Kind → Bool
  | .number => true
  | .ident => true
  | _ => false

theorem Kind.isRun_iff (kind : Kind) : kind.isRun = true ↔ ∃ p, kind.runClass = some p := by
  cases kind <;> simp [isRun, runClass]

/-- A token and the gap between it and the next one, or the end. -/
structure Spaced where
  token : Token
  gap : List Char

namespace Spaced

def chars (s : Spaced) : List Char :=
  s.token.spelling ++ s.gap

def Separated : List Spaced → Prop
  | [] => True
  | [last] => last.token.kind.isRun = true → last.gap ≠ []
  | s :: next :: rest =>
    (s.token.kind.isRun = true → next.token.kind = s.token.kind → s.gap ≠ []) ∧
      Separated (next :: rest)

end Spaced

def AllBlank (cs : List Char) : Prop :=
  ∀ c ∈ cs, Text.isBlank c = true

/-- The characters spell the tokens, with blanks around them that keep them apart. -/
def Layout (ts : List Token) (cs : List Char) : Prop :=
  ∃ (lead : List Char) (items : List Spaced),
    cs = lead ++ items.flatMap Spaced.chars ∧ items.map Spaced.token = ts ∧
      AllBlank lead ∧ (∀ s ∈ items, AllBlank s.gap) ∧ Spaced.Separated items

theorem Kind.runClass_eq_false_of_isBlank {kind : Kind} {p : Char → Bool}
    (hp : kind.runClass = some p) {c : Char} (hc : Text.isBlank c = true) : p c = false := by
  rw [Bool.eq_false_iff]
  intro hrun
  rcases Kind.runClass_eq_some hp with ⟨-, rfl⟩ | ⟨-, rfl⟩
  · simp [Text.not_isBlank_of_isDigit hrun] at hc
  · simp [Text.not_isBlank_of_isAlpha hrun] at hc

theorem WellFormed.firstChar {t : Token} (hwf : t.WellFormed) :
    ∃ c tail, t.spelling = c :: tail ∧
      ∀ kind p, kind.runClass = some p → (p c = true ↔ t.kind = kind) := by
  obtain ⟨kind, text⟩ := t
  have hrun : ∀ p, kind.runClass = some p →
      ∃ c tail, text.toList = c :: tail ∧ p c = true := by
    intro p hp
    obtain ⟨hne, hall⟩ := (wellFormed_run hp).1 hwf
    cases hchars : text.toList with
    | nil => exact absurd (String.toList_eq_nil_iff.1 hchars) hne
    | cons c tail => exact ⟨c, tail, rfl, hall c (by simp [hchars])⟩
  cases kind with
  | lparen =>
      obtain rfl : text = "(" := hwf
      refine ⟨'(', [], rfl, fun kind p hp => ?_⟩
      rcases Kind.runClass_eq_some hp with ⟨rfl, rfl⟩ | ⟨rfl, rfl⟩ <;> decide
  | rparen =>
      obtain rfl : text = ")" := hwf
      refine ⟨')', [], rfl, fun kind p hp => ?_⟩
      rcases Kind.runClass_eq_some hp with ⟨rfl, rfl⟩ | ⟨rfl, rfl⟩ <;> decide
  | string =>
      refine ⟨'"', _, rfl, fun kind p hp => ?_⟩
      rcases Kind.runClass_eq_some hp with ⟨rfl, rfl⟩ | ⟨rfl, rfl⟩ <;> simp
  | number =>
      obtain ⟨c, tail, hchars, hc⟩ := hrun _ rfl
      refine ⟨c, tail, hchars, fun kind p hp => ?_⟩
      rcases Kind.runClass_eq_some hp with ⟨rfl, rfl⟩ | ⟨rfl, rfl⟩
      · simp [hc]
      · simp [Text.not_isAlpha_of_isDigit hc]
  | ident =>
      obtain ⟨c, tail, hchars, hc⟩ := hrun _ rfl
      refine ⟨c, tail, hchars, fun kind p hp => ?_⟩
      rcases Kind.runClass_eq_some hp with ⟨rfl, rfl⟩ | ⟨rfl, rfl⟩
      · simp [Text.not_isDigit_of_isAlpha hc]
      · simp [hc]

end Token

/-! ## Scanning lexeme by lexeme -/

namespace Scan

theorem tokens_of_lexeme {c : Char} {cs rest : List Char} {t : Option Token}
    (h : lexeme c cs = ⟨.ok t, rest⟩) :
    tokens (c :: cs) = (tokens rest).map (t.toList ++ ·) := by
  rw [tokens_cons, h]

theorem tokens_blank_append {gap : List Char} (hgap : Token.AllBlank gap) (cs : List Char) :
    tokens (gap ++ cs) = tokens cs := by
  induction gap with
  | nil => rfl
  | cons c gap ih =>
      obtain ⟨hc, hgap'⟩ := List.forall_mem_cons.1 hgap
      rw [List.cons_append, tokens_of_lexeme (lexeme_blank hc _), ih hgap']
      exact Reading.map_id _

theorem tokens_spelling_append {t : Token} (hwf : t.WellFormed) {rest : List Char}
    (hclosed : t.ClosedBy rest) :
    tokens (t.spelling ++ rest) = (tokens rest).map (t :: ·) := by
  obtain ⟨c, tail, hspelling, -⟩ := hwf.firstChar
  have hlexeme : lexeme c (tail ++ rest) = ⟨.ok (some t), rest⟩ :=
    lexeme_eq_token_iff.2 ⟨hwf, by simp [hspelling], hclosed⟩
  rw [hspelling, List.cons_append, tokens_of_lexeme hlexeme]
  rfl

end Scan

namespace Token

/-! ## Sources are layouts -/

theorem layout_nil : Layout [] [] :=
  ⟨[], [], rfl, rfl, by simp [AllBlank], by simp, trivial⟩

theorem Layout.blank_cons {ts : List Token} {c : Char} {cs : List Char}
    (hc : Text.isBlank c = true) (h : Layout ts cs) : Layout ts (c :: cs) := by
  obtain ⟨lead, items, rfl, hts, hlead, hgaps, hsep⟩ := h
  exact ⟨c :: lead, items, rfl, hts, List.forall_mem_cons.2 ⟨hc, hlead⟩, hgaps, hsep⟩

/-- The blanks that led the rest become the gap after the new token. They are enough to keep it
apart, because the rest begins with a character that closes it. -/
theorem Layout.token_append {t : Token} {ts : List Token} {rest : List Char}
    (hclosed : t.ClosedBy rest) (hwf : ∀ u ∈ ts, u.WellFormed) (h : Layout ts rest) :
    Layout (t :: ts) (t.spelling ++ rest) := by
  obtain ⟨lead, items, rfl, rfl, hlead, hgaps, hsep⟩ := h
  refine ⟨[], ⟨t, lead⟩ :: items, by simp [Spaced.chars], by simp, by simp [AllBlank], ?_, ?_⟩
  · exact List.forall_mem_cons.2 ⟨hlead, hgaps⟩
  · cases items with
    | nil =>
        intro hrun hgap
        obtain ⟨p, hp⟩ := (Kind.isRun_iff _).1 hrun
        obtain ⟨c, tail, hrest, -⟩ := hclosed p hp
        obtain rfl : lead = [] := hgap
        simp at hrest
    | cons next items =>
        refine ⟨fun hrun hkind hgap => ?_, hsep⟩
        obtain ⟨p, hp⟩ := (Kind.isRun_iff _).1 hrun
        obtain ⟨c, tail, hrest, hc⟩ := hclosed p hp
        obtain ⟨d, tail', hspelling, hd⟩ := (hwf next.token (by simp)).firstChar
        obtain rfl : lead = [] := hgap
        obtain ⟨rfl, -⟩ : d = c ∧ _ := by
          simpa [Spaced.chars, hspelling] using hrest
        rw [(hd _ p hp).2 hkind] at hc
        contradiction

theorem layout_of_tokens {cs : List Char} {ts : List Token} (h : (tokens cs).outcome = .ok ts) :
    (∀ t ∈ ts, t.WellFormed) ∧ Layout ts cs := by
  fun_induction tokens cs generalizing ts with
  | case1 =>
      obtain rfl : [] = ts := by simpa using h
      exact ⟨by simp, layout_nil⟩
  | case2 => simp at h
  | case3 c cs t rest hlexeme ih =>
      obtain ⟨us, hus, rfl⟩ := Reading.outcome_map_eq_ok_iff.1 h
      obtain ⟨hwf, hlayout⟩ := ih hus
      cases t with
      | none =>
          obtain ⟨hc, rfl⟩ := lexeme_eq_blank_iff.1 hlexeme
          exact ⟨hwf, hlayout.blank_cons hc⟩
      | some t =>
          obtain ⟨ht, hcs, hclosed⟩ := lexeme_eq_token_iff.1 hlexeme
          rw [hcs]
          exact ⟨List.forall_mem_cons.2 ⟨ht, hwf⟩, hlayout.token_append hclosed hwf⟩

/-! ## Layouts are read back -/

theorem Spaced.Separated.closedBy {s : Spaced} {items : List Spaced}
    (hsep : Separated (s :: items)) (hgap : AllBlank s.gap)
    (hwf : ∀ u ∈ items, u.token.WellFormed) :
    s.token.ClosedBy (s.gap ++ items.flatMap Spaced.chars) := by
  intro p hp
  have hrun : s.token.kind.isRun = true := (Kind.isRun_iff _).2 ⟨p, hp⟩
  cases hchars : s.gap with
  | cons c gap =>
      have hc : Text.isBlank c = true := hgap c (by simp [hchars])
      exact ⟨c, _, rfl, Kind.runClass_eq_false_of_isBlank hp hc⟩
  | nil =>
      cases items with
      | nil => exact absurd hchars (hsep hrun)
      | cons next items =>
          -- without a gap the next token is of another kind, and begins outside the run
          have hkind : next.token.kind ≠ s.token.kind := fun h => hsep.1 hrun h hchars
          obtain ⟨c, tail, hspelling, hc⟩ := (hwf next (by simp)).firstChar
          refine ⟨c, tail ++ (next.gap ++ items.flatMap Spaced.chars), ?_, ?_⟩
          · simp [Spaced.chars, hspelling]
          · rw [Bool.eq_false_iff]
            exact fun h => hkind ((hc _ p hp).1 h)

theorem Spaced.Separated.tail {s : Spaced} {items : List Spaced}
    (hsep : Separated (s :: items)) : Separated items := by
  cases items with
  | nil => trivial
  | cons next items => exact hsep.2

theorem tokens_flatMap_chars {items : List Spaced} (hwf : ∀ s ∈ items, s.token.WellFormed)
    (hgaps : ∀ s ∈ items, AllBlank s.gap) (hsep : Spaced.Separated items) :
    tokens (items.flatMap Spaced.chars) = ⟨.ok (items.map Spaced.token), []⟩ := by
  induction items with
  | nil => exact tokens_nil
  | cons s items ih =>
      obtain ⟨hs, hwf'⟩ := List.forall_mem_cons.1 hwf
      obtain ⟨hgap, hgaps'⟩ := List.forall_mem_cons.1 hgaps
      rw [List.flatMap_cons, Spaced.chars, List.append_assoc,
        tokens_spelling_append hs (hsep.closedBy hgap hwf'),
        tokens_blank_append hgap, ih hwf' hgaps' hsep.tail]
      rfl

theorem tokens_of_layout {ts : List Token} {cs : List Char} (hwf : ∀ t ∈ ts, t.WellFormed)
    (h : Layout ts cs) : tokens cs = ⟨.ok ts, []⟩ := by
  obtain ⟨lead, items, rfl, rfl, hlead, hgaps, hsep⟩ := h
  rw [tokens_blank_append hlead]
  exact tokens_flatMap_chars (fun s hs => hwf _ (List.mem_map_of_mem hs)) hgaps hsep

end Token

theorem tokenize_eq (source : String) :
    tokenize source = (tokens source.toList).outcome.mapError
      (⟨·, source.toList.length - (tokens source.toList).rest.length⟩) := by
  simp [tokenize, Scanner.tokenize, Scanner.scan, Scanner.ofString, Cursor.run, Cursor.rest,
    Cursor.seek]

theorem tokenize_eq_ok {source : String} {ts : List Token} :
    tokenize source = .ok ts ↔ (tokens source.toList).outcome = .ok ts := by
  rw [tokenize_eq]
  cases (tokens source.toList).outcome <;> simp [Except.mapError]

/-- The scanner accepts exactly the layouts of well-formed tokens, and reads from each the tokens
that it lays out. -/
theorem tokenize_eq_ok_iff_layout (source : String) (ts : List Token) :
    tokenize source = .ok ts ↔
      (∀ t ∈ ts, t.WellFormed) ∧ Token.Layout ts source.toList := by
  rw [tokenize_eq_ok]
  constructor
  · exact Token.layout_of_tokens
  · rintro ⟨hwf, hlayout⟩
    rw [Token.tokens_of_layout hwf hlayout]

end SexprAsm
