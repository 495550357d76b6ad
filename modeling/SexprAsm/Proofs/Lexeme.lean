import SexprAsm.Proofs.CharClass
import SexprAsm.Proofs.Reading
import SexprAsm.Token.Scanner
import Mathlib.Data.List.TakeWhile

/-!
# What one lexeme is

The spelling of a token in a source, and the scanner's readers as equivalences: a reader returns a
value and a rest exactly when the characters are the spelling of the value followed by that rest,
and the rest closes the value if it is a run.
-/

namespace SexprAsm

namespace Token

/-- The class of the characters of a run; only numbers and identifiers are runs. -/
def Kind.runClass : Kind → Option (Char → Bool)
  | .number => some Char.isDigit
  | .ident => some Char.isAlpha
  | _ => none

def spelling (t : Token) : List Char :=
  match t.kind with
  | .string => '"' :: (t.text.toList ++ ['"'])
  | _ => t.text.toList

/-- The texts that the tokens of a source can have. -/
def WellFormed (t : Token) : Prop :=
  match t.kind with
  | .lparen => t.text = "("
  | .rparen => t.text = ")"
  | .number => t.text ≠ "" ∧ ∀ c ∈ t.text.toList, c.isDigit = true
  | .ident => t.text ≠ "" ∧ ∀ c ∈ t.text.toList, c.isAlpha = true
  | .string => '"' ∉ t.text.toList

/-- A run is closed by a character that does not belong to it; other tokens close themselves. -/
def ClosedBy (t : Token) (rest : List Char) : Prop :=
  ∀ p ∈ t.kind.runClass, ∃ c tail, rest = c :: tail ∧ p c = false

theorem Kind.runClass_eq_some {kind : Kind} {p : Char → Bool} (hp : kind.runClass = some p) :
    (kind = .number ∧ p = Char.isDigit) ∨ (kind = .ident ∧ p = Char.isAlpha) := by
  cases kind <;> simp_all [Kind.runClass]

theorem wellFormed_run {kind : Kind} {p : Char → Bool} (hp : kind.runClass = some p)
    {text : String} :
    (Token.mk kind text).WellFormed ↔ text ≠ "" ∧ ∀ c ∈ text.toList, p c = true := by
  rcases Kind.runClass_eq_some hp with ⟨rfl, rfl⟩ | ⟨rfl, rfl⟩ <;> rfl

theorem spelling_run {kind : Kind} {p : Char → Bool} (hp : kind.runClass = some p)
    (text : String) : (Token.mk kind text).spelling = text.toList := by
  rcases Kind.runClass_eq_some hp with ⟨rfl, rfl⟩ | ⟨rfl, rfl⟩ <;> rfl

end Token

namespace Scan

theorem closedRun_eq_ok_iff {p : Char → Bool} {cs run rest : List Char} :
    closedRun p cs = ⟨.ok run, rest⟩ ↔
      cs = run ++ rest ∧ (∀ c ∈ run, p c = true) ∧ ∃ c tail, rest = c :: tail ∧ p c = false := by
  constructor
  · intro h
    unfold closedRun at h
    split at h
    · simp at h
    · next c tail hdrop =>
        obtain ⟨hrun, hrest⟩ : cs.takeWhile p = run ∧ c :: tail = rest := by simpa using h
        subst hrun hrest
        refine ⟨?_, ?_, c, tail, rfl, ?_⟩
        · rw [← hdrop, List.takeWhile_append_dropWhile]
        · exact fun d hd => List.mem_takeWhile_imp hd
        · have hne : cs.dropWhile p ≠ [] := by simp [hdrop]
          have hhead := List.head_dropWhile_not p hne
          simpa [hdrop] using hhead
  · rintro ⟨rfl, hrun, c, tail, rfl, hc⟩
    have hdrop : (run ++ c :: tail).dropWhile p = c :: tail := by
      rw [List.dropWhile_append_of_pos hrun, List.dropWhile_cons_of_neg (by simp [hc])]
    have htake : (run ++ c :: tail).takeWhile p = run := by
      rw [List.takeWhile_append_of_pos hrun, List.takeWhile_cons_of_neg (by simp [hc]),
        List.append_nil]
    rw [closedRun, hdrop, htake]

theorem stringBody_eq_ok_iff {cs body rest : List Char} :
    stringBody cs = ⟨.ok body, rest⟩ ↔ cs = body ++ '"' :: rest ∧ '"' ∉ body := by
  constructor
  · intro h
    obtain ⟨houtcome, htail⟩ : (closedRun (· ≠ '"') cs).outcome = .ok body ∧
        (closedRun (· ≠ '"') cs).rest.tail = rest := by
      simpa [stringBody] using h
    have hrun : closedRun (· ≠ '"') cs = ⟨.ok body, (closedRun (· ≠ '"') cs).rest⟩ := by
      rw [← houtcome]
    obtain ⟨hcs, hbody, c, tail, hrest, hc⟩ := closedRun_eq_ok_iff.1 hrun
    have hquote : c = '"' := by simpa using hc
    rw [hrest, List.tail_cons] at htail
    refine ⟨?_, fun hmem => by simpa using hbody _ hmem⟩
    rw [← htail, ← hquote, ← hrest]
    exact hcs
  · rintro ⟨rfl, hbody⟩
    have hrun : closedRun (· ≠ '"') (body ++ '"' :: rest) = ⟨.ok body, '"' :: rest⟩ := by
      refine closedRun_eq_ok_iff.2 ⟨rfl, ?_, '"', rest, rfl, by simp⟩
      intro c hc
      simpa using fun h : c = '"' => hbody (h ▸ hc)
    rw [stringBody, hrun, List.tail_cons]

/-! ## The branches of the scanner

Each class of first characters has its own reader, whatever was tested before it. -/

@[simp] theorem lexeme_lparen (cs : List Char) : lexeme '(' cs = ⟨.ok (some .lparen), cs⟩ := rfl

@[simp] theorem lexeme_rparen (cs : List Char) : lexeme ')' cs = ⟨.ok (some .rparen), cs⟩ := rfl

@[simp] theorem lexeme_quote (cs : List Char) :
    lexeme '"' cs = (stringBody cs).map fun body => some ⟨.string, String.ofList body⟩ := rfl

theorem lexeme_blank {c : Char} (h : Text.isBlank c = true) (cs : List Char) :
    lexeme c cs = ⟨.ok none, cs⟩ := by
  have hopen : c ≠ '(' := ne_of_apply_ne Text.isBlank (by rw [h]; decide)
  have hclose : c ≠ ')' := ne_of_apply_ne Text.isBlank (by rw [h]; decide)
  rw [lexeme, if_neg hopen, if_neg hclose, if_pos h]

theorem lexeme_run {kind : Token.Kind} {p : Char → Bool} (hp : kind.runClass = some p) {c : Char}
    (hc : p c = true) (cs : List Char) :
    lexeme c cs = (closedRun p (c :: cs)).map fun run => some ⟨kind, String.ofList run⟩ := by
  -- a number is tried after the parentheses and blanks, an identifier also after digits and quotes
  rcases Token.Kind.runClass_eq_some hp with ⟨rfl, rfl⟩ | ⟨rfl, rfl⟩
  · have hopen : c ≠ '(' := ne_of_apply_ne Char.isDigit (by rw [hc]; decide)
    have hclose : c ≠ ')' := ne_of_apply_ne Char.isDigit (by rw [hc]; decide)
    have hblank := Text.not_isBlank_of_isDigit hc
    rw [lexeme, if_neg hopen, if_neg hclose, if_neg (by simp [hblank]), if_pos hc]
  · have hopen : c ≠ '(' := ne_of_apply_ne Char.isAlpha (by rw [hc]; decide)
    have hclose : c ≠ ')' := ne_of_apply_ne Char.isAlpha (by rw [hc]; decide)
    have hquote : c ≠ '"' := ne_of_apply_ne Char.isAlpha (by rw [hc]; decide)
    have hblank := Text.not_isBlank_of_isAlpha hc
    have hdigit := Text.not_isDigit_of_isAlpha hc
    rw [lexeme, if_neg hopen, if_neg hclose, if_neg (by simp [hblank]), if_neg (by simp [hdigit]),
      if_neg hquote, if_pos hc]

inductive FirstChar : Char → Prop
  | lparen : FirstChar '('
  | rparen : FirstChar ')'
  | quote : FirstChar '"'
  | blank {c : Char} (hc : Text.isBlank c = true) : FirstChar c
  | run {c : Char} (kind : Token.Kind) (p : Char → Bool) (hp : kind.runClass = some p)
      (hc : p c = true) : FirstChar c
  | illegal {c : Char} (hc : ∀ cs, lexeme c cs = ⟨.error (.illegalCharacter c), c :: cs⟩) :
      FirstChar c

theorem firstChar (c : Char) : FirstChar c := by
  by_cases hopen : c = '('
  · exact hopen ▸ .lparen
  by_cases hclose : c = ')'
  · exact hclose ▸ .rparen
  by_cases hquote : c = '"'
  · exact hquote ▸ .quote
  by_cases hblank : Text.isBlank c = true
  · exact .blank hblank
  by_cases hdigit : c.isDigit = true
  · exact .run .number _ rfl hdigit
  by_cases hletter : c.isAlpha = true
  · exact .run .ident _ rfl hletter
  · refine .illegal fun cs => ?_
    simp [lexeme, hopen, hclose, hquote, hblank, hdigit, hletter]

/-! ## Lexemes and spellings -/

theorem lexeme_eq_blank_iff {c : Char} {cs rest : List Char} :
    lexeme c cs = ⟨.ok none, rest⟩ ↔ Text.isBlank c = true ∧ cs = rest := by
  constructor
  · intro h
    cases firstChar c with
    | lparen => simp at h
    | rparen => simp at h
    | quote => simp [Reading.map_eq_ok_iff] at h
    | blank hc => exact ⟨hc, by simpa [lexeme_blank hc] using h⟩
    | run kind p hp hc => simp [lexeme_run hp hc, Reading.map_eq_ok_iff] at h
    | illegal hc => simp [hc] at h
  · rintro ⟨hc, rfl⟩
    exact lexeme_blank hc cs

theorem spelling_of_lexeme_run {kind : Token.Kind} {p : Char → Bool}
    (hp : kind.runClass = some p) {c : Char} (hc : p c = true) {cs rest : List Char} {t : Token}
    (h : lexeme c cs = ⟨.ok (some t), rest⟩) :
    t.WellFormed ∧ c :: cs = t.spelling ++ rest ∧ t.ClosedBy rest := by
  rw [lexeme_run hp hc, Reading.map_eq_ok_iff] at h
  obtain ⟨run, hrun, ht⟩ := h
  obtain ⟨hcs, hall, d, tail, hrest, hd⟩ := closedRun_eq_ok_iff.1 hrun
  obtain rfl : Token.mk kind (String.ofList run) = t := by simpa using ht
  -- the run has at least the character that made the scanner start it
  have hne : run ≠ [] := by
    rintro rfl
    obtain ⟨rfl, -⟩ : c = d ∧ cs = tail := by simpa [hrest] using hcs
    rw [hc] at hd
    contradiction
  refine ⟨(Token.wellFormed_run hp).2 ?_, ?_, ?_⟩
  · simpa [← String.toList_inj] using And.intro hne hall
  · simpa [Token.spelling_run hp] using hcs
  · intro q hq
    obtain rfl : p = q := by simpa [hp] using hq
    exact ⟨d, tail, hrest, hd⟩

theorem spelling_of_lexeme {c : Char} {cs rest : List Char} {t : Token}
    (h : lexeme c cs = ⟨.ok (some t), rest⟩) :
    t.WellFormed ∧ c :: cs = t.spelling ++ rest ∧ t.ClosedBy rest := by
  cases firstChar c with
  | lparen =>
      obtain ⟨rfl, rfl⟩ : Token.lparen = t ∧ cs = rest := by simpa using h
      exact ⟨rfl, rfl, by simp [Token.ClosedBy, Token.lparen, Token.Kind.runClass]⟩
  | rparen =>
      obtain ⟨rfl, rfl⟩ : Token.rparen = t ∧ cs = rest := by simpa using h
      exact ⟨rfl, rfl, by simp [Token.ClosedBy, Token.rparen, Token.Kind.runClass]⟩
  | quote =>
      rw [lexeme_quote, Reading.map_eq_ok_iff] at h
      obtain ⟨body, hbody, ht⟩ := h
      obtain ⟨rfl, hquote⟩ := stringBody_eq_ok_iff.1 hbody
      obtain rfl : Token.mk .string (String.ofList body) = t := by simpa using ht
      refine ⟨?_, ?_, by simp [Token.ClosedBy, Token.Kind.runClass]⟩
      · simpa [Token.WellFormed] using hquote
      · simp [Token.spelling]
  | blank hc => simp [lexeme_blank hc] at h
  | run kind p hp hc => exact spelling_of_lexeme_run hp hc h
  | illegal hc => simp [hc] at h

theorem lexeme_of_spelling_run {kind : Token.Kind} {p : Char → Bool}
    (hp : kind.runClass = some p) {text : String} (hwf : (Token.mk kind text).WellFormed)
    {c : Char} {cs rest : List Char} (hcs : c :: cs = (Token.mk kind text).spelling ++ rest)
    (hclosed : (Token.mk kind text).ClosedBy rest) :
    lexeme c cs = ⟨.ok (some ⟨kind, text⟩), rest⟩ := by
  obtain ⟨hne, hall⟩ := (Token.wellFormed_run hp).1 hwf
  rw [Token.spelling_run hp] at hcs
  have hc : p c = true := by
    cases hchars : text.toList with
    | nil => exact absurd (String.toList_eq_nil_iff.1 hchars) hne
    | cons d ds =>
        obtain ⟨rfl, -⟩ : c = d ∧ cs = ds ++ rest := by simpa [hchars] using hcs
        exact hall c (by simp [hchars])
  have hrun : closedRun p (c :: cs) = ⟨.ok text.toList, rest⟩ :=
    closedRun_eq_ok_iff.2 ⟨hcs, hall, hclosed p hp⟩
  rw [lexeme_run hp hc, hrun]
  simp [Reading.map, Except.map]

/-- The scanner reads a token exactly where a spelling of it stands, closed by what follows. -/
theorem lexeme_eq_token_iff {c : Char} {cs rest : List Char} {t : Token} :
    lexeme c cs = ⟨.ok (some t), rest⟩ ↔
      t.WellFormed ∧ c :: cs = t.spelling ++ rest ∧ t.ClosedBy rest := by
  refine ⟨spelling_of_lexeme, ?_⟩
  obtain ⟨kind, text⟩ := t
  rintro ⟨hwf, hcs, hclosed⟩
  cases kind with
  | lparen =>
      obtain rfl : text = "(" := hwf
      obtain ⟨rfl, rfl⟩ : c = '(' ∧ cs = rest := by simpa [Token.spelling] using hcs
      rfl
  | rparen =>
      obtain rfl : text = ")" := hwf
      obtain ⟨rfl, rfl⟩ : c = ')' ∧ cs = rest := by simpa [Token.spelling] using hcs
      rfl
  | string =>
      have hquote : '"' ∉ text.toList := hwf
      obtain ⟨rfl, rfl⟩ : c = '"' ∧ cs = text.toList ++ '"' :: rest := by
        simpa [Token.spelling] using hcs
      rw [lexeme_quote, stringBody_eq_ok_iff.2 ⟨rfl, hquote⟩]
      simp [Reading.map, Except.map]
  | number => exact lexeme_of_spelling_run rfl hwf hcs hclosed
  | ident => exact lexeme_of_spelling_run rfl hwf hcs hclosed

end Scan

end SexprAsm
