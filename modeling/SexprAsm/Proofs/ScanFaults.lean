import SexprAsm.Diagnostic
import SexprAsm.Proofs.Layout

/-!
# Where scanning fails

A source is refused at the first character that no source can have at that place: what stands before
it scans once a blank closes it, and whatever begins with it is refused there. A source that ends
inside a run or a string lacks one character, a blank or a quote.
-/

namespace SexprAsm

namespace Token

theorem closedBy_cons {t : Token} {c : Char} {cs : List Char} :
    t.ClosedBy (c :: cs) ↔ ∀ p ∈ t.kind.runClass, p c = false := by
  constructor
  · intro h p hp
    obtain ⟨d, tail, hcs, hd⟩ := h p hp
    obtain ⟨rfl, -⟩ : c = d ∧ cs = tail := by simpa using hcs
    exact hd
  · intro h p hp
    exact ⟨c, cs, rfl, h p hp⟩

theorem closedBy_blank (t : Token) {c : Char} (hc : Text.isBlank c = true) (cs : List Char) :
    t.ClosedBy (c :: cs) :=
  closedBy_cons.2 fun _ hp => Kind.runClass_eq_false_of_isBlank hp hc

theorem ClosedBy.append {t : Token} {cs : List Char} (h : t.ClosedBy cs) (more : List Char) :
    t.ClosedBy (cs ++ more) := by
  intro p hp
  obtain ⟨c, tail, rfl, hc⟩ := h p hp
  exact ⟨c, tail ++ more, rfl, hc⟩

theorem ClosedBy.change_tail {t : Token} {before after : List Char} {c : Char}
    (h : t.ClosedBy (before ++ c :: after)) (more : List Char) :
    t.ClosedBy (before ++ c :: more) := by
  cases before with
  | nil => exact closedBy_cons.2 (closedBy_cons.1 h)
  | cons d before => exact closedBy_cons.2 (closedBy_cons.1 h)

theorem ClosedBy.change_to_blank {t : Token} {before after : List Char} {c b : Char}
    (h : t.ClosedBy (before ++ c :: after)) (hb : Text.isBlank b = true) :
    t.ClosedBy (before ++ [b]) := by
  cases before with
  | nil => exact closedBy_blank t hb []
  | cons d before => exact closedBy_cons.2 (closedBy_cons.1 h)

end Token

namespace Scan

/-! ## One lexeme -/

/-- A lexeme is read from characters of its own. In front of anything that closes it, the scanner
reads it from them again. -/
theorem tokens_of_lexeme_append {c : Char} {cs rest : List Char} {t : Option Token}
    (h : lexeme c cs = ⟨.ok t, rest⟩) :
    ∃ used, c :: cs = used ++ rest ∧ (∀ u ∈ t, u.ClosedBy rest) ∧
      ∀ rest', (∀ u ∈ t, u.ClosedBy rest') →
        tokens (used ++ rest') = (tokens rest').map (t.toList ++ ·) := by
  cases t with
  | none =>
      obtain ⟨hc, rfl⟩ := lexeme_eq_blank_iff.1 h
      refine ⟨[c], rfl, by simp, fun rest' _ => ?_⟩
      exact tokens_of_lexeme (lexeme_blank hc rest')
  | some u =>
      obtain ⟨hwf, hcs, hclosed⟩ := lexeme_eq_token_iff.1 h
      refine ⟨u.spelling, hcs, by simpa using hclosed, fun rest' hclosed' => ?_⟩
      exact tokens_spelling_append hwf (hclosed' u rfl)

theorem closedRun_eq_error_iff {p : Char → Bool} {cs rest : List Char} {cause : ScanCause} :
    closedRun p cs = ⟨.error cause, rest⟩ ↔
      cause = .unexpectedEnd ∧ rest = [] ∧ ∀ c ∈ cs, p c = true := by
  unfold closedRun
  rw [← List.dropWhile_eq_nil_iff]
  split
  · next h => simp [h, eq_comm]
  · next c tail h => simp [h]

theorem stringBody_of_error {cs rest : List Char} {cause : ScanCause}
    (h : stringBody cs = ⟨.error cause, rest⟩) : cause = .unexpectedEnd ∧ rest = [] ∧ '"' ∉ cs := by
  obtain ⟨houtcome, htail⟩ : (closedRun (· ≠ '"') cs).outcome = .error cause ∧
      (closedRun (· ≠ '"') cs).rest.tail = rest := by
    simpa [stringBody] using h
  have hrun : closedRun (· ≠ '"') cs = ⟨.error cause, (closedRun (· ≠ '"') cs).rest⟩ := by
    rw [← houtcome]
  obtain ⟨hcause, hrest, hall⟩ := closedRun_eq_error_iff.1 hrun
  refine ⟨hcause, ?_, fun hquote => by simpa using hall _ hquote⟩
  rw [← htail, hrest, List.tail_nil]

/-- One more character, a blank or a quote, makes a source of the characters. -/
def LacksOne (cs : List Char) : Prop :=
  ∃ x ∈ [' ', '"'], ∃ ts, tokens (cs ++ [x]) = ⟨.ok ts, []⟩

theorem tokens_space : tokens [' '] = ⟨.ok [], []⟩ := by
  rw [tokens_of_lexeme (lexeme_blank (by decide) []), tokens_nil]
  rfl

theorem lacksOne_run {kind : Token.Kind} {p : Char → Bool} (hp : kind.runClass = some p)
    {c : Char} {cs : List Char} (h : ∀ d ∈ c :: cs, p d = true) : LacksOne (c :: cs) := by
  have hwf : (Token.mk kind (String.ofList (c :: cs))).WellFormed :=
    (Token.wellFormed_run hp).2 ⟨by simp [← String.toList_inj], by simpa using h⟩
  have hclosed : (Token.mk kind (String.ofList (c :: cs))).ClosedBy [' '] :=
    Token.closedBy_blank _ (by decide) []
  have hscan := tokens_spelling_append hwf hclosed
  rw [Token.spelling_run hp, String.toList_ofList, tokens_space] at hscan
  exact ⟨' ', by simp, _, hscan⟩

theorem lacksOne_string {cs : List Char} (h : '"' ∉ cs) : LacksOne ('"' :: cs) := by
  have hwf : (Token.mk .string (String.ofList cs)).WellFormed := by
    simpa [Token.WellFormed] using h
  have hclosed : (Token.mk .string (String.ofList cs)).ClosedBy [] := by
    simp [Token.ClosedBy, Token.Kind.runClass]
  have hscan := tokens_spelling_append hwf hclosed
  rw [tokens_nil, Token.spelling, String.toList_ofList, List.append_nil] at hscan
  exact ⟨'"', by simp, _, hscan⟩

theorem lexeme_error_cases {c : Char} {cs rest : List Char} {cause : ScanCause}
    (h : lexeme c cs = ⟨.error cause, rest⟩) :
    (cause = .illegalCharacter c ∧ rest = c :: cs ∧
        ∀ more, lexeme c more = ⟨.error (.illegalCharacter c), c :: more⟩) ∨
      (cause = .unexpectedEnd ∧ rest = [] ∧ LacksOne (c :: cs)) := by
  cases firstChar c with
  | lparen => simp at h
  | rparen => simp at h
  | blank hc => simp [lexeme_blank hc] at h
  | illegal hc =>
      obtain ⟨rfl, rfl⟩ : cause = .illegalCharacter c ∧ rest = c :: cs := by
        simpa [hc, eq_comm] using h
      exact .inl ⟨rfl, rfl, hc⟩
  | quote =>
      rw [lexeme_quote, Reading.map_eq_error_iff] at h
      obtain ⟨rfl, rfl, hquote⟩ := stringBody_of_error h
      exact .inr ⟨rfl, rfl, lacksOne_string hquote⟩
  | run kind p hp hc =>
      rw [lexeme_run hp hc, Reading.map_eq_error_iff] at h
      obtain ⟨rfl, rfl, hall⟩ := closedRun_eq_error_iff.1 h
      exact .inr ⟨rfl, rfl, lacksOne_run hp hall⟩

theorem rest_lexeme_suffix {c : Char} {cs rest : List Char}
    {outcome : Except ScanCause (Option Token)} (h : lexeme c cs = ⟨outcome, rest⟩) :
    rest <:+ c :: cs := by
  cases outcome with
  | error cause =>
      rcases lexeme_error_cases h with ⟨-, rfl, -⟩ | ⟨-, rfl, -⟩
      · exact List.suffix_refl _
      · exact List.nil_suffix
  | ok t =>
      obtain ⟨used, hused, -⟩ := tokens_of_lexeme_append h
      exact ⟨used, hused.symm⟩

/-! ## Whole sources -/

theorem rest_tokens_suffix (cs : List Char) : (tokens cs).rest <:+ cs := by
  fun_induction tokens cs with
  | case1 => exact List.suffix_refl _
  | case2 c cs cause rest hlexeme => exact rest_lexeme_suffix hlexeme
  | case3 c cs t rest hlexeme ih => exact ih.trans (rest_lexeme_suffix hlexeme)

/-- A source that begins with these characters is refused at the last of them, and the others would
scan if a blank followed. -/
structure RefusedAt (before : List Char) (c : Char) : Prop where
  before_scans : ∃ ts, tokens (before ++ [' ']) = ⟨.ok ts, []⟩
  final : ∀ more, tokens (before ++ c :: more) = ⟨.error (.illegalCharacter c), c :: more⟩

theorem tokens_error_cases {cs rest : List Char} {cause : ScanCause}
    (h : tokens cs = ⟨.error cause, rest⟩) :
    (∃ before c after, cs = before ++ c :: after ∧ rest = c :: after ∧
        cause = .illegalCharacter c ∧ RefusedAt before c) ∨
      (cause = .unexpectedEnd ∧ rest = [] ∧ LacksOne cs) := by
  fun_induction tokens cs with
  | case1 => simp at h
  | case2 c cs cause' rest' hlexeme =>
      obtain ⟨rfl, rfl⟩ : cause' = cause ∧ rest' = rest := by simpa using h
      rcases lexeme_error_cases hlexeme with ⟨rfl, rfl, hillegal⟩ | hend
      · refine .inl ⟨[], c, cs, rfl, rfl, rfl, ⟨[], tokens_space⟩, fun more => ?_⟩
        rw [List.nil_append, tokens_cons, hillegal]
      · exact .inr hend
  | case3 c cs t rest' hlexeme ih =>
      obtain ⟨used, hused, hclosed, hread⟩ := tokens_of_lexeme_append hlexeme
      rw [Reading.map_eq_error_iff] at h
      rcases ih h with ⟨before, d, after, rfl, hrest, hcause, hrefused⟩ | ⟨hcause, hrest, hlacks⟩
      · refine .inl ⟨used ++ before, d, after, by rw [hused, List.append_assoc], hrest, hcause,
          ?_, fun more => ?_⟩
        · obtain ⟨ts, hts⟩ := hrefused.before_scans
          refine ⟨t.toList ++ ts, ?_⟩
          rw [List.append_assoc, hread _ fun u hu => (hclosed u hu).change_to_blank (by decide),
            hts]
          rfl
        · rw [List.append_assoc, hread _ fun u hu => (hclosed u hu).change_tail more,
            hrefused.final]
          rfl
      · obtain ⟨x, hx, ts, hts⟩ := hlacks
        refine .inr ⟨hcause, hrest, x, hx, t.toList ++ ts, ?_⟩
        rw [hused, List.append_assoc, hread _ fun u hu => (hclosed u hu).append [x], hts]
        rfl

end Scan

open Scan

theorem tokenize_eq_error_iff {source : String} {cause : ScanCause} {pos : Nat} :
    tokenize source = .error ⟨cause, pos⟩ ↔
      ∃ rest, tokens source.toList = ⟨.error cause, rest⟩ ∧
        pos = source.toList.length - rest.length := by
  rw [tokenize_eq]
  obtain ⟨outcome, rest⟩ := tokens source.toList
  cases outcome <;> simp [Except.mapError, eq_comm, and_assoc]

theorem tokenize_ofList_append {cs : List Char} {more : String} {ts : List Token} :
    tokenize (String.ofList cs ++ more) = .ok ts ↔
      (tokens (cs ++ more.toList)).outcome = .ok ts := by
  rw [tokenize_eq_ok, String.toList_append, String.toList_ofList]

theorem tokenize_of_illegalCharacter {source : String} {pos : Nat} {c : Char}
    (h : tokenize source = .error ⟨.illegalCharacter c, pos⟩) :
    source.toList[pos]? = some c ∧
      (∃ ts, tokenize (String.ofList (source.toList.take pos) ++ " ") = .ok ts) ∧
      ∀ more, tokenize (String.ofList (source.toList.take (pos + 1)) ++ more) =
        .error ⟨.illegalCharacter c, pos⟩ := by
  obtain ⟨rest, hscan, hpos⟩ := tokenize_eq_error_iff.1 h
  rcases tokens_error_cases hscan with ⟨before, d, after, hcs, rfl, hcause, hrefused⟩ | ⟨hend, -⟩
  · obtain rfl : c = d := by simpa using hcause
    obtain rfl : pos = before.length := by
      rw [hpos, hcs, List.length_append, Nat.add_sub_cancel]
    have htake : source.toList.take (before.length + 1) = before ++ [c] := by
      simp [hcs, List.take_append, List.take_of_length_le]
    refine ⟨by simp [hcs], ?_, fun more => ?_⟩
    · obtain ⟨ts, hts⟩ := hrefused.before_scans
      refine ⟨ts, tokenize_ofList_append.2 ?_⟩
      rw [hcs, List.take_left]
      exact congrArg Reading.outcome hts
    · have hmore : (String.ofList (source.toList.take (before.length + 1)) ++ more).toList =
          before ++ c :: more.toList := by
        simp [htake]
      refine tokenize_eq_error_iff.2 ⟨c :: more.toList, ?_, ?_⟩
      · rw [hmore]
        exact hrefused.final more.toList
      · rw [hmore, List.length_append, Nat.add_sub_cancel]
  · simp at hend

theorem tokenize_of_unexpectedEnd {source : String} {pos : Nat}
    (h : tokenize source = .error ⟨.unexpectedEnd, pos⟩) :
    pos = source.length ∧
      ((∃ ts, tokenize (source ++ " ") = .ok ts) ∨ ∃ ts, tokenize (source ++ "\"") = .ok ts) := by
  obtain ⟨rest, hscan, hpos⟩ := tokenize_eq_error_iff.1 h
  rcases tokens_error_cases hscan with ⟨before, d, after, -, -, hcause, -⟩ | ⟨-, rfl, hlacks⟩
  · simp at hcause
  · refine ⟨by simpa [String.length_toList] using hpos, ?_⟩
    obtain ⟨x, hx, ts, hts⟩ := hlacks
    have hscans : tokenize (source ++ String.singleton x) = .ok ts := by
      rw [tokenize_eq_ok, String.toList_append, String.toList_singleton, hts]
    obtain rfl | rfl : x = ' ' ∨ x = '"' := by simpa using hx
    · exact .inl ⟨ts, hscans⟩
    · exact .inr ⟨ts, hscans⟩

theorem exists_illegalCharacter_iff (source : String) :
    (∃ c pos, tokenize source = .error ⟨.illegalCharacter c, pos⟩) ↔
      ∀ more ts, tokenize (source ++ more) ≠ .ok ts := by
  constructor
  · rintro ⟨c, pos, h⟩ more ts hts
    obtain ⟨-, -, hfinal⟩ := tokenize_of_illegalCharacter h
    have hsplit : String.ofList (source.toList.take (pos + 1)) ++
        (String.ofList (source.toList.drop (pos + 1)) ++ more) = source ++ more := by
      rw [← String.append_assoc, ← String.ofList_append, List.take_append_drop,
        String.ofList_toList]
    rw [← hsplit, hfinal] at hts
    contradiction
  · intro hnone
    cases h : tokenize source with
    | ok ts => exact absurd (by simpa using h) (hnone "" ts)
    | error f =>
        obtain ⟨cause, pos⟩ := f
        cases cause with
        | illegalCharacter c => exact ⟨c, pos, rfl⟩
        | unexpectedEnd =>
            rcases (tokenize_of_unexpectedEnd h).2 with ⟨ts, hts⟩ | ⟨ts, hts⟩
            · exact absurd hts (hnone _ ts)
            · exact absurd hts (hnone _ ts)

/-! ## Scanners in use -/

namespace Scanner

/-- The scanners that come about by running steps on a fresh one. -/
inductive Reached (source : String) : Scanner → Prop
  | fresh : Reached source (ofString source)
  | seek {s : Scanner} (h : Reached source s) (pos : Nat) : Reached source (s.seek pos)
  | readRun {s : Scanner} (h : Reached source s) (p : Char → Bool) : Reached source (s.readRun p).2
  | readString {s : Scanner} (h : Reached source s) : Reached source s.readString.2
  | tokenize {s : Scanner} (h : Reached source s) : Reached source s.tokenize.2

theorem Reached.items_eq {source : String} {s : Scanner} (h : Reached source s) :
    s.items = source.toList := by
  induction h with
  | fresh => rfl
  | seek _ _ ih => exact ih
  | readRun _ _ ih => exact ih
  | readString _ ih => exact ih
  | tokenize _ ih => exact ih

theorem Reached.tokenize_eq {source : String} {s : Scanner} (h : Reached source s) :
    s.tokenize = (SexprAsm.tokenize source,
      { items := source.toList,
        pos := source.toList.length - (tokens source.toList).rest.length }) := by
  obtain ⟨items, pos⟩ := s
  obtain rfl : items = source.toList := h.items_eq
  simp [Scanner.tokenize, scan, SexprAsm.tokenize_eq, Cursor.run, Cursor.rest, Cursor.seek]

end Scanner

theorem rest_tokens_of_ok {cs : List Char} {ts : List Token} (h : (tokens cs).outcome = .ok ts) :
    (tokens cs).rest = [] := by
  obtain ⟨hwf, hlayout⟩ := Token.layout_of_tokens h
  rw [Token.tokens_of_layout hwf hlayout]

theorem pos_tokenize_of_reached {source : String} {s : Scanner} (h : Scanner.Reached source s) :
    s.tokenize.1 = tokenize source ∧
      (∀ f, tokenize source = .error f → s.tokenize.2.pos = f.pos) ∧
      ∀ ts, tokenize source = .ok ts → s.tokenize.2.pos = source.length := by
  rw [h.tokenize_eq]
  refine ⟨rfl, fun f hf => ?_, fun ts hts => ?_⟩
  · obtain ⟨rest, hscan, hpos⟩ := tokenize_eq_error_iff.1 hf
    rw [hscan]
    exact hpos.symm
  · rw [rest_tokens_of_ok (tokenize_eq_ok.1 hts)]
    exact String.length_toList

/-- Faults of the scanner are exact. An illegal character stands where the fault says, what is
before it scans, and whatever begins like the source up to it fails in the same way. A source that
ends too early lacks one character. So an illegal character means that no continuation scans. The
position after scanning is that of the fault, or the end, whatever was done with the scanner
before. -/
theorem tokenize_faults_exact (source : String) :
    (∀ f, tokenize source = .error f → f.diagnostic.detail = "illegal character" →
      ∃ c, f.diagnostic.place = .source f.pos (String.singleton c) ∧
        f.pos < source.length ∧ source.toList[f.pos]? = some c ∧
        (∃ ts, tokenize (String.ofList (source.toList.take f.pos) ++ " ") = .ok ts) ∧
        ∀ more, tokenize (String.ofList (source.toList.take (f.pos + 1)) ++ more) = .error f) ∧
    (∀ f, tokenize source = .error f → f.diagnostic.detail = "unexpected end of input" →
      f.pos = source.length ∧ f.diagnostic.place = .source f.pos "" ∧
        ((∃ ts, tokenize (source ++ " ") = .ok ts) ∨ ∃ ts, tokenize (source ++ "\"") = .ok ts)) ∧
    ((∃ f, tokenize source = .error f ∧ f.diagnostic.detail = "illegal character") ↔
      ∀ more ts, tokenize (source ++ more) ≠ .ok ts) ∧
    ∀ s, Scanner.Reached source s →
      s.tokenize.1 = tokenize source ∧
        (∀ f, tokenize source = .error f → s.tokenize.2.pos = f.pos) ∧
        ∀ ts, tokenize source = .ok ts → s.tokenize.2.pos = source.length := by
  refine ⟨?_, ?_, ?_, fun s => pos_tokenize_of_reached⟩
  · rintro ⟨cause, pos⟩ h hdetail
    cases cause with
    | unexpectedEnd => simp [ScanFault.diagnostic] at hdetail
    | illegalCharacter c =>
        obtain ⟨hc, hbefore, hfinal⟩ := tokenize_of_illegalCharacter h
        have hpos : pos < source.length := by
          rw [← String.length_toList]
          exact (List.getElem?_eq_some_iff.1 hc).1
        exact ⟨c, rfl, hpos, hc, hbefore, hfinal⟩
  · rintro ⟨cause, pos⟩ h hdetail
    cases cause with
    | illegalCharacter c => simp [ScanFault.diagnostic] at hdetail
    | unexpectedEnd =>
        obtain ⟨hpos, hscans⟩ := tokenize_of_unexpectedEnd h
        exact ⟨hpos, rfl, hscans⟩
  · rw [← exists_illegalCharacter_iff]
    constructor
    · rintro ⟨⟨cause, pos⟩, h, hdetail⟩
      cases cause with
      | unexpectedEnd => simp [ScanFault.diagnostic] at hdetail
      | illegalCharacter c => exact ⟨c, pos, h⟩
    · rintro ⟨c, pos, h⟩
      exact ⟨_, h, rfl⟩

theorem tokenize_faults_exact_cases :
    tokenize "(add 12$" = .error ⟨.illegalCharacter '$', 7⟩ ∧
      (∀ more, tokenize ("(add 12$" ++ more) = .error ⟨.illegalCharacter '$', 7⟩) ∧
      tokenize "(say \"x)" = .error ⟨.unexpectedEnd, 8⟩ ∧
      ((∃ ts, tokenize "(say \"x) " = .ok ts) ∨ ∃ ts, tokenize "(say \"x)\"" = .ok ts) := by
  have hillegal : tokenize "(add 12$" = .error ⟨.illegalCharacter '$', 7⟩ := by decide +kernel
  have hend : tokenize "(say \"x)" = .error ⟨.unexpectedEnd, 8⟩ := by decide +kernel
  obtain ⟨c, -, -, -, -, hfinal⟩ := (tokenize_faults_exact "(add 12$").1 _ hillegal rfl
  obtain ⟨-, -, hscans⟩ := (tokenize_faults_exact "(say \"x)").2.1 _ hend rfl
  exact ⟨hillegal, hfinal, hend, hscans⟩

end SexprAsm
