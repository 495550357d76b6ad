import SexprAsm.Proofs.IgnoredTexts
import SexprAsm.Proofs.LimitAgreement

/-!
# Line ends

A source may end its lines in any of three ways. Outside strings a line end is a blank, and inside
them it is a character like any other but the quote. So unifying the line ends of a source changes
the texts of its strings and the positions in it, and nothing that a listing or the headline of a
fault shows.
-/

namespace SexprAsm

namespace Text

theorem unifyNewlines_cons_of_ne {c : Char} (hc : c ≠ '\r') (cs : List Char) :
    unifyNewlines (c :: cs) = c :: unifyNewlines cs := by
  rw [unifyNewlines.eq_3 c cs fun _ h _ => hc h, if_neg hc]

/-- A carriage return is one line end with the line feed after it, if there is one. -/
theorem unifyNewlines_cr (cs : List Char) :
    ∃ rest, unifyNewlines ('\r' :: cs) = '\n' :: unifyNewlines rest ∧
      (cs = rest ∨ cs = '\n' :: rest) := by
  cases cs with
  | nil => exact ⟨[], rfl, .inl rfl⟩
  | cons c cs =>
      by_cases hc : c = '\n'
      · subst hc
        exact ⟨cs, rfl, .inr rfl⟩
      · refine ⟨c :: cs, ?_, .inl rfl⟩
        rw [unifyNewlines.eq_3 _ _ fun _ _ h => hc (List.cons.inj h).1]
        rfl

theorem unifyNewlines_eq_nil_iff {cs : List Char} : unifyNewlines cs = [] ↔ cs = [] := by
  fun_cases unifyNewlines cs <;> simp

theorem dropWhile_unifyNewlines {p : Char → Bool} (h : p '\r' = p '\n') (cs : List Char) :
    (unifyNewlines cs).dropWhile p = unifyNewlines (cs.dropWhile p) := by
  fun_induction unifyNewlines cs with
  | case1 => rfl
  -- a run of the class does not end between the two characters of a line end
  | case2 cs ih => cases hp : p '\n' <;> simp [hp, h, ih, unifyNewlines]
  | case3 c cs hcrlf ih =>
      have hclass : p (if c = '\r' then '\n' else c) = p c := by
        split
        · next hc => rw [hc, h]
        · rfl
      cases hp : p c with
      | true => rw [List.dropWhile_cons_of_pos (hclass.trans hp), ih, List.dropWhile_cons_of_pos hp]
      | false =>
          rw [List.dropWhile_cons_of_neg (by simp [hclass, hp]),
            List.dropWhile_cons_of_neg (by simp [hp]), unifyNewlines.eq_3 c cs hcrlf]

theorem takeWhile_unifyNewlines {p : Char → Bool} (hcr : p '\r' = false) (hlf : p '\n' = false)
    (cs : List Char) : (unifyNewlines cs).takeWhile p = cs.takeWhile p := by
  fun_induction unifyNewlines cs with
  | case1 => rfl
  | case2 cs ih => simp [hcr, hlf]
  | case3 c cs hcrlf ih =>
      by_cases hc : c = '\r'
      · simp [hc, hcr, hlf]
      · simp [hc, List.takeWhile_cons, ih]

end Text

/-! ## Scanning -/

def Reading.unifyRest {ε α : Type} (r : Reading Char ε α) : Reading Char ε α :=
  { r with rest := Text.unifyNewlines r.rest }

namespace Scan

open Text (unifyNewlines)

theorem closedRun_eq (p : Char → Bool) (cs : List Char) :
    closedRun p cs =
      ⟨if cs.dropWhile p = [] then .error .unexpectedEnd else .ok (cs.takeWhile p),
        cs.dropWhile p⟩ := by
  unfold closedRun
  cases cs.dropWhile p <;> rfl

theorem closedRun_unifyNewlines {p : Char → Bool} (hcr : p '\r' = false) (hlf : p '\n' = false)
    (cs : List Char) : closedRun p (unifyNewlines cs) = (closedRun p cs).unifyRest := by
  have hdrop := Text.dropWhile_unifyNewlines (hcr.trans hlf.symm) cs
  rw [closedRun_eq, closedRun_eq, hdrop, Text.takeWhile_unifyNewlines hcr hlf]
  simp only [Text.unifyNewlines_eq_nil_iff, Reading.unifyRest]

theorem stringBody_unifyNewlines (cs : List Char) :
    (stringBody (unifyNewlines cs)).map (fun _ => ()) =
      ((stringBody cs).map fun _ => ()).unifyRest := by
  have hdrop := Text.dropWhile_unifyNewlines (p := (· ≠ '"')) (by decide) cs
  unfold stringBody
  rw [closedRun_eq, closedRun_eq, hdrop]
  cases hrest : cs.dropWhile (· ≠ '"') with
  | nil => rfl
  | cons c rest =>
      have hquote : c = '"' := by
        have hne : cs.dropWhile (· ≠ '"') ≠ [] := by
          rw [hrest]
          exact List.cons_ne_nil c rest
        have hhead := List.head_dropWhile_not (· ≠ '"') hne
        simp only [hrest, List.head_cons] at hhead
        simpa using hhead
      rw [hquote, Text.unifyNewlines_cons_of_ne (by decide)]
      rfl

theorem lexeme_unifyNewlines {c : Char} (hc : c ≠ '\r') (cs : List Char) :
    (lexeme c (unifyNewlines cs)).map (Option.map Token.gist) =
      ((lexeme c cs).map (Option.map Token.gist)).unifyRest := by
  have hcons := Text.unifyNewlines_cons_of_ne hc cs
  cases firstChar c with
  | lparen => rfl
  | rparen => rfl
  | quote =>
      have hgist : ∀ r : Reading Char ScanCause (List Char),
          (r.map fun body => some (Token.mk .string (String.ofList body))).map
            (Option.map Token.gist) =
          (r.map fun _ => ()).map fun _ => some ⟨.string, ""⟩ := by
        intro r
        rw [Reading.map_map, Reading.map_map]
        rfl
      rw [lexeme_quote, lexeme_quote, hgist, hgist, stringBody_unifyNewlines]
      rfl
  | blank hblank =>
      rw [lexeme_blank hblank, lexeme_blank hblank]
      rfl
  | run kind p hp hfirst =>
      have hlf : p '\n' = false := Token.Kind.runClass_eq_false_of_isBlank hp (by decide)
      have hcr : p '\r' = false := Token.Kind.runClass_eq_false_of_isBlank hp (by decide)
      rw [lexeme_run hp hfirst, lexeme_run hp hfirst, ← hcons, closedRun_unifyNewlines hcr hlf]
      rfl
  | illegal hillegal =>
      rw [hillegal, hillegal, ← hcons]
      rfl

theorem lexeme_unifyNewlines_cases {c : Char} (hc : c ≠ '\r') (cs : List Char) :
    (∃ cause rest rest', lexeme c cs = ⟨.error cause, rest⟩ ∧
      lexeme c (unifyNewlines cs) = ⟨.error cause, rest'⟩) ∨
    ∃ t t' rest, lexeme c cs = ⟨.ok t, rest⟩ ∧
      lexeme c (unifyNewlines cs) = ⟨.ok t', unifyNewlines rest⟩ ∧
      t'.map Token.gist = t.map Token.gist := by
  have hboth := lexeme_unifyNewlines hc cs
  generalize lexeme c cs = r at hboth ⊢
  generalize lexeme c (unifyNewlines cs) = r' at hboth ⊢
  obtain ⟨outcome, rest⟩ := r
  obtain ⟨outcome', rest'⟩ := r'
  cases outcome <;> cases outcome' <;>
    simp [Reading.map, Reading.unifyRest, Except.map] at hboth
  case error.error cause cause' =>
    obtain ⟨rfl, -⟩ := hboth
    exact .inl ⟨_, _, _, rfl, rfl⟩
  case ok.ok t t' =>
    obtain ⟨hgist, rfl⟩ := hboth
    exact .inr ⟨t, t', rest, rfl, rfl, hgist⟩

theorem tokens_blank_cons {c : Char} (hc : Text.isBlank c = true) (cs : List Char) :
    tokens (c :: cs) = tokens cs := by
  rw [tokens_of_lexeme (lexeme_blank hc cs)]
  exact Reading.map_id _

theorem tokens_cr {cs rest : List Char} (h : cs = rest ∨ cs = '\n' :: rest) :
    tokens ('\r' :: cs) = tokens rest := by
  rw [tokens_blank_cons (by decide)]
  rcases h with rfl | rfl
  · rfl
  · exact tokens_blank_cons (by decide) rest

theorem gist_outcome_append (t : Option Token) (r : Reading Char ScanCause (List Token)) :
    (r.map (t.toList ++ ·)).outcome.map (List.map Token.gist) =
      (r.outcome.map (List.map Token.gist)).map ((t.map Token.gist).toList ++ ·) := by
  obtain ⟨outcome, rest⟩ := r
  cases outcome with
  | error cause => rfl
  | ok ts => cases t <;> rfl

/-- The line ends of a source make no difference to why scanning fails, nor to the gist of the
tokens. -/
theorem tokens_unifyNewlines (cs : List Char) :
    (tokens (unifyNewlines cs)).outcome.map (List.map Token.gist) =
      (tokens cs).outcome.map (List.map Token.gist) := by
  induction hlength : cs.length using Nat.strong_induction_on generalizing cs with
  | _ length ih =>
      cases cs with
      | nil => rfl
      | cons c cs =>
          by_cases hc : c = '\r'
          · subst hc
            obtain ⟨rest, hunify, hrest⟩ := Text.unifyNewlines_cr cs
            have hshorter : rest.length < length := by
              rcases hrest with rfl | rfl <;> simp at hlength <;> omega
            rw [hunify, tokens_blank_cons (by decide), tokens_cr hrest]
            exact ih rest.length hshorter rest rfl
          · rw [Text.unifyNewlines_cons_of_ne hc]
            rcases lexeme_unifyNewlines_cases hc cs with
              ⟨cause, rest, rest', hread, hread'⟩ | ⟨t, t', rest, hread, hread', hgist⟩
            · rw [tokens_cons, tokens_cons, hread, hread']
            · have hshorter := lexeme_rest_length_lt hread
              rw [tokens_of_lexeme hread, tokens_of_lexeme hread', gist_outcome_append,
                gist_outcome_append, hgist, ih rest.length (hlength ▸ hshorter) rest rfl]

end Scan

/-! ## Compiling -/

/-- The text with its line ends unified. -/
def Text.unified (s : String) : String :=
  String.ofList (unifyNewlines s.toList)

theorem tokenize_unified (source : String) :
    (∃ ts us, tokenize (Text.unified source) = .ok ts ∧ tokenize source = .ok us ∧
      List.Forall₂ Token.Alike ts us) ∨
    ∃ f g, tokenize (Text.unified source) = .error f ∧ tokenize source = .error g ∧
      f.cause = g.cause := by
  have hgist := Scan.tokens_unifyNewlines source.toList
  rw [tokenize_eq, tokenize_eq, Text.unified, String.toList_ofList]
  generalize Scan.tokens (Text.unifyNewlines source.toList) = found at hgist ⊢
  generalize Scan.tokens source.toList = found' at hgist ⊢
  obtain ⟨outcome, rest⟩ := found
  obtain ⟨outcome', rest'⟩ := found'
  cases outcome <;> cases outcome' <;> simp [Except.map] at hgist
  case error.error cause cause' => exact .inr ⟨_, _, rfl, rfl, hgist⟩
  case ok.ok ts us => exact .inl ⟨ts, us, rfl, rfl, Token.forall₂_alike_iff.2 hgist⟩

theorem ScanFault.headline_eq {f g : ScanFault} (h : f.cause = g.cause) :
    (Fault.scan f).headline = (Fault.scan g).headline := by
  obtain ⟨cause, pos⟩ := f
  obtain ⟨cause', pos'⟩ := g
  obtain rfl : cause = cause' := h
  cases cause <;> rfl

theorem compile_unified (options : CompileOptions) (source : String) :
    (∃ listing, compile options (Text.unified source) = .ok listing ∧
      compile options source = .ok listing) ∨
    ∃ f g, compile options (Text.unified source) = .error f ∧ compile options source = .error g ∧
      f.headline = g.headline := by
  rw [compile_eq, compile_eq]
  rcases tokenize_unified source with ⟨ts, us, hts, hus, halike⟩ | ⟨f, g, hf, hg, hcause⟩
  · rw [hts, hus]
    rcases assemble_alike options halike with hlisting | ⟨f, g, hf, hg, hfail⟩
    · exact .inl hlisting
    · exact .inr ⟨f, g, hf, hg, hfail.headline⟩
  · rw [hf, hg]
    exact .inr ⟨_, _, rfl, rfl, ScanFault.headline_eq hcause⟩

theorem ofSource_unified (maxDepth : Int) (source : String) :
    (∃ tree tree', Node.ofSource maxDepth (Text.unified source) = .ok tree ∧
      Node.ofSource maxDepth source = .ok tree') ∨
    ∃ f g, Node.ofSource maxDepth (Text.unified source) = .error f ∧
      Node.ofSource maxDepth source = .error g ∧ f.headline = g.headline := by
  -- there is a tree exactly if there is a listing
  have hcompile := compile_unified { maxDepth } source
  rw [compile_eq_ofSource, compile_eq_ofSource] at hcompile
  dsimp only at hcompile
  generalize Node.ofSource maxDepth (Text.unified source) = tree at hcompile ⊢
  generalize Node.ofSource maxDepth source = tree' at hcompile ⊢
  cases tree <;> cases tree' <;> simp [Except.map] at hcompile
  case error.error f g => exact .inr ⟨f, g, rfl, rfl, hcompile⟩
  case ok.ok tree tree' => exact .inl ⟨tree, tree', rfl, rfl⟩

theorem describe_eq_of_headline {options : CompileOptions} {source : String} {f g : Fault}
    (hf : compile options source = .error f) (h : f.headline = g.headline) :
    ∃ d e, f.diagnostic? = some d ∧ g.diagnostic? = some e ∧ d.phase = e.phase ∧
      d.describe = e.describe := by
  obtain ⟨d, hd, -⟩ := phase_of_compile_error hf
  have hheadline : g.diagnostic?.map (fun e => (e.phase, e.detail)) = some (d.phase, d.detail) := by
    simpa [Fault.headline, hd] using h.symm
  obtain ⟨e, he, hsame⟩ := Option.map_eq_some_iff.1 hheadline
  obtain ⟨hphase, hdetail⟩ := Prod.mk.inj hsame
  refine ⟨d, e, hd, he, hphase.symm, ?_⟩
  rw [Diagnostic.describe, Diagnostic.describe, hphase, hdetail]

end SexprAsm
