import SexprAsm.Proofs.EndToEnd
import SexprAsm.Proofs.Grammar
import SexprAsm.Proofs.ValidPrefix
import Mathlib.Data.List.Forall2

/-!
# Texts that make no difference

The text of a string leads nowhere, and the case of an operator's letters is lost in its mnemonic.
The gist of a token leaves both out. Reading commutes with taking the gist, and a tree and its gist
have the same lines, so token lists with the same gist have the same listing or fail alike.

Strings can even be left out altogether: what remains still is a program, and only blank lines tell
the difference.
-/

namespace SexprAsm

/-! ## Letter case -/

namespace Text

theorem capitalize_toUpper (c : Char) : capitalize c.toUpper = capitalize c := by
  by_cases hlower : 97 ≤ c.toNat ∧ c.toNat ≤ 122
  · have hletter : c.isAlpha = true := (isAlpha_iff_toNat c).2 (.inr hlower)
    have hupper : c.toUpper.isUpper = true := isUpper_toUpper hletter
    have hrange := (isUpper_iff_toNat c.toUpper).1 hupper
    rw [capitalize_of_isAlpha hletter, capitalize_of_isAlpha (isAlpha_of_isUpper hupper),
      toUpper_eq_self (by omega)]
  · rw [toUpper_eq_self hlower]

theorem uppercase_toUpper (s : String) : uppercase s.toUpper = uppercase s := by
  rw [uppercase, uppercase, String.toUpper, String.toList_map, List.flatMap_map]
  simp only [capitalize_toUpper]

end Text

/-! ## The gist -/

/-- Tokens of one kind with the same text, but for the text of a string and for the case of the
letters of an identifier. -/
def Token.Alike (t u : Token) : Prop :=
  t.kind = u.kind ∧
    match t.kind with
    | .string => True
    | .ident => t.text.toUpper = u.text.toUpper
    | _ => t.text = u.text

/-- The texts without what makes no difference. -/
def Rewording.gist : Rewording where
  text
    | .string, _ => ""
    | .ident, text => text.toUpper
    | _, text => text
  ident_eq_empty_iff _ := String.map_eq_empty

def Token.gist (t : Token) : Token :=
  t.reword .gist

theorem Token.alike_iff_gist_eq {t u : Token} : t.Alike u ↔ t.gist = u.gist := by
  obtain ⟨kind, text⟩ := t
  obtain ⟨kind', text'⟩ := u
  cases kind <;> cases kind' <;> simp [Alike, gist, reword, Rewording.gist]

theorem Token.forall₂_alike_iff {ts us : List Token} :
    List.Forall₂ Alike ts us ↔ ts.map gist = us.map gist := by
  have hrel : Alike = fun t u => t.gist = u.gist := by
    funext t u
    exact propext alike_iff_gist_eq
  rw [← List.forall₂_eq_eq_eq, List.forall₂_map_left_iff, List.forall₂_map_right_iff, hrel]

mutual

theorem Node.postorder_gist (style : Style) :
    ∀ n : Node, (n.reword .gist).postorder style = n.postorder style
  | .program forms => by rw [reword, postorder, postorder, postorderAll_gist style forms]
  | .call op args => by
      have hop : Text.uppercase (op.reword .gist).text = Text.uppercase op.text :=
        Text.uppercase_toUpper op.text
      rw [reword, postorder, postorder, postorderAll_gist style args, hop]
  | .number _ => rfl
  | .string _ => rfl
  | .other => rfl

theorem Node.postorderAll_gist (style : Style) :
    ∀ ns : List Node, postorderAll style (rewordAll .gist ns) = postorderAll style ns
  | [] => rfl
  | n :: ns => by
      rw [rewordAll, postorderAll, postorderAll, postorder_gist style n,
        postorderAll_gist style ns]

end

theorem Node.gist_readForms_eq (limit : Int) {ts us : List Token}
    (h : List.Forall₂ Token.Alike ts us) :
    (readForms limit {} ts).reword .gist = (readForms limit {} us).reword .gist := by
  have hts := readForms_reword .gist limit {} ts
  have hus := readForms_reword .gist limit {} us
  have hgist : ts.map (Token.reword .gist) = us.map (Token.reword .gist) :=
    Token.forall₂_alike_iff.1 h
  rw [← hts, ← hus, hgist]

/-! ## Failing alike -/

/-- The phase and the text of a fault, without its place. -/
def Fault.headline (f : Fault) : Option (Phase × String) :=
  f.diagnostic?.map fun d => (d.phase, d.detail)

def Fault.blamed? (f : Fault) : Option Token :=
  f.diagnostic?.bind fun d =>
    match d.place with
    | .token t => t
    | _ => none

namespace ReadFault

theorem headline_reword (w : Rewording) (f : ReadFault) :
    (Fault.read (f.reword w)).headline = (Fault.read f).headline := by
  cases f <;> rfl

theorem blamed?_reword (w : Rewording) (f : ReadFault) :
    (Fault.read (f.reword w)).blamed? = (Fault.read f).blamed?.map (Token.reword w) := by
  cases f <;> rfl

theorem reword_reported (w : Rewording) (maxDepth : Int) (f : ReadFault) :
    (f.reported maxDepth).reword w = (f.reword w).reported maxDepth := by
  unfold reported
  split
  · rfl
  · cases f <;> rfl

theorem blamed?_of_reported {maxDepth : Int} {f : ReadFault} {t : Token}
    (h : (Fault.read (f.reported maxDepth)).blamed? = some t) :
    (Fault.read f).blamed? = some t := by
  unfold reported at h
  split at h
  · exact h
  · cases f with
    | nestingTooDeep opener =>
        simp [withoutOpener, Fault.blamed?, Fault.diagnostic?, diagnostic?] at h
    | _ => exact h

end ReadFault

theorem OpenForm.Step.blamed?_eq {limit depth : Int} {form : OpenForm} {t u : Token}
    {f : ReadFault} (h : Step limit depth form t (.fault f))
    (hu : (Fault.read f).blamed? = some u) : t = u := by
  cases h with
  | nestingTooDeep _ _ => exact Option.some.inj hu
  | missingOperator _ => exact Option.some.inj hu
  | unknownToken _ => exact Option.some.inj hu
  | emptyOperator _ _ => simp [Fault.blamed?, Fault.diagnostic?, ReadFault.diagnostic?] at hu

namespace Node

theorem readForms_blames_last {limit : Int} {form : OpenForm} {ts rest : List Token}
    {f : ReadFault} {t : Token} (h : readForms limit form ts = ⟨.error f, rest⟩)
    (ht : (Fault.read f).blamed? = some t) : ∃ before, ts = before ++ t :: rest := by
  induction ts generalizing form with
  | nil =>
      rw [readForms] at h
      split at h
      · simp at h
      · have hf : ReadFault.unexpectedEnd = f := by simpa using congrArg Reading.outcome h
        rw [← hf] at ht
        simp [Fault.blamed?, Fault.diagnostic?, ReadFault.diagnostic?] at ht
  | cons u us ih =>
      rw [readForms] at h
      cases hadvance : form.advance limit 0 u with
      | more form' =>
          rw [hadvance] at h
          obtain ⟨before, rfl⟩ := ih h
          exact ⟨u :: before, rfl⟩
      | form n =>
          rw [hadvance] at h
          obtain ⟨before, rfl⟩ := ih (Reading.map_eq_error_iff.1 h)
          exact ⟨u :: before, rfl⟩
      | close =>
          rw [hadvance] at h
          obtain ⟨rfl, rfl⟩ : ReadFault.unmatchedClose u = f ∧ us = rest := by simpa using h
          have hu : u = t := Option.some.inj ht
          exact ⟨[], by rw [hu, List.nil_append]⟩
      | fault g =>
          rw [hadvance] at h
          obtain ⟨rfl, rfl⟩ : g = f ∧ us = rest := by simpa using h
          have hu : u = t := (OpenForm.step_iff.2 hadvance).blamed?_eq ht
          exact ⟨[], by rw [hu, List.nil_append]⟩

/-- How many tokens are read of a program, or up to and with the one where reading fails. -/
def readingEnd (maxDepth : Int) (ts : List Token) : Nat :=
  (Cursor.run { items := ts } (readProgram maxDepth)).2.pos

theorem readingEnd_eq (maxDepth : Int) (ts : List Token) :
    readingEnd maxDepth ts =
      ts.length - (readForms (min maxDepth nestingCeiling) {} ts).rest.length := by
  rw [readingEnd, Cursor.run_mk, rest_readProgram]

theorem readingEnd_of_blamed {maxDepth : Int} {ts : List Token} {f : ReadFault} {t : Token}
    (hf : (readForms (min maxDepth nestingCeiling) {} ts).outcome = .error f)
    (ht : (Fault.read (f.reported maxDepth)).blamed? = some t) :
    ∃ k, readingEnd maxDepth ts = k + 1 ∧ ts[k]? = some t := by
  have hread : readForms (min maxDepth nestingCeiling) {} ts =
      ⟨.error f, (readForms (min maxDepth nestingCeiling) {} ts).rest⟩ := by rw [← hf]
  have hend := readingEnd_eq maxDepth ts
  generalize (readForms (min maxDepth nestingCeiling) {} ts).rest = rest at hread hend
  obtain ⟨before, rfl⟩ := readForms_blames_last hread (ReadFault.blamed?_of_reported ht)
  refine ⟨before.length, ?_, by simp⟩
  rw [hend, List.length_append, List.length_cons]
  omega

end Node

/-- Two token lists fail alike: in the same phase and with the same text, after as many tokens, and
about the tokens at the same index if they are about tokens. -/
structure FailAlike (maxDepth : Int) (ts us : List Token) (f g : Fault) : Prop where
  headline : f.headline = g.headline
  readingEnd : Node.readingEnd maxDepth ts = Node.readingEnd maxDepth us
  blamed : (f.blamed? = none ∧ g.blamed? = none) ∨
    ∃ k t u, Node.readingEnd maxDepth ts = k + 1 ∧ ts[k]? = some t ∧ us[k]? = some u ∧
      f.blamed? = some t ∧ g.blamed? = some u

section Alike

variable {ts us : List Token}

theorem failAlike_of_error (h : List.Forall₂ Token.Alike ts us) {maxDepth : Int} {f g : ReadFault}
    (hf : (Node.readForms (min maxDepth Node.nestingCeiling) {} ts).outcome = .error f)
    (hg : (Node.readForms (min maxDepth Node.nestingCeiling) {} us).outcome = .error g) :
    FailAlike maxDepth ts us (.read (f.reported maxDepth)) (.read (g.reported maxDepth)) := by
  have hgist := Node.gist_readForms_eq (min maxDepth Node.nestingCeiling) h
  have hfault : f.reword .gist = g.reword .gist := by
    simpa [Reading.reword, hf, hg, Except.map, Except.mapError] using congrArg Reading.outcome hgist
  have hreported : (f.reported maxDepth).reword .gist = (g.reported maxDepth).reword .gist := by
    rw [ReadFault.reword_reported, ReadFault.reword_reported, hfault]
  have hend : Node.readingEnd maxDepth ts = Node.readingEnd maxDepth us := by
    have hrest := congrArg (·.rest.length) hgist
    simp only [Reading.reword, List.length_map] at hrest
    rw [Node.readingEnd_eq, Node.readingEnd_eq, h.length_eq, hrest]
  have hblamed : (Fault.read (f.reported maxDepth)).blamed?.map (Token.reword .gist) =
      (Fault.read (g.reported maxDepth)).blamed?.map (Token.reword .gist) := by
    rw [← ReadFault.blamed?_reword, ← ReadFault.blamed?_reword, hreported]
  refine ⟨?_, hend, ?_⟩
  · calc (Fault.read (f.reported maxDepth)).headline
      _ = (Fault.read ((f.reported maxDepth).reword .gist)).headline :=
        (ReadFault.headline_reword _ _).symm
      _ = (Fault.read ((g.reported maxDepth).reword .gist)).headline := by rw [hreported]
      _ = (Fault.read (g.reported maxDepth)).headline := ReadFault.headline_reword _ _
  · cases hft : (Fault.read (f.reported maxDepth)).blamed? with
    | none =>
        rw [hft] at hblamed
        exact .inl ⟨rfl, Option.map_eq_none_iff.1 hblamed.symm⟩
    | some t =>
        rw [hft] at hblamed
        obtain ⟨u, hgu, -⟩ := Option.map_eq_some_iff.1 hblamed.symm
        obtain ⟨k, hk, htk⟩ := Node.readingEnd_of_blamed hf hft
        obtain ⟨k', hk', huk⟩ := Node.readingEnd_of_blamed hg hgu
        -- both lists are read up to the same place
        have hsame : k' = k := by omega
        subst hsame
        exact .inr ⟨k', t, u, hk, htk, huk, rfl, hgu⟩

theorem assemble_alike (options : CompileOptions) (h : List.Forall₂ Token.Alike ts us) :
    (∃ listing, assemble options ts = .ok listing ∧ assemble options us = .ok listing) ∨
      ∃ f g, assemble options ts = .error f ∧ assemble options us = .error g ∧
        FailAlike options.maxDepth ts us f g := by
  have hgist := Node.gist_readForms_eq (min options.maxDepth Node.nestingCeiling) h
  have houtcome := congrArg Reading.outcome hgist
  rw [assemble_eq, assemble_eq, Node.ofTokens_eq, Node.ofTokens_eq]
  cases hf : (Node.readForms (min options.maxDepth Node.nestingCeiling) {} ts).outcome with
  | ok forms =>
      cases hg : (Node.readForms (min options.maxDepth Node.nestingCeiling) {} us).outcome with
      | ok forms' =>
          have hforms : Node.rewordAll .gist forms = Node.rewordAll .gist forms' := by
            simpa [Reading.reword, hf, hg, Except.map, Except.mapError] using houtcome
          have hlines : (Node.program forms').postorder options.style =
              (Node.program forms).postorder options.style := by
            rw [← Node.postorder_gist, ← Node.postorder_gist options.style (.program forms),
              Node.reword, Node.reword, hforms]
          exact .inl ⟨_, rfl, congrArg (fun lines => Except.ok (Text.endLines lines)) hlines⟩
      | error g => simp [Reading.reword, hf, hg, Except.map, Except.mapError] at houtcome
  | error f =>
      cases hg : (Node.readForms (min options.maxDepth Node.nestingCeiling) {} us).outcome with
      | ok forms' => simp [Reading.reword, hf, hg, Except.map, Except.mapError] at houtcome
      | error g => exact .inr ⟨_, _, rfl, rfl, failAlike_of_error h hf hg⟩

end Alike

/-! ## Leaving strings out -/

def Token.withoutStrings (ts : List Token) : List Token :=
  ts.filter (·.kind ≠ .string)

namespace Token

theorem withoutStrings_append (ts us : List Token) :
    withoutStrings (ts ++ us) = withoutStrings ts ++ withoutStrings us :=
  List.filter_append ts us

theorem withoutStrings_cons_of_ne {t : Token} (h : t.kind ≠ .string) (ts : List Token) :
    withoutStrings (t :: ts) = t :: withoutStrings ts :=
  List.filter_cons_of_pos (by simpa using h)

theorem map_canonical_withoutStrings (ts : List Token) :
    (withoutStrings ts).map canonical = withoutStrings (ts.map canonical) := by
  rw [withoutStrings, withoutStrings, List.filter_map]
  congr 1
  exact List.filter_congr fun t _ => by simp [kind_canonical]

end Token

namespace Node

mutual

def dropStrings : Node → Node
  | program forms => program (dropStringsAll forms)
  | call op args => call op (dropStringsAll args)
  | n => n

/-- The trees but for strings, each without the strings in it. -/
def dropStringsAll : List Node → List Node
  | [] => []
  | n :: ns =>
    if n.kind = .string then dropStringsAll ns else dropStrings n :: dropStringsAll ns

end

theorem exists_text_of_kind {n : Node} (h : n.kind = .string) : ∃ text, n = string text := by
  cases n with
  | string text => exact ⟨text, rfl⟩
  | _ => contradiction

mutual

theorem flatten_dropStrings :
    ∀ n : Node, n.kind ≠ .string → n.dropStrings.flatten = Token.withoutStrings n.flatten
  | program forms, _ => flattenAll_dropStringsAll forms
  | call op args, _ => by
      rw [dropStrings, flatten, flatten, flattenAll_dropStringsAll args,
        Token.withoutStrings_cons_of_ne (by simp [Token.lparen]),
        Token.withoutStrings_cons_of_ne (by simp), Token.withoutStrings_append]
      rfl
  | number _, _ => rfl
  | string _, h => absurd rfl h
  | other, _ => rfl

theorem flattenAll_dropStringsAll :
    ∀ ns : List Node, flattenAll (dropStringsAll ns) = Token.withoutStrings (flattenAll ns)
  | [] => rfl
  | n :: ns => by
      have ih := flattenAll_dropStringsAll ns
      rw [dropStringsAll, flattenAll, Token.withoutStrings_append]
      split
      · next hstring =>
          obtain ⟨text, rfl⟩ := exists_text_of_kind hstring
          exact ih
      · next hstring => rw [flattenAll, flatten_dropStrings n hstring, ih]

end

mutual

theorem callLevels_dropStrings :
    ∀ (n : Node) (level : Nat), n.dropStrings.callLevels level = n.callLevels level
  | program forms, level => callLevelsAll_dropStringsAll forms level
  | call _ args, level => by
      rw [dropStrings, callLevels, callLevels, callLevelsAll_dropStringsAll args]
  | number _, _ => rfl
  | string _, _ => rfl
  | other, _ => rfl

theorem callLevelsAll_dropStringsAll :
    ∀ (ns : List Node) (level : Nat),
      callLevelsAll level (dropStringsAll ns) = callLevelsAll level ns
  | [], _ => rfl
  | n :: ns, level => by
      have ih := callLevelsAll_dropStringsAll ns level
      rw [dropStringsAll, callLevelsAll]
      split
      · next hstring =>
          obtain ⟨text, rfl⟩ := exists_text_of_kind hstring
          exact ih
      · rw [callLevelsAll, callLevels_dropStrings n, ih]

end

mutual

theorem isForm_dropStrings : ∀ n : Node, n.isForm = true → n.dropStrings.isForm = true
  | program _, h => by simp [isForm] at h
  | call _ args, h => areForms_dropStringsAll args h
  | number _, _ => rfl
  | string _, _ => rfl
  | other, h => by simp [isForm] at h

theorem areForms_dropStringsAll :
    ∀ ns : List Node, areForms ns = true → areForms (dropStringsAll ns) = true
  | [], _ => rfl
  | n :: ns, h => by
      have hforms : n.isForm = true ∧ areForms ns = true := by simpa [areForms] using h
      have ih := areForms_dropStringsAll ns hforms.2
      rw [dropStringsAll]
      split
      · exact ih
      · rw [areForms, isForm_dropStrings n hforms.1, ih]
        rfl

end

mutual

theorem postorder_dropStrings {style : Style} (hblank : style.keepBlankLines = false) :
    ∀ n : Node, n.dropStrings.postorder style = n.postorder style
  | program forms => by
      rw [dropStrings, postorder, postorder, postorderAll_dropStringsAll hblank forms]
  | call _ args => by
      rw [dropStrings, postorder, postorder, postorderAll_dropStringsAll hblank args]
  | number _ => rfl
  | string _ => rfl
  | other => rfl

theorem postorderAll_dropStringsAll {style : Style} (hblank : style.keepBlankLines = false) :
    ∀ ns : List Node, postorderAll style (dropStringsAll ns) = postorderAll style ns
  | [] => rfl
  | n :: ns => by
      have ih := postorderAll_dropStringsAll hblank ns
      have hgap : style.gapLines = [] := by simp [Style.gapLines, hblank]
      rw [dropStringsAll, postorderAll]
      split
      · next hstring =>
          obtain ⟨text, rfl⟩ := exists_text_of_kind hstring
          rw [postorder, hgap, ih]
          rfl
      · rw [postorderAll, postorder_dropStrings hblank n, ih]

end

theorem ofTokens_withoutStrings {maxDepth : Int} {ts : List Token} {tree : Node}
    (h : ofTokens maxDepth ts = .ok tree) :
    ofTokens maxDepth (Token.withoutStrings ts) = .ok tree.dropStrings := by
  obtain ⟨forms, hforms, rfl⟩ := ofTokens_eq_ok_iff.1 h
  obtain ⟨hfits, hflat⟩ := readForms_eq_ok_iff.1 hforms
  obtain ⟨hare, hlevels⟩ := forall_fits_iff.1 hfits
  have hfits' : ∀ n ∈ dropStringsAll forms, n.Fits (min maxDepth nestingCeiling) 1 := by
    refine forall_fits_iff.2 ⟨areForms_dropStringsAll forms hare, ?_⟩
    rw [callLevelsAll_dropStringsAll]
    exact hlevels
  have hflat' : flattenAll (dropStringsAll forms) =
      (Token.withoutStrings ts).map Token.canonical := by
    rw [flattenAll_dropStringsAll, hflat, Token.map_canonical_withoutStrings]
  exact ofTokens_eq_ok_iff.2 ⟨_, readForms_eq_ok_iff.2 ⟨hfits', hflat'⟩, rfl⟩

end Node

theorem assemble_withoutStrings {options : CompileOptions} {ts : List Token} {listing : String}
    (h : assemble options ts = .ok listing) :
    ∃ listing', assemble options (Token.withoutStrings ts) = .ok listing' ∧
      (options.style.keepBlankLines = false → listing' = listing) := by
  obtain ⟨tree, hread, rfl⟩ := assemble_eq_ok_iff.1 h
  refine ⟨_, assemble_eq_ok_iff.2 ⟨_, Node.ofTokens_withoutStrings hread, rfl⟩, fun hblank => ?_⟩
  rw [Node.postorder_dropStrings hblank]

/-- The texts of strings and the case of operators have no influence. Token lists that differ in
nothing else have the same listing, or both fail with the same text at the same index. And a list
that has a listing still has one when its strings are left out, the same one unless blank lines are
kept. -/
theorem assemble_ignores_texts (options : CompileOptions) (ts us : List Token)
    (h : List.Forall₂ Token.Alike ts us) :
    ((∃ listing, assemble options ts = .ok listing ∧ assemble options us = .ok listing) ∨
      ∃ f g, assemble options ts = .error f ∧ assemble options us = .error g ∧
        FailAlike options.maxDepth ts us f g) ∧
    ∀ listing, assemble options ts = .ok listing →
      ∃ listing', assemble options (Token.withoutStrings ts) = .ok listing' ∧
        (options.style.keepBlankLines = false → listing' = listing) := by
  refine ⟨assemble_alike options h, fun listing hlisting => ?_⟩
  exact assemble_withoutStrings hlisting

/-- The tokens of `(say "hi" 7)x`, with a word after the form. -/
def strayAfterCall : List Token :=
  [.lparen, ⟨.ident, "say"⟩, ⟨.string, "hi"⟩, ⟨.number, "7"⟩, .rparen, ⟨.ident, "x"⟩]

def strayAfterCallShouted : List Token :=
  [.lparen, ⟨.ident, "SAY"⟩, ⟨.string, ""⟩, ⟨.number, "7"⟩, .rparen, ⟨.ident, "X"⟩]

theorem assemble_ignores_texts_shouted :
    List.Forall₂ Token.Alike strayAfterCall strayAfterCallShouted ∧
      (∃ listing, assemble {} (strayAfterCall.take 5) = .ok listing ∧
        assemble {} (strayAfterCallShouted.take 5) = .ok listing ∧
        assemble {} (Token.withoutStrings (strayAfterCall.take 5)) = .ok listing) ∧
      ∃ g, assemble {} strayAfterCallShouted = .error g ∧
        FailAlike defaultMaxDepth strayAfterCall strayAfterCallShouted
          (.read (.unknownToken ⟨.ident, "x"⟩)) g := by
  have hall : List.Forall₂ Token.Alike strayAfterCall strayAfterCallShouted := by
    simp [strayAfterCall, strayAfterCallShouted, Token.Alike, Token.lparen, Token.rparen,
      String.toUpper, String.map_eq_internal]
  have hcall : List.Forall₂ Token.Alike (strayAfterCall.take 5) (strayAfterCallShouted.take 5) :=
    List.forall₂_take 5 hall
  have hstray : assemble {} strayAfterCall = .error (.read (.unknownToken ⟨.ident, "x"⟩)) := by
    decide +kernel
  have hlisted : assemble {} (strayAfterCall.take 5) =
      .ok (Text.endLines [";; Begin program code", "\t\tSTART", "\t\tPUSH #7", "\t\tSAY",
        ";; exit program", "\t\tHALT"]) := by
    decide +kernel
  obtain ⟨hsame, hleft⟩ := assemble_ignores_texts {} _ _ hcall
  refine ⟨hall, ⟨_, hlisted, ?_, ?_⟩, ?_⟩
  · rcases hsame with ⟨listing, hts, hus⟩ | ⟨f, g, hts, -, -⟩
    · rw [hus, ← hts, hlisted]
    · simp [hlisted] at hts
  · obtain ⟨listing', hlisting', hequal⟩ := hleft _ hlisted
    rw [hlisting', hequal rfl]
  · rcases (assemble_ignores_texts {} _ _ hall).1 with ⟨listing, hts, -⟩ | ⟨f, g, hts, hus, halike⟩
    · simp [hstray] at hts
    · obtain rfl : Fault.read (.unknownToken ⟨.ident, "x"⟩) = f := by simpa [hstray] using hts
      exact ⟨g, hus, halike⟩

end SexprAsm
