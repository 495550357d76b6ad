import SexprAsm.Diagnostic
import SexprAsm.Proofs.DepthLimit
import SexprAsm.Proofs.ReaderStep

/-!
# The earliest fault

The reader refuses a token list at the first token that rules out every continuation: what stands
before that token can be completed to a program, and what ends with it cannot. A list that ends too
early is refused at its end, and can be completed.
-/

namespace SexprAsm

/-! ## One token -/

namespace OpenForm

/-- Every open call has a text for its operator, so that it can be closed. -/
def Named (form : OpenForm) : Prop :=
  ∀ call ∈ form.calls, call.operator ≠ ""

theorem named_empty : Named {} :=
  List.forall_mem_nil _

theorem Completes.named {form : OpenForm} {t : Token} {n : Node} {calls : List OpenCall}
    (h : Completes form t n calls) (hform : form.Named) : ∀ call ∈ calls, call.operator ≠ "" := by
  cases h with
  | number _ => exact hform
  | string _ => exact hform
  | call _ _ => exact (List.forall_mem_cons.1 hform).2

variable {limit depth : Int} {form form' : OpenForm} {t : Token}

theorem Step.named (h : Step limit depth form t (.more form')) (hform : form.Named)
    (ht : t.kind = .ident → t.text ≠ "") : form'.Named := by
  cases h with
  | opener _ _ => exact hform
  | operator hkind => exact List.forall_mem_cons.2 ⟨ht hkind, hform⟩
  | argument h =>
      obtain ⟨hinner, houter⟩ := List.forall_mem_cons.1 (h.named hform)
      exact List.forall_mem_cons.2 ⟨hinner, houter⟩

theorem Step.diagnostic {f : ReadFault} (h : Step limit depth form t (.fault f))
    (hform : form.Named) : ∃ detail, f.diagnostic? = some ⟨detail, .token (some t)⟩ := by
  cases h with
  | nestingTooDeep _ _ => exact ⟨_, rfl⟩
  | missingOperator _ => exact ⟨_, rfl⟩
  | unknownToken _ => exact ⟨_, rfl⟩
  | emptyOperator _ hop =>
      obtain ⟨hinner, -⟩ := List.forall_mem_cons.1 hform
      simp [Operator.ofText?_of_ne hinner] at hop

end OpenForm

namespace Node

def Takes (limit : Int) (form : OpenForm) (t : Token) (form' : OpenForm) : Prop :=
  ∃ g : List Node → List Node,
    ∀ ts, readForms limit form (t :: ts) = (readForms limit form' ts).map g

def Refuses (limit : Int) (form : OpenForm) (t : Token) (f : ReadFault) : Prop :=
  ∀ ts, readForms limit form (t :: ts) = ⟨.error f, ts⟩

theorem takes_or_refuses (limit : Int) {form : OpenForm} {t : Token} (hform : form.Named)
    (ht : t.kind = .ident → t.text ≠ "") :
    (∃ form', form'.Named ∧ Takes limit form t form') ∨
      ∃ f detail, f.diagnostic? = some ⟨detail, .token (some t)⟩ ∧ Refuses limit form t f := by
  cases h : form.advance limit 0 t with
  | more form' =>
      refine .inl ⟨form', (OpenForm.step_iff.2 h).named hform ht, id, fun ts => ?_⟩
      rw [readForms, h]
      exact (Reading.map_id _).symm
  | form n =>
      refine .inl ⟨{}, OpenForm.named_empty, (n :: ·), fun ts => ?_⟩
      rw [readForms, h]
  | close =>
      refine .inr ⟨.unmatchedClose t, _, rfl, fun ts => ?_⟩
      rw [readForms, h]
  | fault f =>
      obtain ⟨detail, hdetail⟩ := (OpenForm.step_iff.2 h).diagnostic hform
      refine .inr ⟨f, detail, hdetail, fun ts => ?_⟩
      rw [readForms, h]

/-! ## Completing what was read -/

theorem readForms_close_all (limit : Int) (height : Nat) (calls : List OpenCall)
    (hheight : calls.length = height) (hcalls : ∀ call ∈ calls, call.operator ≠ "") :
    ∃ forms, (readForms limit { calls } (List.replicate height .rparen)).outcome = .ok forms := by
  -- on the height and not on the calls, since closing one changes the arguments of the next
  induction height generalizing calls with
  | zero =>
      obtain rfl : calls = [] := List.length_eq_zero_iff.1 hheight
      exact ⟨[], rfl⟩
  | succ height ih =>
      cases calls with
      | nil => simp at hheight
      | cons inner outer =>
          obtain ⟨hinner, houter⟩ := List.forall_mem_cons.1 hcalls
          rw [List.replicate_succ, readForms_rparen_cons rfl, Operator.ofText?_of_ne hinner]
          cases outer with
          | nil =>
              obtain rfl : height = 0 := by simpa using hheight.symm
              exact ⟨_, rfl⟩
          | cons next outer =>
              obtain ⟨hnext, houter⟩ := List.forall_mem_cons.1 houter
              exact ih _ (by simpa using hheight) (List.forall_mem_cons.2 ⟨hnext, houter⟩)

theorem readForms_complete (limit : Int) {form : OpenForm} (hform : form.Named) :
    ∃ more forms, (readForms limit form more).outcome = .ok forms := by
  obtain ⟨calls, awaits⟩ := form
  cases awaits with
  | false => exact ⟨_, readForms_close_all limit _ calls rfl hform⟩
  | true =>
      have hcalls : ∀ call ∈ ({ operator := "f" } : OpenCall) :: calls, call.operator ≠ "" :=
        List.forall_mem_cons.2 ⟨by simp, hform⟩
      obtain ⟨forms, hforms⟩ := readForms_close_all limit _ _ rfl hcalls
      refine ⟨⟨.ident, "f"⟩ :: List.replicate (calls.length + 1) .rparen, forms, ?_⟩
      rw [readForms_awaits_cons, if_pos rfl]
      exact hforms

/-- Nothing stands against the tokens, unless that they end too early. -/
def Undecided (limit : Int) (form : OpenForm) (ts : List Token) : Prop :=
  ∀ f, (readForms limit form ts).outcome = .error f → f = .unexpectedEnd

theorem undecided_nil (limit : Int) (form : OpenForm) : Undecided limit form [] := by
  intro f hf
  rw [readForms] at hf
  split at hf
  · simp at hf
  · simpa using hf.symm

theorem Takes.undecided_iff {limit : Int} {form form' : OpenForm} {t : Token}
    (h : Takes limit form t form') (ts : List Token) :
    Undecided limit form (t :: ts) ↔ Undecided limit form' ts := by
  obtain ⟨g, hg⟩ := h
  simp only [Undecided, hg, Reading.outcome_map_eq_error_iff]

theorem Undecided.exists_completion {limit : Int} {form : OpenForm} {ts : List Token}
    (h : Undecided limit form ts) (hform : form.Named)
    (hts : ∀ t ∈ ts, t.kind = .ident → t.text ≠ "") :
    ∃ more forms, (readForms limit form (ts ++ more)).outcome = .ok forms := by
  induction ts generalizing form with
  | nil => exact readForms_complete limit hform
  | cons t ts ih =>
      obtain ⟨ht, hts⟩ := List.forall_mem_cons.1 hts
      rcases takes_or_refuses limit hform ht with
        ⟨form', hform', htakes⟩ | ⟨f, detail, hf, hrefuses⟩
      · obtain ⟨more, forms, hforms⟩ := ih ((htakes.undecided_iff ts).1 h) hform' hts
        obtain ⟨g, hg⟩ := htakes
        exact ⟨more, g forms, by
          rw [List.cons_append, hg]
          exact Reading.outcome_map_eq_ok_iff.2 ⟨forms, hforms, rfl⟩⟩
      · obtain rfl := h f (by rw [hrefuses])
        simp [ReadFault.diagnostic?] at hf

/-! ## Where reading fails -/

/-- Reading is refused at a token: the fault is about it, nothing stands against the tokens before
it, and what comes after it makes no difference. -/
structure RefusedAt (limit : Int) (form : OpenForm) (before : List Token) (t : Token)
    (f : ReadFault) : Prop where
  diagnostic : ∃ detail, f.diagnostic? = some ⟨detail, .token (some t)⟩
  undecided : Undecided limit form before
  final : ∀ more, readForms limit form (before ++ t :: more) = ⟨.error f, more⟩

theorem RefusedAt.cons {limit : Int} {form form' : OpenForm} {u t : Token} {before : List Token}
    {f : ReadFault} (h : RefusedAt limit form' before t f) (hu : Takes limit form u form') :
    RefusedAt limit form (u :: before) t f where
  diagnostic := h.diagnostic
  undecided := (hu.undecided_iff before).2 h.undecided
  final more := by
    obtain ⟨g, hg⟩ := hu
    rw [List.cons_append, hg, h.final]
    rfl

theorem readForms_error_cases {limit : Int} {form : OpenForm} {ts rest : List Token}
    {f : ReadFault} (hform : form.Named) (hts : ∀ t ∈ ts, t.kind = .ident → t.text ≠ "")
    (h : readForms limit form ts = ⟨.error f, rest⟩) :
    (f = .unexpectedEnd ∧ rest = []) ∨
      ∃ before t, ts = before ++ t :: rest ∧ RefusedAt limit form before t f := by
  induction ts generalizing form with
  | nil =>
      left
      rw [readForms] at h
      split at h
      · simp at h
      · simpa [eq_comm] using h
  | cons t ts ih =>
      obtain ⟨ht, hts⟩ := List.forall_mem_cons.1 hts
      rcases takes_or_refuses limit hform ht with
        ⟨form', hform', htakes⟩ | ⟨g, detail, hdetail, hrefuses⟩
      · have hrest : readForms limit form' ts = ⟨.error f, rest⟩ := by
          obtain ⟨g, hg⟩ := htakes
          rw [hg, Reading.map_eq_error_iff] at h
          exact h
        rcases ih hform' hts hrest with hend | ⟨before, u, rfl, hrefused⟩
        · exact .inl hend
        · exact .inr ⟨t :: before, u, rfl, hrefused.cons htakes⟩
      · obtain ⟨rfl, rfl⟩ : g = f ∧ ts = rest := by simpa [hrefuses ts] using h
        exact .inr ⟨[], t, rfl, ⟨detail, hdetail⟩, undecided_nil limit form, hrefuses⟩

/-! ## Programs -/

def Accepts (maxDepth : Int) (ts : List Token) : Prop :=
  ∃ tree, ofTokens maxDepth ts = .ok tree

/-- The tokens begin an accepted list. -/
def Completable (maxDepth : Int) (ts : List Token) : Prop :=
  ∃ more, Accepts maxDepth (ts ++ more)

theorem Undecided.completable {maxDepth : Int} {ts : List Token}
    (h : Undecided (min maxDepth nestingCeiling) {} ts)
    (hts : ∀ t ∈ ts, t.kind = .ident → t.text ≠ "") : Completable maxDepth ts := by
  obtain ⟨more, forms, hforms⟩ := h.exists_completion OpenForm.named_empty hts
  exact ⟨more, program forms, ofTokens_eq_ok_iff.2 ⟨forms, hforms, rfl⟩⟩

theorem rest_readProgram (maxDepth : Int) (ts : List Token) :
    (readProgram maxDepth ts).rest = (readForms (min maxDepth nestingCeiling) {} ts).rest := by
  rw [readProgram_eq]
  rfl

theorem ofTokens_error_cases {maxDepth : Int} {ts : List Token} {f : ReadFault}
    (hts : ∀ t ∈ ts, t.kind = .ident → t.text ≠ "") (hceiling : BelowCeiling maxDepth ts)
    (h : ofTokens maxDepth ts = .error f) :
    (f = .unexpectedEnd ∧ (readProgram maxDepth ts).rest = [] ∧ Completable maxDepth ts) ∨
      ∃ before t, ts = before ++ t :: (readProgram maxDepth ts).rest ∧
        (∃ detail, f.diagnostic? = some ⟨detail, .token (some t)⟩) ∧
        Completable maxDepth before ∧
        ∀ more, ofTokens maxDepth (before ++ t :: more) = .error f := by
  obtain ⟨g, hg, hreported⟩ := ofTokens_eq_error_iff.1 h
  obtain rfl : g = f := (hceiling.reported_eq hg).symm.trans hreported
  have hread : readForms (min maxDepth nestingCeiling) {} ts =
      ⟨.error g, (readProgram maxDepth ts).rest⟩ := by
    rw [rest_readProgram, ← hg]
  rcases readForms_error_cases OpenForm.named_empty hts hread with
    ⟨rfl, hrest⟩ | ⟨before, t, hsplit, hrefused⟩
  · have hundecided : Undecided (min maxDepth nestingCeiling) {} ts := by
      intro f hf
      simpa [hg, eq_comm] using hf
    exact .inl ⟨rfl, hrest, hundecided.completable hts⟩
  · have hbefore : ∀ u ∈ before, u.kind = .ident → u.text ≠ "" := fun u hu =>
      hts u (by rw [hsplit]; exact List.mem_append_left _ hu)
    refine .inr ⟨before, t, hsplit, hrefused.diagnostic,
      hrefused.undecided.completable hbefore, fun more => ?_⟩
    exact ofTokens_eq_error_iff.2 ⟨g, by rw [hrefused.final], hreported⟩

section Programs

variable {maxDepth : Int} {ts : List Token} {f : ReadFault}
variable (hts : ∀ t ∈ ts, t.kind = .ident → t.text ≠ "") (hceiling : BelowCeiling maxDepth ts)

include hts hceiling

theorem readProgram_of_token {detail : String} {t : Token}
    (h : ofTokens maxDepth ts = .error f) (hf : f.diagnostic? = some ⟨detail, .token (some t)⟩) :
    ∃ k, ts.length - (readProgram maxDepth ts).rest.length = k + 1 ∧ ts[k]? = some t ∧
      Completable maxDepth (ts.take k) ∧
      ∀ more, ofTokens maxDepth (ts.take (k + 1) ++ more) = .error f := by
  rcases ofTokens_error_cases hts hceiling h with
    ⟨rfl, -⟩ | ⟨before, t', hsplit, ⟨detail', hdetail⟩, hbefore, hfinal⟩
  · simp [ReadFault.diagnostic?] at hf
  · obtain ⟨rfl, rfl⟩ : detail' = detail ∧ t' = t := by simpa [hdetail] using hf
    generalize (readProgram maxDepth ts).rest = rest at hsplit ⊢
    subst hsplit
    have htake : (before ++ t' :: rest).take (before.length + 1) = before ++ [t'] := by
      simp [List.take_append, List.take_of_length_le]
    refine ⟨before.length, ?_, by simp, by rwa [List.take_left], fun more => ?_⟩
    · simp only [List.length_append, List.length_cons]
      omega
    · rw [htake, List.append_assoc]
      exact hfinal more

theorem readProgram_of_no_token {detail : String} (h : ofTokens maxDepth ts = .error f)
    (hf : f.diagnostic? = some ⟨detail, .token none⟩) :
    detail = "unexpected end of tokens" ∧ (readProgram maxDepth ts).rest = [] ∧
      Completable maxDepth ts := by
  rcases ofTokens_error_cases hts hceiling h with
    ⟨rfl, hrest, hcompletable⟩ | ⟨before, t, -, ⟨detail', hdetail⟩, -⟩
  · exact ⟨by simpa [ReadFault.diagnostic?, eq_comm] using hf, hrest, hcompletable⟩
  · simp [hdetail] at hf

theorem not_completable_of_error (h : ofTokens maxDepth ts = .error f) (hf : f ≠ .unexpectedEnd) :
    ¬Completable maxDepth ts := by
  rcases ofTokens_error_cases hts hceiling h with ⟨hend, -⟩ | ⟨before, t, hsplit, -, -, hfinal⟩
  · exact absurd hend hf
  · rintro ⟨more, tree, htree⟩
    rw [hsplit, List.append_assoc, List.cons_append, hfinal] at htree
    contradiction

theorem ofTokens_eq_unexpectedEnd_iff :
    ofTokens maxDepth ts = .error .unexpectedEnd ↔
      ¬Accepts maxDepth ts ∧ Completable maxDepth ts := by
  constructor
  · intro h
    refine ⟨?_, (readProgram_of_no_token hts hceiling h rfl).2.2⟩
    rintro ⟨tree, htree⟩
    simp [h] at htree
  · rintro ⟨hnot, hcompletable⟩
    cases h : ofTokens maxDepth ts with
    | ok tree => exact absurd ⟨tree, h⟩ hnot
    | error f =>
        by_contra hf
        exact not_completable_of_error hts hceiling h (by simpa using hf) hcompletable

theorem exists_other_fault_iff :
    (∃ f d, ofTokens maxDepth ts = .error f ∧ f.diagnostic? = some d ∧ f ≠ .unexpectedEnd) ↔
      ¬Completable maxDepth ts := by
  constructor
  · rintro ⟨f, d, h, -, hf⟩
    exact not_completable_of_error hts hceiling h hf
  · intro hnot
    cases h : ofTokens maxDepth ts with
    | ok tree => exact absurd ⟨[], tree, by simpa using h⟩ hnot
    | error f =>
        rcases ofTokens_error_cases hts hceiling h with
          ⟨-, -, hcompletable⟩ | ⟨before, t, -, ⟨detail, hdetail⟩, -⟩
        · exact absurd hcompletable hnot
        · refine ⟨f, _, rfl, hdetail, ?_⟩
          rintro rfl
          simp [ReadFault.diagnostic?] at hdetail

end Programs

/-- The reader blames the earliest token that it can. The tokens before the one that it blames can
be completed to a program, and no list that begins with the tokens up to this one is read: it fails
in the same way. Where no token is blamed, the tokens end too early and can be completed. -/
theorem readProgram_blames_earliest (maxDepth : Int) (ts : List Token)
    (hts : ∀ t ∈ ts, t.kind = .ident → t.text ≠ "") (hceiling : BelowCeiling maxDepth ts) :
    (∀ f c, Cursor.run { items := ts } (readProgram maxDepth) = (.error f, c) →
      (∀ detail t, f.diagnostic? = some ⟨detail, .token (some t)⟩ →
        ∃ k, c.pos = k + 1 ∧ ts[k]? = some t ∧ Completable maxDepth (ts.take k) ∧
          ∀ more, ofTokens maxDepth (ts.take (k + 1) ++ more) = .error f) ∧
      (∀ detail, f.diagnostic? = some ⟨detail, .token none⟩ →
        detail = "unexpected end of tokens" ∧ c.pos = ts.length ∧ Completable maxDepth ts)) ∧
    (ofTokens maxDepth ts = .error .unexpectedEnd ↔
      ¬Accepts maxDepth ts ∧ Completable maxDepth ts) ∧
    ((∃ f d, ofTokens maxDepth ts = .error f ∧ f.diagnostic? = some d ∧ f ≠ .unexpectedEnd) ↔
      ¬Completable maxDepth ts) := by
  refine ⟨fun f c hrun => ?_, ofTokens_eq_unexpectedEnd_iff hts hceiling,
    exists_other_fault_iff hts hceiling⟩
  rw [Cursor.run_mk] at hrun
  obtain ⟨herror, rfl⟩ : ofTokens maxDepth ts = .error f ∧ _ = c := Prod.mk.inj hrun
  refine ⟨fun detail t hf => readProgram_of_token hts hceiling herror hf, fun detail hf => ?_⟩
  obtain ⟨hdetail, hrest, hcompletable⟩ := readProgram_of_no_token hts hceiling herror hf
  exact ⟨hdetail, by simp [hrest], hcompletable⟩

/-- The tokens of `(add (f) b 2`: the second word is no form. -/
def strayWord : List Token :=
  [.lparen, ⟨.ident, "add"⟩, .lparen, ⟨.ident, "f"⟩, .rparen, ⟨.ident, "b"⟩, ⟨.number, "2"⟩]

theorem readProgram_blames_earliest_strayWord :
    (∀ t ∈ strayWord, t.kind = .ident → t.text ≠ "") ∧ BelowCeiling 2 strayWord ∧
      Completable 2 (strayWord.take 5) ∧ ¬Completable 2 strayWord ∧
      ∀ more, ofTokens 2 (strayWord.take 6 ++ more) = .error (.unknownToken ⟨.ident, "b"⟩) := by
  have hts : ∀ t ∈ strayWord, t.kind = .ident → t.text ≠ "" := by decide
  have hceiling : BelowCeiling 2 strayWord := by decide
  obtain ⟨hfaults, -, hother⟩ := readProgram_blames_earliest 2 strayWord hts hceiling
  have hrun : Cursor.run { items := strayWord } (readProgram 2) =
      (.error (.unknownToken ⟨.ident, "b"⟩), { items := strayWord, pos := 6 }) := rfl
  obtain ⟨k, hpos, -, hbefore, hfinal⟩ := (hfaults _ _ hrun).1 _ _ rfl
  obtain rfl : k = 5 := by simpa using hpos.symm
  exact ⟨hts, hceiling, hbefore, hother.1 ⟨_, _, rfl, rfl, by decide⟩, hfinal⟩

end Node

end SexprAsm
