import SexprAsm.Proofs.ReaderProgress

/-!
# One form and nothing else

Reading a form looks at the tokens of the form and at no others. What is read from them, and how
many they are, does not depend on the tokens around them, whether the form can be read or not. The
depth at which the form stands matters only for how far the limit is away.
-/

namespace SexprAsm

namespace OpenForm

/-- Something of the form has been read. -/
def Begun (form : OpenForm) : Prop :=
  form.awaitsOperator = true ∨ form.calls ≠ []

variable {limit depth : Int} {form form' : OpenForm} {t : Token}

theorem Step.begun (h : Step limit depth form t (.more form')) : form'.Begun := by
  cases h with
  | opener _ _ => exact .inl rfl
  | operator _ => exact .inr (List.cons_ne_nil _ _)
  | argument _ => exact .inr (List.cons_ne_nil _ _)

theorem Step.of_close (h : Step limit depth form t .close) : form = {} ∧ t.kind = .rparen := by
  cases h with
  | close ht => exact ⟨rfl, ht⟩

theorem not_begun_empty : ¬Begun {} := by
  simp [Begun]

theorem advance_shift (limit depth : Int) (form : OpenForm) (t : Token) :
    form.advance limit depth t = form.advance (limit - depth) 0 t := by
  have hdeep : limit < depth + form.calls.length + 1 ↔
      limit - depth < 0 + form.calls.length + 1 := by omega
  simp only [advance, hdeep]

end OpenForm

namespace Node

theorem readForm_shift (limit depth : Int) (form : OpenForm) (ts : List Token) :
    readForm limit depth form ts = readForm (limit - depth) 0 form ts := by
  induction ts generalizing form with
  | nil => rfl
  | cons t ts ih =>
      rw [readForm, readForm, OpenForm.advance_shift]
      cases form.advance (limit - depth) 0 t with
      | more form' => exact ih form'
      | form n => rfl
      | close => rfl
      | fault f => rfl

/-! ## The parenthesis after the last argument -/

theorem readForm_ne_none {limit depth : Int} {form : OpenForm} (hform : form.Begun)
    (ts : List Token) : (readForm limit depth form ts).outcome ≠ .ok none := by
  induction ts generalizing form with
  | nil => simp [readForm]
  | cons t ts ih =>
      rw [readForm]
      cases hadvance : form.advance limit depth t with
      | more form' => exact ih (OpenForm.step_iff.2 hadvance).begun
      | form n => simp
      | fault f => simp
      | close =>
          -- a form of which something has been read takes its own closing parentheses only
          obtain ⟨rfl, -⟩ := (OpenForm.step_iff.2 hadvance).of_close
          exact absurd hform OpenForm.not_begun_empty

theorem readForm_rparen {limit depth : Int} {t : Token} (ht : t.kind = .rparen)
    (ts : List Token) : readForm limit depth {} (t :: ts) = ⟨.ok none, ts⟩ := by
  rw [readForm, (OpenForm.Step.close ht).advance_eq]

theorem readForm_eq_none_iff {limit depth : Int} {ts : List Token} :
    (readForm limit depth {} ts).outcome = .ok none ↔ ∃ t us, ts = t :: us ∧ t.kind = .rparen := by
  constructor
  · intro h
    cases ts with
    | nil => simp [readForm] at h
    | cons t us =>
        rw [readForm] at h
        cases hadvance : OpenForm.advance limit depth {} t with
        | more form' =>
            rw [hadvance] at h
            exact absurd h (readForm_ne_none (OpenForm.step_iff.2 hadvance).begun us)
        | form n => simp [hadvance] at h
        | fault f => simp [hadvance] at h
        | close => exact ⟨t, us, rfl, (OpenForm.step_iff.2 hadvance).of_close.2⟩
  · rintro ⟨t, us, rfl, ht⟩
    rw [readForm_rparen ht]

/-! ## The tokens of a form -/

/-- Unless the tokens ended too early, what follows those that were read does not matter. -/
theorem readForm_change_rest {limit depth : Int} {form : OpenForm} {used rest : List Token}
    {outcome : Except ReadFault (Option Node)}
    (h : readForm limit depth form (used ++ rest) = ⟨outcome, rest⟩)
    (hend : outcome ≠ .error .unexpectedEnd) (more : List Token) :
    readForm limit depth form (used ++ more) = ⟨outcome, more⟩ := by
  induction used generalizing form with
  | nil =>
      -- nothing is read only where there is nothing to read
      rw [List.nil_append] at h
      cases rest with
      | nil =>
          obtain rfl : .error .unexpectedEnd = outcome := by simpa [readForm] using h
          exact absurd rfl hend
      | cons t rest =>
          have hle := (consumes_readForm limit depth form (t :: rest)).length_le
          rw [h, List.tail_cons, List.length_cons] at hle
          omega
  | cons t used ih =>
      rw [List.cons_append, readForm] at h ⊢
      cases hadvance : form.advance limit depth t with
      | more form' =>
          rw [hadvance] at h
          exact ih h
      | form n =>
          obtain ⟨rfl, rfl⟩ : .ok (some n) = outcome ∧ used = [] := by simpa [hadvance] using h
          rfl
      | close =>
          obtain ⟨rfl, rfl⟩ : .ok none = outcome ∧ used = [] := by simpa [hadvance] using h
          rfl
      | fault f =>
          obtain ⟨rfl, rfl⟩ : .error f = outcome ∧ used = [] := by simpa [hadvance] using h
          rfl

theorem readForms_of_readForm {limit : Int} {form : OpenForm} {ts rest : List Token} {n : Node}
    (h : readForm limit 0 form ts = ⟨.ok (some n), rest⟩) :
    readForms limit form ts = (readForms limit {} rest).map (n :: ·) := by
  induction ts generalizing form with
  | nil => simp [readForm] at h
  | cons t ts ih =>
      rw [readForm] at h
      rw [readForms]
      cases hadvance : form.advance limit 0 t with
      | more form' =>
          rw [hadvance] at h
          exact ih h
      | form m =>
          obtain ⟨rfl, rfl⟩ : m = n ∧ ts = rest := by simpa [hadvance] using h
          rfl
      | close => simp [hadvance] at h
      | fault f => simp [hadvance] at h

theorem flatten_of_readForm {limit depth : Int} {used rest : List Token} {n : Node}
    (h : readForm limit depth {} (used ++ rest) = ⟨.ok (some n), rest⟩) :
    n.isForm = true ∧ used.map Token.canonical = n.flatten := by
  have halone : readForm limit depth {} used = ⟨.ok (some n), []⟩ := by
    simpa using readForm_change_rest h (by simp) []
  rw [readForm_shift] at halone
  have hforms : (readForms (limit - depth) {} used).outcome = .ok [n] := by
    rw [readForms_of_readForm halone]
    rfl
  obtain ⟨hfits, hflat⟩ := readForms_eq_ok hforms
  refine ⟨(hfits n (by simp)).1, ?_⟩
  rw [← hflat, flattenAll, flattenAll, List.append_nil]

end Node

/-! ## Forms anywhere in a token list -/

namespace TreeReader

theorem exists_used_form (r : TreeReader) (depth : Int) :
    ∃ used rest, r.cursor.rest = used ++ rest ∧
      (r.form depth).2.cursor.pos = r.cursor.pos + used.length ∧
      Node.readForm r.maxDepth depth {} (used ++ rest) = ⟨(r.form depth).1, rest⟩ := by
  obtain ⟨used, hused, hpos⟩ :=
    Cursor.exists_used (c := r.cursor) ((Node.consumes_readForm r.maxDepth depth {}).rest_suffix _)
  refine ⟨used, _, hused, hpos, ?_⟩
  rw [← hused]
  rfl

theorem form_of_readForm {r : TreeReader} {depth : Int} {used rest : List Token}
    {outcome : Except ReadFault (Option Node)} (hrest : r.cursor.rest = used ++ rest)
    (h : Node.readForm r.maxDepth depth {} (used ++ rest) = ⟨outcome, rest⟩) :
    (r.form depth).1 = outcome ∧ (r.form depth).2.cursor.pos = r.cursor.pos + used.length := by
  simp [form, read, Cursor.run, Cursor.seek, hrest, h]

theorem rest_eq_cons_iff {r : TreeReader} {t : Token} :
    (∃ us, r.cursor.rest = t :: us) ↔ r.cursor.items[r.cursor.pos]? = some t := by
  rw [← List.head?_eq_some_iff, Cursor.rest, List.head?_drop]

theorem form_eq_none_iff {r : TreeReader} {depth : Int} :
    (r.form depth).1 = .ok none ↔
      ∃ t, r.cursor.items[r.cursor.pos]? = some t ∧ t.kind = .rparen := by
  have hnone : (r.form depth).1 = .ok none ↔
      ∃ t us, r.cursor.rest = t :: us ∧ t.kind = .rparen := Node.readForm_eq_none_iff
  simp only [hnone, ← rest_eq_cons_iff, exists_and_right]

theorem pos_form_of_none {r : TreeReader} {depth : Int} (h : (r.form depth).1 = .ok none) :
    (r.form depth).2.cursor.pos = r.cursor.pos + 1 := by
  obtain ⟨t, ht, hkind⟩ := form_eq_none_iff.1 h
  obtain ⟨us, hus⟩ := rest_eq_cons_iff.2 ht
  have hrest : r.cursor.rest = [t] ++ us := hus
  exact (form_of_readForm hrest (Node.readForm_rparen hkind us)).2

theorem form_shift (r : TreeReader) (depth : Int) :
    (r.setMaxDepth (r.maxDepth - depth)).form 0 =
      ((r.form depth).1, (r.form depth).2.setMaxDepth (r.maxDepth - depth)) := by
  have hread : Node.readForm r.maxDepth depth {} = Node.readForm (r.maxDepth - depth) 0 {} :=
    funext (Node.readForm_shift _ _ _)
  unfold form
  rw [hread]
  rfl

/-- Reading a form reads exactly that form and looks at nothing else. Unless the tokens end too
early, the outcome, be it a fault, and the new place depend only on the tokens between the old place
and the new one. A node is read from its own tokens, up to the texts of parentheses. Nothing is read
exactly from a closing parenthesis. The depth and the limit count only through their difference. -/
theorem form_depends_on_its_tokens (ts : List Token) (p : Nat) (maxDepth depth : Int) :
    let r : TreeReader := { cursor := { items := ts, pos := p }, maxDepth }
    let q := (r.form depth).2.cursor.pos
    let used := (ts.drop p).take (q - p)
    ((r.form depth).1 ≠ .error .unexpectedEnd →
      ∀ before after : List Token, before.length = p →
        let other : TreeReader :=
          { cursor := { items := before ++ used ++ after, pos := p }, maxDepth }
        (other.form depth).1 = (r.form depth).1 ∧ (other.form depth).2.cursor.pos = q) ∧
    (∀ n, (r.form depth).1 = .ok (some n) →
      n.isForm = true ∧ used.map Token.canonical = n.flatten) ∧
    ((r.form depth).1 = .ok none ↔ ∃ t, ts[p]? = some t ∧ t.kind = .rparen) ∧
    ((r.form depth).1 = .ok none → q = p + 1) ∧
    ((r.setMaxDepth (maxDepth - depth)).form 0).1 = (r.form depth).1 ∧
    ((r.setMaxDepth (maxDepth - depth)).form 0).2.cursor = (r.form depth).2.cursor := by
  intro r q used
  obtain ⟨used', rest, hdrop, hpos, hread⟩ := r.exists_used_form depth
  obtain rfl : used' = used := by
    have hlength : q - p = used'.length := Nat.sub_eq_of_eq_add' hpos
    change used' = (ts.drop p).take (q - p)
    rw [hlength, show ts.drop p = used' ++ rest from hdrop, List.take_left]
  refine ⟨?_, ?_, form_eq_none_iff, pos_form_of_none, ?_, ?_⟩
  · rintro hend before after rfl other
    have hother : other.cursor.rest = used ++ after := by
      simp [other, Cursor.rest]
    obtain ⟨houtcome, hplace⟩ :=
      form_of_readForm hother (Node.readForm_change_rest hread hend after)
    exact ⟨houtcome, hplace.trans hpos.symm⟩
  · intro n hn
    rw [hn] at hread
    exact Node.flatten_of_readForm hread
  · rw [r.form_shift]
  · rw [r.form_shift]
    rfl

/-- The tokens of `) (f (g) 1) 2`. -/
def formAfterClose : List Token :=
  [.rparen, .lparen, ⟨.ident, "f"⟩, .lparen, ⟨.ident, "g"⟩, .rparen, ⟨.number, "1"⟩, .rparen,
    ⟨.number, "2"⟩]

theorem form_depends_on_its_tokens_nested :
    let r : TreeReader := { cursor := { items := formAfterClose, pos := 1 }, maxDepth := 2 }
    let n := Node.call ⟨"f", by decide⟩ [.call ⟨"g", by decide⟩ [], .number "1"]
    (r.form 0).1 = .ok (some n) ∧ (r.form 0).2.cursor.pos = 8 ∧
      (r.form 1).1 = .error (.nestingTooDeep (some .lparen)) ∧ (r.form 1).2.cursor.pos = 4 ∧
      (∀ (t : Token) (after : List Token),
        let items := t :: (formAfterClose.drop 1).take 3 ++ after
        (({ cursor := { items, pos := 1 }, maxDepth := 2 } : TreeReader).form 1).1 =
          .error (.nestingTooDeep (some .lparen))) ∧
      ((formAfterClose.drop 1).take 7).map Token.canonical = n.flatten ∧
      ((r.setMaxDepth 1).form 0).1 = .error (.nestingTooDeep (some .lparen)) := by
  intro r n
  obtain ⟨-, hnode, -⟩ := form_depends_on_its_tokens formAfterClose 1 2 0
  obtain ⟨hlocal, -, -, -, hshift, -⟩ := form_depends_on_its_tokens formAfterClose 1 2 1
  have hform : (r.form 0).1 = .ok (some n) := rfl
  have hdeep : (r.form 1).1 = .error (.nestingTooDeep (some .lparen)) := rfl
  refine ⟨hform, rfl, hdeep, rfl, fun t after => ?_, (hnode n hform).2, hshift⟩
  exact (hlocal (by decide) [t] after rfl).1

end TreeReader

end SexprAsm
