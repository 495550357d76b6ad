import SexprAsm.Node.Reader

/-!
# What one token does

The rules by which a token extends a form in progress, completes it or is refused. They are exactly
what the reader does, so a fact about every token is a case analysis over the rules.
-/

namespace SexprAsm.OpenForm

/-- The token completes a node, which then goes to the calls given last. -/
inductive Completes : OpenForm → Token → Node → List OpenCall → Prop
  | number {calls : List OpenCall} {t : Token} (ht : t.kind = .number) :
      Completes { calls } t (.number t.text) calls
  | string {calls : List OpenCall} {t : Token} (ht : t.kind = .string) :
      Completes { calls } t (.string t.text) calls
  | call {inner : OpenCall} {outer : List OpenCall} {t : Token} {op : Operator}
      (ht : t.kind = .rparen) (hop : Operator.ofText? inner.operator = some op) :
      Completes { calls := inner :: outer } t (.call op inner.arguments.reverse) outer

inductive Step (limit depth : Int) : OpenForm → Token → Progress → Prop
  | opener {calls : List OpenCall} {t : Token} (ht : t.kind = .lparen)
      (hlevel : depth + calls.length + 1 ≤ limit) :
      Step limit depth { calls } t (.more { calls, awaitsOperator := true })
  | operator {calls : List OpenCall} {t : Token} (ht : t.kind = .ident) :
      Step limit depth { calls, awaitsOperator := true } t
        (.more { calls := { operator := t.text } :: calls })
  | argument {form : OpenForm} {t : Token} {n : Node} {inner : OpenCall} {outer : List OpenCall}
      (h : Completes form t n (inner :: outer)) :
      Step limit depth form t
        (.more { calls := { inner with arguments := n :: inner.arguments } :: outer })
  | form {form : OpenForm} {t : Token} {n : Node} (h : Completes form t n []) :
      Step limit depth form t (.form n)
  | close {t : Token} (ht : t.kind = .rparen) : Step limit depth {} t .close
  | nestingTooDeep {calls : List OpenCall} {t : Token} (ht : t.kind = .lparen)
      (hlevel : limit < depth + calls.length + 1) :
      Step limit depth { calls } t (.fault (.nestingTooDeep (some t)))
  | missingOperator {calls : List OpenCall} {t : Token} (ht : t.kind ≠ .ident) :
      Step limit depth { calls, awaitsOperator := true } t (.fault (.missingOperator t))
  | unknownToken {calls : List OpenCall} {t : Token} (ht : t.kind = .ident) :
      Step limit depth { calls } t (.fault (.unknownToken t))
  | emptyOperator {inner : OpenCall} {outer : List OpenCall} {t : Token} (ht : t.kind = .rparen)
      (hop : Operator.ofText? inner.operator = none) :
      Step limit depth { calls := inner :: outer } t (.fault .emptyOperator)

variable {limit depth : Int} {form : OpenForm} {t : Token}

theorem Completes.step {n : Node} {calls : List OpenCall} (h : Completes form t n calls) :
    Step limit depth form t (deliver n calls) := by
  cases calls with
  | nil => exact .form h
  | cons inner outer => exact .argument h

theorem Completes.advance_eq {n : Node} {calls : List OpenCall} (h : Completes form t n calls) :
    form.advance limit depth t = deliver n calls := by
  cases h with
  | number ht => simp [advance, ht]
  | string ht => simp [advance, ht]
  | call ht hop => simp [advance, ht, close, hop]

theorem Step.advance_eq {p : Progress} (h : Step limit depth form t p) :
    form.advance limit depth t = p := by
  cases h with
  | opener ht hlevel => simp [advance, ht, Int.not_lt.2 hlevel]
  | operator ht => simp [advance, ht]
  | argument h => exact h.advance_eq
  | form h => exact h.advance_eq
  | close ht => simp [advance, ht, OpenForm.close]
  | nestingTooDeep ht hlevel => simp [advance, ht, hlevel]
  | missingOperator ht => cases hkind : t.kind <;> simp_all [advance]
  | unknownToken ht => simp [advance, ht]
  | emptyOperator ht hop => simp [advance, ht, OpenForm.close, hop]

theorem exists_step (limit depth : Int) (form : OpenForm) (t : Token) :
    ∃ p, Step limit depth form t p := by
  obtain ⟨calls, awaits⟩ := form
  cases awaits with
  | true =>
      by_cases ht : t.kind = .ident
      · exact ⟨_, .operator ht⟩
      · exact ⟨_, .missingOperator ht⟩
  | false =>
      cases ht : t.kind with
      | number => exact ⟨_, (Completes.number ht).step⟩
      | string => exact ⟨_, (Completes.string ht).step⟩
      | ident => exact ⟨_, .unknownToken ht⟩
      | lparen =>
          by_cases hlevel : limit < depth + calls.length + 1
          · exact ⟨_, .nestingTooDeep ht hlevel⟩
          · exact ⟨_, .opener ht (Int.not_lt.1 hlevel)⟩
      | rparen =>
          cases calls with
          | nil => exact ⟨_, .close ht⟩
          | cons inner outer =>
              cases hop : Operator.ofText? inner.operator with
              | some op => exact ⟨_, (Completes.call ht hop).step⟩
              | none => exact ⟨_, .emptyOperator ht hop⟩

/-- The rules are what the reader does. -/
theorem step_iff {p : Progress} : Step limit depth form t p ↔ form.advance limit depth t = p := by
  constructor
  · exact Step.advance_eq
  · rintro rfl
    obtain ⟨p, hp⟩ := exists_step limit depth form t
    rwa [hp.advance_eq]

end SexprAsm.OpenForm
