import SexprAsm.Proofs.Flatten

/-!
# The nesting limit

A higher limit changes nothing for the reader until a call goes too deep under the lower one. So
the ceiling on nesting, which no limit can raise, stays out of sight as long as it is not the
reason of a failure.
-/

namespace SexprAsm

theorem OpenForm.advance_raise {limit limit' : Int} (h : limit ≤ limit') (depth : Int)
    (form : OpenForm) (t : Token) :
    form.advance limit depth t = form.advance limit' depth t ∨
      form.advance limit depth t = .fault (.nestingTooDeep (some t)) := by
  obtain ⟨calls, awaits⟩ := form
  cases awaits with
  | true => exact .inl rfl
  | false =>
      obtain ⟨kind, text⟩ := t
      cases kind with
      | lparen =>
          by_cases hdeep : limit < depth + calls.length + 1
          · right
            simp [advance, hdeep]
          · have hdeep' : ¬limit' < depth + calls.length + 1 := by omega
            left
            simp [advance, hdeep, hdeep']
      | rparen => exact .inl rfl
      | ident => exact .inl rfl
      | number => exact .inl rfl
      | string => exact .inl rfl

namespace Node

theorem readForms_raise {limit limit' : Int} (h : limit ≤ limit') (form : OpenForm)
    (ts : List Token) :
    readForms limit form ts = readForms limit' form ts ∨
      ∃ t, (readForms limit form ts).outcome = .error (.nestingTooDeep (some t)) := by
  induction ts generalizing form with
  | nil => exact .inl rfl
  | cons t ts ih =>
      rcases form.advance_raise h 0 t with hsame | hdeep
      · rw [readForms, readForms, ← hsame]
        cases form.advance limit 0 t with
        | more form => exact ih form
        | close => exact .inl rfl
        | fault f => exact .inl rfl
        | form n =>
            dsimp only
            rcases ih {} with hrest | ⟨u, hrest⟩
            · exact .inl (by rw [hrest])
            · exact .inr ⟨u, by rw [Reading.map, hrest]; rfl⟩
      · right
        exact ⟨t, by rw [readForms, hdeep]⟩

/-- Reading does not fail for going past the ceiling. -/
def BelowCeiling (maxDepth : Int) (ts : List Token) : Prop :=
  ofTokens maxDepth ts ≠ .error (.nestingTooDeep none)

instance (maxDepth : Int) (ts : List Token) : Decidable (BelowCeiling maxDepth ts) :=
  inferInstanceAs (Decidable (_ ≠ _))

theorem BelowCeiling.reported_eq {maxDepth : Int} {ts : List Token} (h : BelowCeiling maxDepth ts)
    {f : ReadFault} (hf : (readForms (min maxDepth nestingCeiling) {} ts).outcome = .error f) :
    f.reported maxDepth = f := by
  apply ReadFault.reported_eq
  intro hdeep
  exact h (ofTokens_eq_error_iff.2 ⟨f, hf, hdeep⟩)

theorem ofTokens_of_belowCeiling {maxDepth : Int} {ts : List Token}
    (h : BelowCeiling maxDepth ts) :
    ofTokens maxDepth ts = (readForms maxDepth {} ts).outcome.map program := by
  have hread : ofTokens maxDepth ts =
      (readForms (min maxDepth nestingCeiling) {} ts).outcome.map program := by
    rw [ofTokens_eq]
    cases houtcome : (readForms (min maxDepth nestingCeiling) {} ts).outcome with
    | ok forms => rfl
    | error f => rw [Except.mapError, h.reported_eq houtcome]
  rcases readForms_raise (Int.min_le_left maxDepth nestingCeiling) {} ts with hsame | ⟨t, hdeep⟩
  · rw [hread, hsame]
  · by_cases hle : maxDepth ≤ nestingCeiling
    · rw [hread, Int.min_eq_left hle]
    · -- a call past the ceiling is reported without its opener
      have hreported := h.reported_eq hdeep
      simp [ReadFault.reported, hle, ReadFault.withoutOpener] at hreported

end Node

end SexprAsm
