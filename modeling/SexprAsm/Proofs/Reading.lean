import SexprAsm.Reading

/-!
# Readings

When a mapped reading succeeds, and with what, and where a cursor stands after a reading.
-/

namespace SexprAsm.Reading

variable {ι ε α β : Type}

theorem map_id (r : Reading ι ε α) : r.map (fun a => a) = r := by
  obtain ⟨outcome, rest⟩ := r
  cases outcome <;> rfl

theorem map_map {γ : Type} (f : α → β) (g : β → γ) (r : Reading ι ε α) :
    (r.map f).map g = r.map fun a => g (f a) := by
  obtain ⟨outcome, rest⟩ := r
  cases outcome <;> rfl

theorem outcome_map_eq_ok_iff {r : Reading ι ε α} {f : α → β} {b : β} :
    (r.map f).outcome = .ok b ↔ ∃ a, r.outcome = .ok a ∧ f a = b := by
  obtain ⟨outcome, rest⟩ := r
  cases outcome <;> simp [map, Except.map]

theorem outcome_map_eq_error_iff {r : Reading ι ε α} {f : α → β} {e : ε} :
    (r.map f).outcome = .error e ↔ r.outcome = .error e := by
  obtain ⟨outcome, rest⟩ := r
  cases outcome <;> simp [map, Except.map]

theorem map_eq_error_iff {r : Reading ι ε α} {f : α → β} {e : ε} {rest : List ι} :
    r.map f = ⟨.error e, rest⟩ ↔ r = ⟨.error e, rest⟩ := by
  obtain ⟨outcome, left⟩ := r
  cases outcome <;> simp [map, Except.map]

theorem map_eq_ok_iff {r : Reading ι ε α} {f : α → β} {b : β} {rest : List ι} :
    r.map f = ⟨.ok b, rest⟩ ↔ ∃ a, r = ⟨.ok a, rest⟩ ∧ f a = b := by
  obtain ⟨outcome, left⟩ := r
  cases outcome with
  | error fault => simp [map, Except.map]
  | ok a =>
      simp only [map, Except.map, mk.injEq, Except.ok.injEq]
      constructor
      · rintro ⟨rfl, rfl⟩
        exact ⟨a, ⟨rfl, rfl⟩, rfl⟩
      · rintro ⟨_, ⟨rfl, rfl⟩, rfl⟩
        exact ⟨rfl, rfl⟩

end SexprAsm.Reading

namespace SexprAsm.Cursor

variable {ι ε α : Type}

theorem run_mk (items : List ι) (read : List ι → Reading ι ε α) :
    Cursor.run { items } read =
      ((read items).outcome, { items, pos := items.length - (read items).rest.length }) := by
  simp [Cursor.run, Cursor.rest, Cursor.seek]

theorem rest_eq_cons {c : Cursor ι} {a : ι} (h : c.items[c.pos]? = some a) :
    c.rest = a :: c.items.drop (c.pos + 1) := by
  obtain ⟨hpos, rfl⟩ := List.getElem?_eq_some_iff.1 h
  exact List.drop_eq_getElem_cons hpos

theorem exists_drop_of_suffix {c : Cursor ι} {left : List ι} (h : left <:+ c.rest) :
    ∃ q, c.pos ≤ q ∧ q ≤ max c.pos c.items.length ∧ left = c.items.drop q := by
  obtain ⟨used, hused⟩ := h
  have hlength : used.length + left.length = c.items.length - c.pos := by
    rw [← List.length_append, hused, rest, List.length_drop]
  refine ⟨c.pos + used.length, Nat.le_add_right _ _, by omega, ?_⟩
  rw [← List.drop_drop]
  change left = c.rest.drop used.length
  rw [← hused, List.drop_left]

variable {c : Cursor ι} {read : List ι → Reading ι ε α} (h : (read c.rest).rest <:+ c.rest)

include h

/-- After a reading, what is left unread lies right at the position. -/
theorem rest_run : (c.run read).2.rest = (read c.rest).rest := by
  have hdrop : (read c.rest).rest = c.rest.drop (c.rest.length - (read c.rest).rest.length) :=
    List.suffix_iff_eq_drop.1 h
  change c.items.drop (c.pos + _) = _
  rw [← List.drop_drop]
  exact hdrop.symm

theorem exists_used :
    ∃ used, c.rest = used ++ (read c.rest).rest ∧ (c.run read).2.pos = c.pos + used.length := by
  obtain ⟨used, hused⟩ := h
  refine ⟨used, hused.symm, ?_⟩
  change c.pos + (c.rest.length - _) = _
  rw [← hused, List.length_append, hused, Nat.add_sub_cancel]

end SexprAsm.Cursor
