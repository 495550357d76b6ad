import SexprAsm.Node.TreeReader
import SexprAsm.Proofs.ValidPrefix

/-!
# Progress of tree readers

A tree reader never goes back and never leaves its tokens, whatever it is asked for and whatever
fails. Every attempt to read a token, a form or a program uses up at least one token while there are
any, so repeated attempts come to the end.
-/

namespace SexprAsm

/-! ## What is left unread -/

/-- What is left is an end of the tokens, and at least one token is used up if there is any. -/
def Consumes {α : Type} (piece : List Token → Reading Token ReadFault α) : Prop :=
  ∀ ts, (piece ts).rest <:+ ts.tail

theorem Consumes.rest_suffix {α : Type} {piece : List Token → Reading Token ReadFault α}
    (h : Consumes piece) (ts : List Token) : (piece ts).rest <:+ ts :=
  (h ts).trans (List.tail_suffix ts)

theorem Token.consumes_next : Consumes Token.next := by
  intro ts
  cases ts <;> exact List.suffix_refl _

namespace Node

theorem consumes_readForm (limit depth : Int) (form : OpenForm) :
    Consumes (readForm limit depth form) := by
  intro ts
  induction ts generalizing form with
  | nil => exact List.suffix_refl _
  | cons t ts ih =>
      rw [readForm]
      cases form.advance limit depth t with
      | more form' => exact (ih form').trans (List.tail_suffix ts)
      | form n => exact List.suffix_refl _
      | close => exact List.suffix_refl _
      | fault f => exact List.suffix_refl _

theorem consumes_readForms (limit : Int) (form : OpenForm) : Consumes (readForms limit form) := by
  intro ts
  induction ts generalizing form with
  | nil =>
      rw [readForms]
      split <;> exact List.suffix_refl _
  | cons t ts ih =>
      rw [readForms]
      cases form.advance limit 0 t with
      | more form' => exact (ih form').trans (List.tail_suffix ts)
      | form n => exact (ih {}).trans (List.tail_suffix ts)
      | close => exact List.suffix_refl _
      | fault f => exact List.suffix_refl _

theorem consumes_readProgram (maxDepth : Int) : Consumes (readProgram maxDepth) := by
  intro ts
  rw [rest_readProgram]
  exact consumes_readForms _ _ ts

theorem rest_readForms_of_ok {limit : Int} {form : OpenForm} {ts : List Token}
    {forms : List Node} (h : (readForms limit form ts).outcome = .ok forms) :
    (readForms limit form ts).rest = [] := by
  induction ts generalizing form forms with
  | nil =>
      rw [readForms]
      split <;> rfl
  | cons t ts ih =>
      rw [readForms] at h ⊢
      cases hadvance : form.advance limit 0 t with
      | more form' =>
          rw [hadvance] at h
          exact ih h
      | form n =>
          rw [hadvance] at h
          obtain ⟨more, hmore, -⟩ := Reading.outcome_map_eq_ok_iff.1 h
          exact ih hmore
      | close => simp [hadvance] at h
      | fault f => simp [hadvance] at h

theorem rest_readProgram_of_ok {maxDepth : Int} {ts : List Token} {tree : Node}
    (h : (readProgram maxDepth ts).outcome = .ok tree) : (readProgram maxDepth ts).rest = [] := by
  obtain ⟨forms, hforms, -⟩ := ofTokens_eq_ok_iff.1 h
  rw [rest_readProgram]
  exact rest_readForms_of_ok hforms

theorem readProgram_nil (maxDepth : Int) : readProgram maxDepth [] = ⟨.ok (program []), []⟩ := by
  rw [readProgram_eq]
  rfl

end Node

/-! ## One operation -/

namespace TreeReader

/-- What a tree reader can be asked for. -/
inductive Operation where
  | token
  | atEnd
  | form (depth : Int)
  | call (opener : Token) (depth : Int)
  | program
  | setMaxDepth (maxDepth : Int)

def after (r : TreeReader) : Operation → TreeReader
  | .token => r.token.2
  | .atEnd => r
  | .form depth => (r.form depth).2
  | .call opener depth => (r.call opener depth).2
  | .program => r.program.2
  | .setMaxDepth maxDepth => r.setMaxDepth maxDepth

def run (r : TreeReader) (operations : List Operation) : TreeReader :=
  operations.foldl after r

/-- The reader stands among its tokens, at most at their end. -/
structure Within (ts : List Token) (r : TreeReader) : Prop where
  items_eq : r.cursor.items = ts
  pos_le : r.cursor.pos ≤ ts.length

variable {α : Type} {ts : List Token} {r : TreeReader}
variable {piece : List Token → Reading Token ReadFault α}

theorem within_ofTokens (ts : List Token) (maxDepth : Int) : (ofTokens ts maxDepth).Within ts :=
  ⟨rfl, Nat.zero_le _⟩

theorem Within.pos_add_length (h : r.Within ts) :
    r.cursor.pos + r.cursor.rest.length = ts.length := by
  have hle := h.pos_le
  rw [Cursor.rest, List.length_drop, h.items_eq]
  omega

theorem Within.rest_eq_nil_iff (h : r.Within ts) :
    r.cursor.rest = [] ↔ r.cursor.pos = ts.length := by
  have hlength := h.pos_add_length
  rw [← List.length_eq_zero_iff]
  omega

theorem rest_read (hpiece : Consumes piece) :
    (r.read piece).2.cursor.rest = (piece r.cursor.rest).rest :=
  Cursor.rest_run (hpiece.rest_suffix _)

theorem pos_le_pos_read : r.cursor.pos ≤ (r.read piece).2.cursor.pos :=
  Nat.le_add_right _ _

theorem Within.read (h : r.Within ts) : (r.read piece).2.Within ts := by
  refine ⟨h.items_eq, ?_⟩
  have hlength := h.pos_add_length
  change r.cursor.pos + (r.cursor.rest.length - (piece r.cursor.rest).rest.length) ≤ ts.length
  omega

theorem Within.after (h : r.Within ts) (operation : Operation) : (r.after operation).Within ts := by
  cases operation with
  | atEnd => exact h
  | setMaxDepth maxDepth => exact ⟨h.items_eq, h.pos_le⟩
  | token => exact h.read
  | form depth => exact h.read
  | call opener depth => exact h.read
  | program => exact h.read

theorem Within.run (h : r.Within ts) (operations : List Operation) :
    (r.run operations).Within ts := by
  induction operations generalizing r with
  | nil => exact h
  | cons operation operations ih => exact ih (h.after operation)

theorem pos_le_pos_after (r : TreeReader) (operation : Operation) :
    r.cursor.pos ≤ (r.after operation).cursor.pos := by
  cases operation with
  | atEnd => exact Nat.le_refl _
  | setMaxDepth maxDepth => exact Nat.le_refl _
  | token => exact pos_le_pos_read
  | form depth => exact pos_le_pos_read
  | call opener depth => exact pos_le_pos_read
  | program => exact pos_le_pos_read

theorem Within.pos_lt_pos_read (h : r.Within ts) (hpiece : Consumes piece)
    (hlt : r.cursor.pos < ts.length) : r.cursor.pos < (r.read piece).2.cursor.pos := by
  have hlength := h.pos_add_length
  have hle := (hpiece r.cursor.rest).length_le
  rw [List.length_tail] at hle
  change r.cursor.pos < r.cursor.pos + (r.cursor.rest.length - (piece r.cursor.rest).rest.length)
  omega

theorem Within.read_of_end (h : r.Within ts) (hpiece : Consumes piece)
    (hend : r.cursor.pos = ts.length) : r.read piece = ((piece []).outcome, r) := by
  have hrest := h.rest_eq_nil_iff.2 hend
  have hnil : (piece []).rest = [] := List.suffix_nil.1 (hpiece [])
  simp [TreeReader.read, Cursor.run, Cursor.seek, hrest, hnil]

/-! ## Programs again and again -/

theorem Within.pos_program_of_ok (h : r.Within ts) {tree : Node}
    (hok : r.program.1 = .ok tree) : r.program.2.cursor.pos = ts.length := by
  have hrest : r.program.2.cursor.rest = [] :=
    (rest_read (Node.consumes_readProgram _)).trans (Node.rest_readProgram_of_ok hok)
  exact (Within.rest_eq_nil_iff h.read).1 hrest

theorem Within.program_of_end (h : r.Within ts) (hend : r.cursor.pos = ts.length) :
    r.program = (.ok (.program []), r) := by
  have hread : r.program = ((Node.readProgram r.maxDepth []).outcome, r) :=
    h.read_of_end (Node.consumes_readProgram _) hend
  rwa [Node.readProgram_nil] at hread

theorem Within.pos_run_programs (h : r.Within ts) {n : Nat} (hn : r.cursor.rest.length ≤ n) :
    (r.run (List.replicate n .program)).cursor.pos = ts.length := by
  induction n generalizing r with
  | zero => exact h.rest_eq_nil_iff.1 (List.length_eq_zero_iff.1 (Nat.le_zero.1 hn))
  | succ n ih =>
      have hlength := h.pos_add_length
      have hread : r.program.2.Within ts := h.read
      have hlength' := hread.pos_add_length
      have hle : r.cursor.pos ≤ r.program.2.cursor.pos := pos_le_pos_read
      have hlt : r.cursor.pos < ts.length → r.cursor.pos < r.program.2.cursor.pos :=
        h.pos_lt_pos_read (Node.consumes_readProgram _)
      -- an attempt uses up a token as long as there is one
      have hshorter : r.program.2.cursor.rest.length ≤ n := by omega
      exact ih hread hshorter

/-- A tree reader makes progress and drains, through any operations, failed ones included. It never
goes back and never passes the end. As long as there is a token, reading a token, a form or a
program uses one up, also when it fails; at the end, reading a token or a form fails and moves
nothing. A program that is read reaches the end. So after as many attempts at a program as there are
tokens, every further one returns the empty program. -/
theorem reader_progresses_and_drains (ts : List Token) (maxDepth : Int)
    (operations : List Operation) :
    let r := (ofTokens ts maxDepth).run operations
    (∀ operation, r.cursor.pos ≤ (r.after operation).cursor.pos ∧
      (r.after operation).cursor.pos ≤ ts.length) ∧
    (r.cursor.pos < ts.length →
      r.cursor.pos < r.token.2.cursor.pos ∧
        (∀ depth, r.cursor.pos < (r.form depth).2.cursor.pos) ∧
        r.cursor.pos < r.program.2.cursor.pos) ∧
    (r.cursor.pos = ts.length →
      r.token = (.error .unexpectedEnd, r) ∧
        ∀ depth, r.form depth = (.error .unexpectedEnd, r)) ∧
    (∀ tree, r.program.1 = .ok tree → r.program.2.cursor.pos = ts.length) ∧
    ∀ n, ts.length ≤ n →
      (r.run (List.replicate n .program)).program.1 = .ok (.program []) := by
  intro r
  have h : r.Within ts := (within_ofTokens ts maxDepth).run operations
  refine ⟨fun operation => ⟨pos_le_pos_after r operation, (h.after operation).pos_le⟩,
    fun hlt => ⟨?_, fun depth => ?_, ?_⟩, fun hend => ⟨?_, fun depth => ?_⟩,
    fun tree => h.pos_program_of_ok, fun n hn => ?_⟩
  · exact h.pos_lt_pos_read Token.consumes_next hlt
  · exact h.pos_lt_pos_read (Node.consumes_readForm _ _ _) hlt
  · exact h.pos_lt_pos_read (Node.consumes_readProgram _) hlt
  · exact h.read_of_end Token.consumes_next hend
  · exact h.read_of_end (Node.consumes_readForm _ _ _) hend
  · have hlength := h.pos_add_length
    have hend := h.pos_run_programs (n := n) (by omega)
    rw [(h.run _).program_of_end hend]

/-- The tokens of `(f (g 1)) b`. -/
def nestedThenWord : List Token :=
  [.lparen, ⟨.ident, "f"⟩, .lparen, ⟨.ident, "g"⟩, ⟨.number, "1"⟩, .rparen, .rparen, ⟨.ident, "b"⟩]

/-- The first attempt goes too deep. With a higher limit, reading resumes inside the inner call,
where no form can be read. The attempts after it get to the end nevertheless. -/
theorem reader_progresses_and_drains_resumed :
    let r := (ofTokens nestedThenWord 1).run [.program, .setMaxDepth 2, .form 0]
    let drained := (ofTokens nestedThenWord 1).run (List.replicate 8 .program)
    r.cursor.pos = 4 ∧ 4 < r.token.2.cursor.pos ∧ (∀ depth, 4 < (r.form depth).2.cursor.pos) ∧
      4 < r.program.2.cursor.pos ∧
      (∀ n, 8 ≤ n → (r.run (List.replicate n .program)).program.1 = .ok (.program [])) ∧
      drained.program.1 = .ok (.program []) ∧ drained.program.2.cursor.pos = 8 ∧
      drained.token = (.error .unexpectedEnd, drained) := by
  intro r drained
  obtain ⟨-, hreads, -, -, hdrains⟩ :=
    reader_progresses_and_drains nestedThenWord 1 [.program, .setMaxDepth 2, .form 0]
  obtain ⟨-, -, hends, hprogram, -⟩ :=
    reader_progresses_and_drains nestedThenWord 1 (List.replicate 8 .program)
  have hpos : r.cursor.pos = 4 := rfl
  have hdrained : drained.program.1 = .ok (.program []) := rfl
  obtain ⟨htoken, hform, hattempt⟩ := hreads (by decide)
  exact ⟨hpos, htoken, hform, hattempt, hdrains, hdrained, hprogram _ hdrained, (hends rfl).1⟩

end TreeReader

end SexprAsm
