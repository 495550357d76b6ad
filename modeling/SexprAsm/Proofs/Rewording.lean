import SexprAsm.Proofs.Flatten

/-!
# Reading reworded tokens

The reader goes by the kinds of tokens. It passes their texts on, and looks at one only to see
whether an operator has any. So it commutes with every change of the texts that leaves this alone:
from the reworded tokens it reads the reworded trees, or fails at the same place with the reworded
fault.
-/

namespace SexprAsm

/-- A change of the texts of tokens, of its own for each kind. -/
structure Rewording where
  text : Token.Kind → String → String
  ident_eq_empty_iff : ∀ s, text .ident s = "" ↔ s = ""

/-! ## Tokens, trees and forms in progress -/

def Token.reword (w : Rewording) (t : Token) : Token :=
  { t with text := w.text t.kind t.text }

def Operator.reword (w : Rewording) (op : Operator) : Operator where
  text := w.text .ident op.text
  ne_empty h := op.ne_empty ((w.ident_eq_empty_iff op.text).1 h)

theorem Operator.ofText?_reword (w : Rewording) (text : String) :
    ofText? (w.text .ident text) = (ofText? text).map (reword w) := by
  by_cases h : text = ""
  · have hreworded := (w.ident_eq_empty_iff text).2 h
    rw [ofText?, ofText?, dif_neg (not_not.2 hreworded), dif_neg (not_not.2 h)]
    rfl
  · have hreworded : w.text .ident text ≠ "" := mt (w.ident_eq_empty_iff text).1 h
    rw [ofText?_of_ne hreworded, ofText?_of_ne h]
    rfl

namespace Node

mutual

def reword (w : Rewording) : Node → Node
  | program forms => program (rewordAll w forms)
  | call op args => call (op.reword w) (rewordAll w args)
  | number digits => number (w.text .number digits)
  | string text => string (w.text .string text)
  | other => other

def rewordAll (w : Rewording) : List Node → List Node
  | [] => []
  | n :: ns => reword w n :: rewordAll w ns

end

theorem rewordAll_eq_map (w : Rewording) (ns : List Node) : rewordAll w ns = ns.map (reword w) := by
  induction ns with
  | nil => rfl
  | cons n ns ih => rw [rewordAll, List.map_cons, ih]

theorem rewordAll_reverse (w : Rewording) (ns : List Node) :
    rewordAll w ns.reverse = (rewordAll w ns).reverse := by
  rw [rewordAll_eq_map, rewordAll_eq_map, List.map_reverse]

end Node

def OpenCall.reword (w : Rewording) (call : OpenCall) : OpenCall where
  operator := w.text .ident call.operator
  arguments := Node.rewordAll w call.arguments

def OpenForm.reword (w : Rewording) (form : OpenForm) : OpenForm where
  calls := form.calls.map (OpenCall.reword w)
  awaitsOperator := form.awaitsOperator

/-! ## What reading comes to -/

def ReadFault.reword (w : Rewording) : ReadFault → ReadFault
  | .unexpectedEnd => .unexpectedEnd
  | .nestingTooDeep opener => .nestingTooDeep (opener.map (Token.reword w))
  | .missingOperator t => .missingOperator (t.reword w)
  | .unknownToken t => .unknownToken (t.reword w)
  | .unmatchedClose t => .unmatchedClose (t.reword w)
  | .emptyOperator => .emptyOperator

theorem ReadFault.nestingTooDeep_of_reword {w : Rewording} {f : ReadFault} {t : Token}
    (h : f.reword w = .nestingTooDeep (some t)) :
    ∃ opener, f = .nestingTooDeep (some opener) ∧ opener.reword w = t := by
  cases f with
  | nestingTooDeep opener =>
      obtain ⟨u, rfl, hu⟩ : ∃ u, opener = some u ∧ u.reword w = t := by
        simpa [reword] using h
      exact ⟨u, rfl, hu⟩
  | _ => simp [reword] at h

def Progress.reword (w : Rewording) : Progress → Progress
  | .more started => .more (started.reword w)
  | .form n => .form (n.reword w)
  | .close => .close
  | .fault f => .fault (f.reword w)

namespace Reading

def reword (w : Rewording) (r : Reading Token ReadFault (List Node)) :
    Reading Token ReadFault (List Node) :=
  ⟨(r.outcome.map (Node.rewordAll w)).mapError (ReadFault.reword w), r.rest.map (Token.reword w)⟩

theorem reword_map_cons (w : Rewording) (n : Node) (r : Reading Token ReadFault (List Node)) :
    (r.map (n :: ·)).reword w = (r.reword w).map (n.reword w :: ·) := by
  obtain ⟨outcome, rest⟩ := r
  cases outcome <;> rfl

theorem exists_of_reword_eq_error {w : Rewording} {r : Reading Token ReadFault (List Node)}
    {g : ReadFault} {rest : List Token} (h : r.reword w = ⟨.error g, rest⟩) :
    ∃ f rest', r = ⟨.error f, rest'⟩ ∧ f.reword w = g ∧ rest'.map (Token.reword w) = rest := by
  obtain ⟨outcome, rest'⟩ := r
  cases outcome with
  | ok forms => simp [reword, Except.map, Except.mapError] at h
  | error f =>
      obtain ⟨hf, hrest⟩ : f.reword w = g ∧ rest'.map (Token.reword w) = rest := by
        simpa [reword, Except.map, Except.mapError] using h
      exact ⟨f, rest', rfl, hf, hrest⟩

end Reading

/-! ## Reading commutes -/

namespace OpenForm

variable (w : Rewording)

theorem deliver_reword (n : Node) (calls : List OpenCall) :
    deliver (n.reword w) (calls.map (OpenCall.reword w)) = (deliver n calls).reword w := by
  cases calls <;> rfl

theorem close_reword (calls : List OpenCall) :
    close (calls.map (OpenCall.reword w)) = (close calls).reword w := by
  cases calls with
  | nil => rfl
  | cons inner outer =>
      have hop : Operator.ofText? (inner.reword w).operator =
          (Operator.ofText? inner.operator).map (Operator.reword w) :=
        Operator.ofText?_reword w inner.operator
      have hargs : (inner.reword w).arguments.reverse =
          Node.rewordAll w inner.arguments.reverse :=
        (Node.rewordAll_reverse w inner.arguments).symm
      rw [List.map_cons, close, close, hop, hargs]
      cases Operator.ofText? inner.operator with
      | none => rfl
      | some op => exact deliver_reword w (.call op inner.arguments.reverse) outer

/-- A reworded token does to the reworded form what the token does to the form. -/
theorem advance_reword (limit depth : Int) (form : OpenForm) (t : Token) :
    (form.reword w).advance limit depth (t.reword w) =
      (form.advance limit depth t).reword w := by
  obtain ⟨calls, awaits⟩ := form
  obtain ⟨kind, text⟩ := t
  cases awaits with
  | true => cases kind <;> rfl
  | false =>
      cases kind with
      | number => exact deliver_reword w (.number text) calls
      | string => exact deliver_reword w (.string text) calls
      | rparen => exact close_reword w calls
      | ident => rfl
      | lparen =>
          -- rewording keeps the number of open calls, which the limit is compared with
          by_cases hdeep : limit < depth + calls.length + 1
          · simp [advance, reword, Token.reword, Progress.reword, ReadFault.reword, hdeep]
          · simp [advance, reword, Token.reword, Progress.reword, hdeep]

end OpenForm

namespace Node

variable (w : Rewording)

/-- Reading commutes with rewording, whether it succeeds or fails. -/
theorem readForms_reword (limit : Int) (form : OpenForm) (ts : List Token) :
    readForms limit (form.reword w) (ts.map (Token.reword w)) =
      (readForms limit form ts).reword w := by
  induction ts generalizing form with
  | nil =>
      have hempty : (form.reword w).calls.isEmpty = form.calls.isEmpty := by simp [OpenForm.reword]
      have hawaits : (form.reword w).awaitsOperator = form.awaitsOperator := rfl
      rw [List.map_nil, readForms, readForms, hempty, hawaits]
      split <;> rfl
  | cons t ts ih =>
      rw [List.map_cons, readForms, readForms, form.advance_reword]
      cases form.advance limit 0 t with
      | more form' => exact ih form'
      | form n =>
          have hrest := congrArg (·.map (n.reword w :: ·)) (ih {})
          exact hrest.trans (Reading.reword_map_cons w n _).symm
      | close => rfl
      | fault f => rfl

end Node

end SexprAsm
