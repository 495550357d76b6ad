import SexprAsm.Node.Reader
import SexprAsm.Proofs.Reading
import Mathlib.Data.List.Basic

/-!
# Trees and their tokens

Flattening a tree writes its tokens in order. The reader is the inverse: from the tokens of forms
that fit the limit it reads these forms, and whatever it reads fits the limit and flattens to the
tokens, up to the texts of parentheses, which it does not look at.
-/

namespace SexprAsm

/-- The token with the usual text if it is a parenthesis. -/
def Token.canonical (t : Token) : Token :=
  match t.kind with
  | .lparen => .lparen
  | .rparen => .rparen
  | _ => t

theorem Token.kind_canonical (t : Token) : t.canonical.kind = t.kind := by
  obtain ⟨kind, text⟩ := t
  cases kind <;> rfl

theorem Operator.ofText?_of_ne {text : String} (h : text ≠ "") : ofText? text = some ⟨text, h⟩ :=
  dif_pos h

theorem Operator.text_of_ofText? {text : String} {op : Operator} (h : ofText? text = some op) :
    op.text = text := by
  unfold ofText? at h
  split at h
  · obtain rfl : Operator.mk text _ = op := by simpa using h
    rfl
  · simp at h

namespace Node

mutual

/-- The tokens of a tree in order. -/
def flatten : Node → List Token
  | program forms => flattenAll forms
  | call op args => .lparen :: ⟨.ident, op.text⟩ :: (flattenAll args ++ [.rparen])
  | number digits => [⟨.number, digits⟩]
  | string text => [⟨.string, text⟩]
  | other => []

def flattenAll : List Node → List Token
  | [] => []
  | n :: ns => flatten n ++ flattenAll ns

end

mutual

def calls : Node → List (Operator × List Node)
  | program forms => callsAll forms
  | call op args => (op, args) :: callsAll args
  | _ => []

def callsAll : List Node → List (Operator × List Node)
  | [] => []
  | n :: ns => calls n ++ callsAll ns

end

mutual

/-- The nesting levels of the calls of a tree, in the order in which they begin. The outermost
calls stand at `level`, and the arguments of a call one level below it. -/
def callLevels (level : Nat) : Node → List Nat
  | program forms => callLevelsAll level forms
  | call _ args => level :: callLevelsAll (level + 1) args
  | _ => []

def callLevelsAll (level : Nat) : List Node → List Nat
  | [] => []
  | n :: ns => callLevels level n ++ callLevelsAll level ns

end

mutual

def isForm : Node → Bool
  | call _ args => areForms args
  | number _ => true
  | string _ => true
  | program _ => false
  | other => false

def areForms : List Node → Bool
  | [] => true
  | n :: ns => isForm n && areForms ns

end

theorem flattenAll_eq_flatMap (ns : List Node) : flattenAll ns = ns.flatMap flatten := by
  induction ns with
  | nil => rfl
  | cons n ns ih => rw [flattenAll, List.flatMap_cons, ih]

theorem callLevelsAll_eq_flatMap (level : Nat) (ns : List Node) :
    callLevelsAll level ns = ns.flatMap (callLevels level) := by
  induction ns with
  | nil => rfl
  | cons n ns ih => rw [callLevelsAll, List.flatMap_cons, ih]

theorem areForms_eq_all (ns : List Node) : areForms ns = ns.all isForm := by
  induction ns with
  | nil => rfl
  | cons n ns ih => rw [areForms, List.all_cons, ih]

/-- A form all of whose calls are within the limit when it stands at a level. -/
def Fits (limit : Int) (level : Nat) (n : Node) : Prop :=
  n.isForm = true ∧ ∀ k ∈ n.callLevels level, (k : Int) ≤ limit

theorem Fits.mono {limit limit' : Int} {level : Nat} {n : Node} (h : n.Fits limit level)
    (hle : limit ≤ limit') : n.Fits limit' level :=
  ⟨h.1, fun k hk => Int.le_trans (h.2 k hk) hle⟩

theorem fits_number (limit : Int) (level : Nat) (digits : String) :
    (number digits).Fits limit level :=
  ⟨rfl, by simp [callLevels]⟩

theorem fits_string (limit : Int) (level : Nat) (text : String) :
    (string text).Fits limit level :=
  ⟨rfl, by simp [callLevels]⟩

theorem fits_call_iff {limit : Int} {level : Nat} {op : Operator} {args : List Node} :
    (call op args).Fits limit level ↔
      (level : Int) ≤ limit ∧ ∀ a ∈ args, a.Fits limit (level + 1) := by
  simp only [Fits, isForm, areForms_eq_all, List.all_eq_true, callLevels,
    callLevelsAll_eq_flatMap, List.mem_cons, List.mem_flatMap, forall_eq_or_imp]
  constructor
  · rintro ⟨hforms, hlevel, hlevels⟩
    exact ⟨hlevel, fun a ha => ⟨hforms a ha, fun k hk => hlevels k ⟨a, ha, hk⟩⟩⟩
  · rintro ⟨hlevel, hargs⟩
    refine ⟨fun a ha => (hargs a ha).1, hlevel, ?_⟩
    rintro k ⟨a, ha, hk⟩
    exact (hargs a ha).2 k hk

theorem forall_fits_iff {limit : Int} {level : Nat} {ns : List Node} :
    (∀ n ∈ ns, n.Fits limit level) ↔
      areForms ns = true ∧ ∀ k ∈ callLevelsAll level ns, (k : Int) ≤ limit := by
  simp only [Fits, areForms_eq_all, List.all_eq_true, callLevelsAll_eq_flatMap, List.mem_flatMap]
  constructor
  · intro h
    refine ⟨fun n hn => (h n hn).1, ?_⟩
    rintro k ⟨n, hn, hk⟩
    exact (h n hn).2 k hk
  · rintro ⟨hforms, hlevels⟩ n hn
    exact ⟨hforms n hn, fun k hk => hlevels k ⟨n, hn, hk⟩⟩

/-! ## One token at a time -/

/-- Reading on when a form is complete: it goes to the innermost open call, or to the result. -/
def readOn (limit : Int) (n : Node) (calls : List OpenCall) (ts : List Token) :
    Reading Token ReadFault (List Node) :=
  match calls with
  | [] => (readForms limit {} ts).map (n :: ·)
  | inner :: outer =>
    readForms limit { calls := { inner with arguments := n :: inner.arguments } :: outer } ts

section Step

variable {limit : Int} {calls : List OpenCall} {t : Token} {ts : List Token}

theorem readForms_nil :
    readForms limit { calls } [] =
      if calls.isEmpty then ⟨.ok [], []⟩ else ⟨.error .unexpectedEnd, []⟩ := by
  simp [readForms]

theorem readForms_number (h : t.kind = .number) :
    readForms limit { calls } (t :: ts) = readOn limit (number t.text) calls ts := by
  cases calls <;> simp [readForms, OpenForm.advance, OpenForm.deliver, h, readOn]

theorem readForms_string (h : t.kind = .string) :
    readForms limit { calls } (t :: ts) = readOn limit (string t.text) calls ts := by
  cases calls <;> simp [readForms, OpenForm.advance, OpenForm.deliver, h, readOn]

theorem readForms_ident (h : t.kind = .ident) :
    readForms limit { calls } (t :: ts) = ⟨.error (.unknownToken t), ts⟩ := by
  simp [readForms, OpenForm.advance, h]

theorem readForms_lparen (h : t.kind = .lparen) :
    readForms limit { calls } (t :: ts) =
      if limit < calls.length + 1 then ⟨.error (.nestingTooDeep (some t)), ts⟩
      else readForms limit { calls, awaitsOperator := true } ts := by
  by_cases hdeep : limit < calls.length + 1 <;> simp [readForms, OpenForm.advance, h, hdeep]

theorem readForms_rparen_nil (h : t.kind = .rparen) :
    readForms limit {} (t :: ts) = ⟨.error (.unmatchedClose t), ts⟩ := by
  simp [readForms, OpenForm.advance, OpenForm.close, h]

theorem readForms_rparen_cons (h : t.kind = .rparen) {inner : OpenCall} :
    readForms limit { calls := inner :: calls } (t :: ts) =
      match Operator.ofText? inner.operator with
      | some op => readOn limit (call op inner.arguments.reverse) calls ts
      | none => ⟨.error .emptyOperator, ts⟩ := by
  simp only [readForms, OpenForm.advance, OpenForm.close, h]
  cases Operator.ofText? inner.operator with
  | none => rfl
  | some op => cases calls <;> rfl

theorem readForms_awaits_nil :
    readForms limit { calls, awaitsOperator := true } [] = ⟨.error .unexpectedEnd, []⟩ := by
  simp [readForms]

theorem readForms_awaits_cons :
    readForms limit { calls, awaitsOperator := true } (t :: ts) =
      if t.kind = .ident then readForms limit { calls := { operator := t.text } :: calls } ts
      else ⟨.error (.missingOperator t), ts⟩ := by
  cases h : t.kind <;> simp [readForms, OpenForm.advance, h]

end Step

/-! ## Forms that fit are read from their tokens -/

mutual

theorem readForms_flatten (limit : Int) :
    ∀ (n : Node) (calls : List OpenCall) (ts : List Token), n.Fits limit (calls.length + 1) →
      readForms limit { calls } (n.flatten ++ ts) = readOn limit n calls ts
  | number _, _, _, _ => readForms_number rfl
  | string _, _, _, _ => readForms_string rfl
  | program _, _, _, h => by simp [Fits, isForm] at h
  | other, _, _, h => by simp [Fits, isForm] at h
  | call op args, calls, ts, h => by
      obtain ⟨hlevel, hargs⟩ := fits_call_iff.1 h
      -- the open calls say at which level the form stands
      have hdeep : ¬limit < calls.length + 1 := by
        push_cast at hlevel
        omega
      have hread := readForms_flattenAll limit args { operator := op.text } calls
        (.rparen :: ts) hargs
      simp only [flatten, List.cons_append, List.append_assoc, List.nil_append]
      rw [readForms_lparen rfl, if_neg hdeep, readForms_awaits_cons, if_pos rfl, hread,
        readForms_rparen_cons rfl]
      simp [Operator.ofText?_text]

theorem readForms_flattenAll (limit : Int) :
    ∀ (ns : List Node) (inner : OpenCall) (outer : List OpenCall) (ts : List Token),
      (∀ n ∈ ns, n.Fits limit (outer.length + 2)) →
      readForms limit { calls := inner :: outer } (flattenAll ns ++ ts) =
        readForms limit
          { calls := { inner with arguments := ns.reverse ++ inner.arguments } :: outer } ts
  | [], _, _, _, _ => rfl
  | n :: ns, inner, outer, ts, h => by
      obtain ⟨hn, hns⟩ := List.forall_mem_cons.1 h
      rw [flattenAll, List.append_assoc, readForms_flatten limit n (inner :: outer) _ hn, readOn,
        readForms_flattenAll limit ns _ _ _ hns]
      simp

end

theorem readForms_of_fits {limit : Int} {forms : List Node} (h : ∀ n ∈ forms, n.Fits limit 1) :
    readForms limit {} (flattenAll forms) = ⟨.ok forms, []⟩ := by
  induction forms with
  | nil => rfl
  | cons n forms ih =>
      obtain ⟨hn, hforms⟩ := List.forall_mem_cons.1 h
      rw [flattenAll, readForms_flatten limit n [] _ hn, readOn, ih hforms]
      rfl

end Node

/-! ## What is read fits and flattens to the tokens -/

namespace OpenForm

def flattenCalls : List OpenCall → List Token
  | [] => []
  | inner :: outer =>
    flattenCalls outer ++
      .lparen :: ⟨.ident, inner.operator⟩ :: Node.flattenAll inner.arguments.reverse

def flatten (form : OpenForm) : List Token :=
  flattenCalls form.calls ++ if form.awaitsOperator then [.lparen] else []

def CallsFit (limit : Int) : List OpenCall → Prop
  | [] => True
  | inner :: outer =>
    (outer.length : Int) + 1 ≤ limit ∧
      (∀ a ∈ inner.arguments, a.Fits limit (outer.length + 2)) ∧ CallsFit limit outer

structure Fits (limit : Int) (form : OpenForm) : Prop where
  calls : CallsFit limit form.calls
  next : form.awaitsOperator = true → (form.calls.length : Int) + 1 ≤ limit

end OpenForm

namespace Node

/-- Whatever is read from a form in progress and more tokens fits the limit and flattens to the
tokens read before and then. -/
def ReadsBack (limit : Int) (form : OpenForm) (ts : List Token) : Prop :=
  ∀ ns, (readForms limit form ts).outcome = .ok ns →
    (∀ n ∈ ns, n.Fits limit 1) ∧ flattenAll ns = form.flatten ++ ts.map Token.canonical

theorem readsBack_readOn {limit : Int} {ts : List Token}
    (ih : ∀ form, form.Fits limit → ReadsBack limit form ts) {calls : List OpenCall} {n : Node}
    (hcalls : OpenForm.CallsFit limit calls) (hn : n.Fits limit (calls.length + 1))
    {ns : List Node} (h : (readOn limit n calls ts).outcome = .ok ns) :
    (∀ m ∈ ns, m.Fits limit 1) ∧
      flattenAll ns = OpenForm.flattenCalls calls ++ n.flatten ++ ts.map Token.canonical := by
  cases calls with
  | nil =>
      obtain ⟨ms, hms, rfl⟩ := Reading.outcome_map_eq_ok_iff.1 h
      obtain ⟨hfits, hflat⟩ := ih {} ⟨trivial, by simp⟩ ms hms
      refine ⟨List.forall_mem_cons.2 ⟨hn, hfits⟩, ?_⟩
      simpa [flattenAll, OpenForm.flatten, OpenForm.flattenCalls] using hflat
  | cons inner outer =>
      obtain ⟨hlevel, hargs, houter⟩ := hcalls
      have hform : OpenForm.Fits limit
          { calls := { inner with arguments := n :: inner.arguments } :: outer } :=
        ⟨⟨hlevel, List.forall_mem_cons.2 ⟨hn, hargs⟩, houter⟩, by simp⟩
      obtain ⟨hfits, hflat⟩ := ih _ hform ns h
      refine ⟨hfits, ?_⟩
      simpa [OpenForm.flatten, OpenForm.flattenCalls, flattenAll_eq_flatMap] using hflat

theorem readsBack_awaits {limit : Int} {t : Token} {ts : List Token}
    (ih : ∀ form, form.Fits limit → ReadsBack limit form ts) {calls : List OpenCall}
    (hform : OpenForm.Fits limit { calls, awaitsOperator := true }) :
    ReadsBack limit { calls, awaitsOperator := true } (t :: ts) := by
  intro ns h
  rw [readForms_awaits_cons] at h
  split at h
  · next hkind =>
      have hopened : OpenForm.Fits limit { calls := { operator := t.text } :: calls } :=
        ⟨⟨hform.next rfl, by simp, hform.calls⟩, by simp⟩
      obtain ⟨hfits, hflat⟩ := ih _ hopened ns h
      refine ⟨hfits, ?_⟩
      have ht : t.canonical = ⟨.ident, t.text⟩ := by
        obtain ⟨kind, text⟩ := t
        obtain rfl : kind = .ident := hkind
        rfl
      simpa [OpenForm.flatten, OpenForm.flattenCalls, flattenAll, ht] using hflat
  · simp at h

theorem readsBack_cons {limit : Int} {t : Token} {ts : List Token}
    (ih : ∀ form, form.Fits limit → ReadsBack limit form ts) {calls : List OpenCall}
    (hcalls : OpenForm.CallsFit limit calls) : ReadsBack limit { calls } (t :: ts) := by
  intro ns h
  obtain ⟨kind, text⟩ := t
  cases kind with
  | number =>
      rw [readForms_number rfl] at h
      have hread := readsBack_readOn ih hcalls (fits_number limit _ text) h
      simpa [OpenForm.flatten, flatten, Token.canonical] using hread
  | string =>
      rw [readForms_string rfl] at h
      have hread := readsBack_readOn ih hcalls (fits_string limit _ text) h
      simpa [OpenForm.flatten, flatten, Token.canonical] using hread
  | ident => simp [readForms_ident] at h
  | lparen =>
      rw [readForms_lparen rfl] at h
      split at h
      · simp at h
      · next hdeep =>
          have hlevel : (calls.length : Int) + 1 ≤ limit := by omega
          have hread := ih { calls, awaitsOperator := true } ⟨hcalls, fun _ => hlevel⟩ ns h
          simpa [OpenForm.flatten, Token.canonical] using hread
  | rparen =>
      cases calls with
      | nil => simp [readForms_rparen_nil] at h
      | cons inner outer =>
          rw [readForms_rparen_cons rfl] at h
          split at h
          · next op hop =>
              obtain ⟨hlevel, hargs, houter⟩ := hcalls
              have hn : (call op inner.arguments.reverse).Fits limit (outer.length + 1) :=
                fits_call_iff.2 ⟨by push_cast; omega, fun a ha => hargs a (by simpa using ha)⟩
              have hread := readsBack_readOn ih houter hn h
              simpa [OpenForm.flatten, OpenForm.flattenCalls, flatten, Token.canonical,
                Operator.text_of_ofText? hop] using hread
          · simp at h

theorem readsBack (limit : Int) (ts : List Token) (form : OpenForm) (hform : form.Fits limit) :
    ReadsBack limit form ts := by
  -- on the tokens to come; the form in progress holds what was read before them
  induction ts generalizing form with
  | nil =>
      obtain ⟨calls, awaits⟩ := form
      intro ns h
      cases awaits with
      | true => simp [readForms_awaits_nil] at h
      | false =>
          rw [readForms_nil] at h
          split at h
          · next hempty =>
              obtain rfl : calls = [] := List.isEmpty_iff.1 hempty
              obtain rfl : [] = ns := by simpa using h
              simp [flattenAll, OpenForm.flatten, OpenForm.flattenCalls]
          · simp at h
  | cons t ts ih =>
      obtain ⟨calls, awaits⟩ := form
      cases awaits with
      | true => exact readsBack_awaits ih hform
      | false => exact readsBack_cons ih hform.calls

theorem readForms_eq_ok {limit : Int} {ts : List Token} {forms : List Node}
    (h : (readForms limit {} ts).outcome = .ok forms) :
    (∀ n ∈ forms, n.Fits limit 1) ∧ flattenAll forms = ts.map Token.canonical := by
  have hread := readsBack limit ts {} ⟨trivial, by simp⟩ forms h
  simpa [OpenForm.flatten, OpenForm.flattenCalls] using hread

end Node

/-! ## Reading programs -/

/-- The fault as the reading of a program reports it. Where the limit lies past the ceiling, the
parenthesis that goes too deep is not named. -/
def ReadFault.reported (maxDepth : Int) (f : ReadFault) : ReadFault :=
  if maxDepth ≤ Node.nestingCeiling then f else f.withoutOpener

theorem ReadFault.reported_eq {maxDepth : Int} {f : ReadFault}
    (h : f.reported maxDepth ≠ .nestingTooDeep none) : f.reported maxDepth = f := by
  unfold reported at h ⊢
  split
  · rfl
  · next hdeep =>
      rw [if_neg hdeep] at h
      cases f with
      | nestingTooDeep opener => exact absurd rfl h
      | unexpectedEnd => rfl
      | missingOperator t => rfl
      | unknownToken t => rfl
      | unmatchedClose t => rfl
      | emptyOperator => rfl

namespace Node

theorem readProgram_eq (maxDepth : Int) (ts : List Token) :
    readProgram maxDepth ts =
      ((readForms (min maxDepth nestingCeiling) {} ts).mapFault (.reported maxDepth)).map
        program := by
  unfold readProgram
  obtain ⟨outcome, rest⟩ := readForms (min maxDepth nestingCeiling) {} ts
  by_cases h : maxDepth ≤ nestingCeiling <;> cases outcome <;>
    simp [h, ReadFault.reported, Reading.mapFault, Reading.map, Except.map, Except.mapError]

theorem ofTokens_eq (maxDepth : Int) (ts : List Token) :
    ofTokens maxDepth ts =
      ((readForms (min maxDepth nestingCeiling) {} ts).outcome.mapError
        (.reported maxDepth)).map program := by
  rw [ofTokens, readProgram_eq]
  rfl

theorem ofTokens_eq_ok_iff {maxDepth : Int} {ts : List Token} {tree : Node} :
    ofTokens maxDepth ts = .ok tree ↔
      ∃ forms, (readForms (min maxDepth nestingCeiling) {} ts).outcome = .ok forms ∧
        program forms = tree := by
  rw [ofTokens_eq]
  cases (readForms (min maxDepth nestingCeiling) {} ts).outcome <;>
    simp [Except.map, Except.mapError]

theorem ofTokens_eq_error_iff {maxDepth : Int} {ts : List Token} {f : ReadFault} :
    ofTokens maxDepth ts = .error f ↔
      ∃ g, (readForms (min maxDepth nestingCeiling) {} ts).outcome = .error g ∧
        g.reported maxDepth = f := by
  rw [ofTokens_eq]
  cases (readForms (min maxDepth nestingCeiling) {} ts).outcome <;>
    simp [Except.map, Except.mapError]

end Node

end SexprAsm
