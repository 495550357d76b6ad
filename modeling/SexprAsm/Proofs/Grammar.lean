import SexprAsm.Proofs.Rewording
import Mathlib.Algebra.Order.BigOperators.Group.List
import Mathlib.Algebra.Order.Ring.Nat

/-!
# The grammar of programs

A program is a list of forms, and a form is a literal or a call of an operator on forms. The reader
returns a tree exactly when the tree is such a program, the tokens are those of the tree and its
calls nest within the limit. Flattening loses nothing, so a token list has at most one program.
-/

namespace SexprAsm

/-! ## The texts of parentheses

The reader does not look at them: it reads the same from tokens that differ only there, and fails
at the same place. -/

/-- The usual texts for parentheses, and no change of the others. -/
def Rewording.parens : Rewording where
  text
    | .lparen, _ => "("
    | .rparen, _ => ")"
    | _, text => text
  ident_eq_empty_iff _ := Iff.rfl

theorem Token.reword_parens : reword .parens = canonical := by
  funext t
  obtain ⟨kind, text⟩ := t
  cases kind <;> rfl

namespace Node

mutual

theorem reword_parens : ∀ n : Node, n.reword .parens = n
  | program forms => by rw [reword, rewordAll_parens forms]
  | call _ args => by
      rw [reword, rewordAll_parens args]
      rfl
  | number _ => rfl
  | string _ => rfl
  | other => rfl

theorem rewordAll_parens : ∀ ns : List Node, rewordAll .parens ns = ns
  | [] => rfl
  | n :: ns => by rw [rewordAll, reword_parens n, rewordAll_parens ns]

end

theorem readForms_canonical (limit : Int) (ts : List Token) :
    readForms limit {} (ts.map Token.canonical) = (readForms limit {} ts).reword .parens := by
  rw [← Token.reword_parens]
  exact readForms_reword .parens limit {} ts

theorem outcome_readForms_canonical {limit : Int} {ts : List Token} {forms : List Node} :
    (readForms limit {} (ts.map Token.canonical)).outcome = .ok forms ↔
      (readForms limit {} ts).outcome = .ok forms := by
  rw [readForms_canonical, Reading.reword]
  cases (readForms limit {} ts).outcome <;> simp [Except.map, Except.mapError, rewordAll_parens]

/-! ## Programs -/

def isProgram : Node → Bool
  | program forms => areForms forms
  | _ => false

theorem exists_forms_of_isProgram {tree : Node} (h : tree.isProgram = true) :
    ∃ forms, tree = program forms ∧ areForms forms = true := by
  cases tree with
  | program forms => exact ⟨forms, rfl, h⟩
  | call _ _ => contradiction
  | number _ => contradiction
  | string _ => contradiction
  | other => contradiction

theorem fits_of_sum_le {forms : List Node} {limit : Nat} (hforms : areForms forms = true)
    (hlimit : (callLevelsAll 1 forms).sum ≤ limit) : ∀ n ∈ forms, n.Fits limit 1 := by
  refine forall_fits_iff.2 ⟨hforms, fun k hk => ?_⟩
  have hsum : k ≤ (callLevelsAll 1 forms).sum := List.le_sum_of_mem hk
  exact_mod_cast hsum.trans hlimit

theorem flattenAll_inj {fs gs : List Node} (hfs : areForms fs = true) (hgs : areForms gs = true)
    (h : flattenAll fs = flattenAll gs) : fs = gs := by
  -- one limit lets both lists of forms through, and the reader has one answer for their tokens
  let limit : Nat := (callLevelsAll 1 fs).sum + (callLevelsAll 1 gs).sum
  have hf : readForms limit {} (flattenAll fs) = ⟨.ok fs, []⟩ :=
    readForms_of_fits (fits_of_sum_le hfs (Nat.le_add_right _ _))
  have hg : readForms limit {} (flattenAll gs) = ⟨.ok gs, []⟩ :=
    readForms_of_fits (fits_of_sum_le hgs (Nat.le_add_left _ _))
  rw [h, hg] at hf
  simpa using hf.symm

theorem flatten_inj {tree tree' : Node} (h : tree.isProgram = true) (h' : tree'.isProgram = true)
    (hflat : tree.flatten = tree'.flatten) : tree = tree' := by
  obtain ⟨fs, rfl, hfs⟩ := exists_forms_of_isProgram h
  obtain ⟨gs, rfl, hgs⟩ := exists_forms_of_isProgram h'
  rw [flatten, flatten] at hflat
  rw [flattenAll_inj hfs hgs hflat]

/-- Forms are read from tokens exactly when they fit the limit and the tokens are theirs, up to the
texts of parentheses. -/
theorem readForms_eq_ok_iff {limit : Int} {ts : List Token} {forms : List Node} :
    (readForms limit {} ts).outcome = .ok forms ↔
      (∀ n ∈ forms, n.Fits limit 1) ∧ flattenAll forms = ts.map Token.canonical := by
  refine ⟨readForms_eq_ok, ?_⟩
  rintro ⟨hfits, hflat⟩
  rw [← outcome_readForms_canonical, ← hflat, readForms_of_fits hfits]

/-- The reader returns a tree exactly when the tree is a program of the grammar, the tokens are its
tokens up to the texts of parentheses, and its calls nest within the limit (and the ceiling).
Distinct programs have distinct tokens, so no token list has two trees. -/
theorem ofTokens_eq_ok_iff_flatten (maxDepth : Int) (ts : List Token) (tree : Node) :
    (ofTokens maxDepth ts = .ok tree ↔
        tree.isProgram = true ∧ ts.map Token.canonical = tree.flatten ∧
          ∀ level ∈ tree.callLevels 1,
            (level : Int) ≤ maxDepth ∧ (level : Int) ≤ nestingCeiling) ∧
      ∀ tree' : Node, tree.isProgram = true → tree'.isProgram = true →
        tree.flatten = tree'.flatten → tree = tree' := by
  refine ⟨?_, fun _ => flatten_inj⟩
  rw [ofTokens_eq_ok_iff]
  constructor
  · rintro ⟨forms, hread, rfl⟩
    obtain ⟨hfits, hflat⟩ := readForms_eq_ok_iff.1 hread
    obtain ⟨hforms, hlevels⟩ := forall_fits_iff.1 hfits
    exact ⟨hforms, hflat.symm, fun level hlevel => Int.le_min.1 (hlevels level hlevel)⟩
  · rintro ⟨htree, hflat, hlevels⟩
    obtain ⟨forms, rfl, hforms⟩ := exists_forms_of_isProgram htree
    have hfits : ∀ n ∈ forms, n.Fits (min maxDepth nestingCeiling) 1 :=
      forall_fits_iff.2 ⟨hforms, fun level hlevel => Int.le_min.2 (hlevels level hlevel)⟩
    exact ⟨forms, readForms_eq_ok_iff.2 ⟨hfits, hflat.symm⟩, rfl⟩

/-- The tokens of `[f [g] ""]`, with brackets for parentheses. -/
def bracketed : List Token :=
  [⟨.lparen, "["⟩, ⟨.ident, "f"⟩, ⟨.lparen, "["⟩, ⟨.ident, "g"⟩, ⟨.rparen, "]"⟩, ⟨.string, ""⟩,
    ⟨.rparen, "]"⟩]

theorem ofTokens_eq_ok_iff_flatten_bracketed :
    let tree := program [call ⟨"f", by decide⟩ [call ⟨"g", by decide⟩ [], string ""]]
    ofTokens 2 bracketed = .ok tree ∧ ofTokens 1 bracketed ≠ .ok tree := by
  intro tree
  constructor
  · exact (ofTokens_eq_ok_iff_flatten 2 bracketed tree).1.2 ⟨rfl, rfl, by decide⟩
  · intro h
    obtain ⟨-, -, hlevels⟩ := (ofTokens_eq_ok_iff_flatten 1 bracketed tree).1.1 h
    exact absurd (hlevels 2 (by decide)).1 (by decide)

end Node

end SexprAsm
