import SexprAsm.Compilation
import SexprAsm.Proofs.Layout
import SexprAsm.Proofs.Postorder

/-!
# From source to listing

A source compiles exactly when it is a layout of a well-formed program that nests within the limit,
and its listing is then the post-order listing of that program.
-/

namespace SexprAsm

/-! ## The phases in a row -/

/-- The listing of a token list: reading and generating, the first fault ending it. -/
def assemble (options : CompileOptions) (ts : List Token) : Except Fault String :=
  match Node.ofTokens options.maxDepth ts with
  | .error f => .error (.read f)
  | .ok tree => (tree.listing options.style options.maxDepth).mapError .listing

theorem compile_eq (options : CompileOptions) (source : String) :
    compile options source =
      match tokenize source with
      | .error f => .error (.scan f)
      | .ok ts => assemble options ts := by
  unfold compile Compilation.run assemble
  cases tokenize source with
  | error f => rfl
  | ok ts =>
      dsimp only
      cases Node.ofTokens options.maxDepth ts <;> rfl

theorem compile_eq_ok_iff {options : CompileOptions} {source listing : String} :
    compile options source = .ok listing ↔
      ∃ ts, tokenize source = .ok ts ∧ assemble options ts = .ok listing := by
  rw [compile_eq]
  cases tokenize source <;> simp

theorem tree_eq_some_iff {options : CompileOptions} {source : String} {tree : Node} :
    (Compilation.run options source).tree = some tree ↔
      ∃ ts, tokenize source = .ok ts ∧ Node.ofTokens options.maxDepth ts = .ok tree := by
  unfold Compilation.run
  cases tokenize source with
  | error f => simp
  | ok ts =>
      dsimp only
      cases hread : Node.ofTokens options.maxDepth ts <;> simp [hread]

theorem assemble_eq (options : CompileOptions) (ts : List Token) :
    assemble options ts =
      ((Node.ofTokens options.maxDepth ts).mapError .read).map fun tree =>
        Text.endLines (tree.postorder options.style) := by
  unfold assemble
  cases htree : Node.ofTokens options.maxDepth ts with
  | error f => rfl
  | ok tree =>
      obtain ⟨forms, hforms, rfl⟩ := Node.ofTokens_eq_ok_iff.1 htree
      have hfits := (Node.readForms_eq_ok hforms).1
      dsimp only
      rw [Node.listing_of_fits options.style options.maxDepth hfits]
      rfl

theorem assemble_eq_ok_iff {options : CompileOptions} {ts : List Token} {listing : String} :
    assemble options ts = .ok listing ↔
      ∃ tree, Node.ofTokens options.maxDepth ts = .ok tree ∧
        listing = Text.endLines (tree.postorder options.style) := by
  rw [assemble_eq]
  cases Node.ofTokens options.maxDepth ts <;> simp [Except.map, Except.mapError, eq_comm]

/-- The tree of a source: scanning and reading, the first fault ending it. -/
def Node.ofSource (maxDepth : Int) (source : String) : Except Fault Node :=
  match tokenize source with
  | .error f => .error (.scan f)
  | .ok ts => (Node.ofTokens maxDepth ts).mapError .read

theorem compile_eq_ofSource (options : CompileOptions) (source : String) :
    compile options source =
      (Node.ofSource options.maxDepth source).map fun tree =>
        Text.endLines (tree.postorder options.style) := by
  rw [compile_eq, Node.ofSource]
  cases tokenize source with
  | error f => rfl
  | ok ts => exact assemble_eq options ts

theorem compile_eq_error_iff {options : CompileOptions} {source : String} {fault : Fault} :
    compile options source = .error fault ↔
      (∃ f, tokenize source = .error f ∧ fault = .scan f) ∨
        ∃ ts f, tokenize source = .ok ts ∧ Node.ofTokens options.maxDepth ts = .error f ∧
          fault = .read f := by
  rw [compile_eq_ofSource, Node.ofSource]
  cases tokenize source with
  | error f => simp [Except.map, eq_comm]
  | ok ts =>
      cases htree : Node.ofTokens options.maxDepth ts <;>
        simp [htree, Except.map, Except.mapError, eq_comm]

/-! ## Well-formed programs -/

namespace Node

mutual

/-- A form with the texts that a source can give it. -/
def SourceForm : Node → Prop
  | call op args => (∀ c ∈ op.text.toList, c.isAlpha = true) ∧ SourceForms args
  | number digits => digits ≠ "" ∧ ∀ c ∈ digits.toList, c.isDigit = true
  | string text => '"' ∉ text.toList
  | program _ => False
  | other => False

def SourceForms : List Node → Prop
  | [] => True
  | n :: ns => SourceForm n ∧ SourceForms ns

end

/-- A program whose forms are calls of words, numerals and strings without quotes. -/
def WellFormed : Node → Prop
  | program forms => SourceForms forms
  | _ => False

theorem WellFormed.exists_forms {root : Node} (h : root.WellFormed) :
    ∃ forms, root = program forms ∧ SourceForms forms := by
  cases root with
  | program forms => exact ⟨forms, rfl, h⟩
  | call _ _ => exact h.elim
  | number _ => exact h.elim
  | string _ => exact h.elim
  | other => exact h.elim

mutual

theorem sourceForm_iff : ∀ n : Node,
    n.SourceForm ↔ n.isForm = true ∧ ∀ t ∈ n.flatten, t.WellFormed
  | program _ => by simp [SourceForm, isForm]
  | other => by simp [SourceForm, isForm]
  | number digits => by simp [SourceForm, isForm, flatten, Token.WellFormed]
  | string text => by simp [SourceForm, isForm, flatten, Token.WellFormed]
  | call op args => by
      have hop : (Token.mk .ident op.text).WellFormed ↔
          ∀ c ∈ op.text.toList, c.isAlpha = true :=
        and_iff_right op.ne_empty
      simp only [SourceForm, isForm, flatten, sourceForms_iff args, List.mem_cons,
        List.mem_append, List.not_mem_nil, or_false, forall_eq_or_imp, hop]
      constructor
      · rintro ⟨hletters, hforms, hargs⟩
        refine ⟨hforms, rfl, hletters, ?_⟩
        rintro t (ht | rfl)
        · exact hargs t ht
        · rfl
      · rintro ⟨hforms, -, hletters, hargs⟩
        exact ⟨hletters, hforms, fun t ht => hargs t (.inl ht)⟩

theorem sourceForms_iff : ∀ ns : List Node,
    SourceForms ns ↔ areForms ns = true ∧ ∀ t ∈ flattenAll ns, t.WellFormed
  | [] => by simp [SourceForms, areForms, flattenAll]
  | n :: ns => by
      simp only [SourceForms, areForms, flattenAll, sourceForm_iff n, sourceForms_iff ns,
        Bool.and_eq_true, List.mem_append]
      constructor
      · rintro ⟨⟨hn, htn⟩, hns, htns⟩
        exact ⟨⟨hn, hns⟩, fun t ht => ht.elim (htn t) (htns t)⟩
      · rintro ⟨⟨hn, hns⟩, ht⟩
        exact ⟨⟨hn, fun t h => ht t (.inl h)⟩, hns, fun t h => ht t (.inr h)⟩

end

end Node

theorem Token.WellFormed.canonical {t : Token} (h : t.WellFormed) : t.canonical = t := by
  obtain ⟨kind, text⟩ := t
  cases kind with
  | lparen => exact congrArg (Token.mk .lparen) (Eq.symm h)
  | rparen => exact congrArg (Token.mk .rparen) (Eq.symm h)
  | ident => rfl
  | number => rfl
  | string => rfl

theorem Token.map_canonical {ts : List Token} (h : ∀ t ∈ ts, t.WellFormed) :
    ts.map Token.canonical = ts := by
  rw [List.map_congr_left fun t ht => (h t ht).canonical, List.map_id']

theorem flatten_of_ofTokens {maxDepth : Int} {source : String} {ts : List Token} {tree : Node}
    (htokens : tokenize source = .ok ts) (htree : Node.ofTokens maxDepth ts = .ok tree) :
    tree.flatten = ts := by
  obtain ⟨forms, hforms, rfl⟩ := Node.ofTokens_eq_ok_iff.1 htree
  have hwf := (Token.layout_of_tokens (tokenize_eq_ok.1 htokens)).1
  have hflat := (Node.readForms_eq_ok hforms).2
  rwa [Token.map_canonical hwf] at hflat

theorem layout_of_ofTokens {maxDepth : Int} {source : String} {ts : List Token} {tree : Node}
    (htokens : tokenize source = .ok ts) (htree : Node.ofTokens maxDepth ts = .ok tree) :
    tree.WellFormed ∧ Token.Layout tree.flatten source.toList ∧
      ∀ level ∈ tree.callLevels 1,
        (level : Int) ≤ maxDepth ∧ (level : Int) ≤ Node.nestingCeiling := by
  obtain rfl := flatten_of_ofTokens htokens htree
  obtain ⟨forms, hforms, rfl⟩ := Node.ofTokens_eq_ok_iff.1 htree
  obtain ⟨hwf, hlayout⟩ := Token.layout_of_tokens (tokenize_eq_ok.1 htokens)
  obtain ⟨hare, hlevels⟩ := Node.forall_fits_iff.1 (Node.readForms_eq_ok hforms).1
  refine ⟨(Node.sourceForms_iff forms).2 ⟨hare, hwf⟩, hlayout, ?_⟩
  intro level hlevel
  exact Int.le_min.1 (hlevels level hlevel)

theorem ofTokens_of_layout {maxDepth : Int} {source : String} {root : Node}
    (hroot : root.WellFormed) (hlayout : Token.Layout root.flatten source.toList)
    (hlevels : ∀ level ∈ root.callLevels 1,
      (level : Int) ≤ maxDepth ∧ (level : Int) ≤ Node.nestingCeiling) :
    tokenize source = .ok root.flatten ∧ Node.ofTokens maxDepth root.flatten = .ok root := by
  obtain ⟨forms, rfl, hforms⟩ := hroot.exists_forms
  obtain ⟨hare, hwf⟩ := (Node.sourceForms_iff forms).1 hforms
  have hfits : ∀ n ∈ forms, n.Fits (min maxDepth Node.nestingCeiling) 1 :=
    Node.forall_fits_iff.2 ⟨hare, fun k hk => Int.le_min.2 (hlevels k hk)⟩
  refine ⟨?_, Node.ofTokens_eq_ok_iff.2 ⟨forms, ?_, rfl⟩⟩
  · rw [tokenize_eq_ok, Token.tokens_of_layout hwf hlayout, Node.flatten]
  · rw [Node.flatten, Node.readForms_of_fits hfits]

/-- A source compiles exactly when it is a layout of a well-formed program whose calls nest within
the limit (and the ceiling), and then to the post-order listing of that program. -/
theorem compile_eq_ok_iff_layout (options : CompileOptions) (source listing : String) :
    compile options source = .ok listing ↔
      ∃ root : Node, root.WellFormed ∧ Token.Layout root.flatten source.toList ∧
        (∀ level ∈ root.callLevels 1,
          (level : Int) ≤ options.maxDepth ∧ (level : Int) ≤ Node.nestingCeiling) ∧
        listing = Text.endLines (root.postorder options.style) := by
  rw [compile_eq_ok_iff]
  constructor
  · rintro ⟨ts, htokens, hlisting⟩
    obtain ⟨tree, htree, hlines⟩ := assemble_eq_ok_iff.1 hlisting
    obtain ⟨hroot, hlayout, hlevels⟩ := layout_of_ofTokens htokens htree
    exact ⟨tree, hroot, hlayout, hlevels, hlines⟩
  · rintro ⟨root, hroot, hlayout, hlevels, hlines⟩
    obtain ⟨htokens, htree⟩ := ofTokens_of_layout hroot hlayout hlevels
    exact ⟨root.flatten, htokens, assemble_eq_ok_iff.2 ⟨root, htree, hlines⟩⟩

end SexprAsm
