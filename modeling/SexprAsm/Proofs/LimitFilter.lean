import SexprAsm.Proofs.DepthLimit
import SexprAsm.Proofs.EndToEnd
import SexprAsm.Proofs.Grammar

/-!
# The limit as a filter

A limit on nesting only sorts sources out. Under a lower limit a source is refused for nesting too
deep, or it comes to the same as under a higher one, be that a listing or a fault. What the higher
limit lets through, the lower one lets through exactly if no call stands below it.
-/

namespace SexprAsm

namespace ReadFault

theorem reported_of_ne {f : ReadFault} (h : ∀ opener, f ≠ .nestingTooDeep opener)
    (maxDepth : Int) : f.reported maxDepth = f := by
  unfold reported
  split
  · rfl
  · cases f with
    | nestingTooDeep opener => exact absurd rfl (h opener)
    | _ => rfl

theorem reported_nestingTooDeep (maxDepth : Int) (opener : Option Token) :
    ∃ opener', (nestingTooDeep opener).reported maxDepth = .nestingTooDeep opener' := by
  unfold reported
  split
  · exact ⟨opener, rfl⟩
  · exact ⟨none, rfl⟩

end ReadFault

namespace Node

theorem ofTokens_raise {limit limit' : Int} (h : limit ≤ limit') (ts : List Token) :
    (∃ opener, ofTokens limit ts = .error (.nestingTooDeep opener)) ∨
      ofTokens limit ts = ofTokens limit' ts := by
  -- the ceiling holds both limits down alike
  have hmin : min limit nestingCeiling ≤ min limit' nestingCeiling := by omega
  rw [ofTokens_eq, ofTokens_eq]
  rcases readForms_raise hmin {} ts with hsame | ⟨t, hdeep⟩
  · rw [← hsame]
    cases (readForms (min limit nestingCeiling) {} ts).outcome with
    | ok forms => exact .inr rfl
    | error f =>
        by_cases hnesting : ∃ opener, f = .nestingTooDeep opener
        · obtain ⟨opener, rfl⟩ := hnesting
          obtain ⟨opener', hreported⟩ := ReadFault.reported_nestingTooDeep limit opener
          left
          exact ⟨opener', by rw [Except.mapError, hreported]; rfl⟩
        · have hne : ∀ opener, f ≠ .nestingTooDeep opener := fun opener hf =>
            hnesting ⟨opener, hf⟩
          right
          rw [Except.mapError, Except.mapError, ReadFault.reported_of_ne hne,
            ReadFault.reported_of_ne hne]
  · obtain ⟨opener', hreported⟩ := ReadFault.reported_nestingTooDeep limit (some t)
    left
    exact ⟨opener', by rw [hdeep, Except.mapError, hreported]; rfl⟩

theorem ofTokens_lower_iff {limit limit' : Int} {ts : List Token} {tree : Node}
    (hread : ofTokens limit' ts = .ok tree) :
    ofTokens limit ts = .ok tree ↔ ∀ level ∈ tree.callLevels 1, (level : Int) ≤ limit := by
  obtain ⟨forms, hforms, rfl⟩ := ofTokens_eq_ok_iff.1 hread
  obtain ⟨hfits, hflat⟩ := readForms_eq_ok_iff.1 hforms
  obtain ⟨hare, hlevels'⟩ := forall_fits_iff.1 hfits
  constructor
  · intro hlower level hlevel
    obtain ⟨forms', hforms', hsame⟩ := ofTokens_eq_ok_iff.1 hlower
    obtain rfl : forms' = forms := by simpa using hsame
    have hlevels := (forall_fits_iff.1 (readForms_eq_ok_iff.1 hforms').1).2
    exact (Int.le_min.1 (hlevels level hlevel)).1
  · intro hlevels
    have hfits' : ∀ n ∈ forms, n.Fits (min limit nestingCeiling) 1 := by
      refine forall_fits_iff.2 ⟨hare, fun level hlevel => Int.le_min.2 ⟨hlevels level hlevel, ?_⟩⟩
      exact (Int.le_min.1 (hlevels' level hlevel)).2
    exact ofTokens_eq_ok_iff.2 ⟨forms, readForms_eq_ok_iff.2 ⟨hfits', hflat⟩, rfl⟩

end Node

/-- The fault is that calls nest too deep, and says so. -/
def Fault.SaysTooDeep (fault : Fault) : Prop :=
  ∃ place, fault.diagnostic? = some ⟨"nesting too deep", place⟩

theorem compile_raise (style : Style) {limit limit' : Int} (h : limit ≤ limit')
    (source : String) :
    (∃ fault, compile { style, maxDepth := limit } source = .error fault ∧ fault.SaysTooDeep) ∨
      compile { style, maxDepth := limit } source =
        compile { style, maxDepth := limit' } source := by
  rw [compile_eq_ofSource, compile_eq_ofSource, Node.ofSource, Node.ofSource]
  cases tokenize source with
  | error f => exact .inr rfl
  | ok ts =>
      dsimp only
      rcases Node.ofTokens_raise h ts with ⟨opener, hdeep⟩ | hsame
      · left
        rw [hdeep]
        exact ⟨.read (.nestingTooDeep opener), rfl, .token opener, rfl⟩
      · right
        rw [hsame]

theorem compile_lower_iff {style : Style} {limit limit' : Int} {source listing : String}
    {tree : Node} (htree : (Compilation.run { style, maxDepth := limit' } source).tree = some tree)
    (hlisting : compile { style, maxDepth := limit' } source = .ok listing) (h : limit ≤ limit') :
    compile { style, maxDepth := limit } source = .ok listing ↔
      ∀ level ∈ tree.callLevels 1, (level : Int) ≤ limit := by
  obtain ⟨ts, htokens, hread⟩ := tree_eq_some_iff.1 htree
  rw [← Node.ofTokens_lower_iff hread]
  have hcompile : compile { style, maxDepth := limit } source =
      assemble { style, maxDepth := limit } ts := by
    rw [compile_eq, htokens]
  constructor
  · intro hlower
    rw [hcompile] at hlower
    obtain ⟨tree', hread', -⟩ := assemble_eq_ok_iff.1 hlower
    rcases Node.ofTokens_raise h ts with ⟨opener, hdeep⟩ | hsame
    · simp [hdeep] at hread'
    · rw [hsame, hread]
  · intro hlower
    rcases compile_raise style h source with ⟨fault, hfault, -⟩ | hsame
    · rw [hcompile, assemble_eq, hlower] at hfault
      simp [Except.map, Except.mapError] at hfault
    · rw [hsame, hlisting]

/-- The limit on nesting is only a filter. A source that is not refused for nesting too deep comes
to the same under every higher limit: the same listing, or the same fault at the same place. And a
source that has a listing under the higher limit has it under the lower one exactly if its calls
nest within that. -/
theorem limit_only_filters (style : Style) (source : String) (limit limit' : Int)
    (h : limit ≤ limit') :
    ((∃ fault, compile { style, maxDepth := limit } source = .error fault ∧ fault.SaysTooDeep) ∨
      compile { style, maxDepth := limit } source =
        compile { style, maxDepth := limit' } source) ∧
    ∀ tree listing, (Compilation.run { style, maxDepth := limit' } source).tree = some tree →
      compile { style, maxDepth := limit' } source = .ok listing →
      (compile { style, maxDepth := limit } source = .ok listing ↔
        ∀ level ∈ tree.callLevels 1, (level : Int) ≤ limit) :=
  ⟨compile_raise style h source, fun _ _ htree hlisting => compile_lower_iff htree hlisting h⟩

theorem limit_only_filters_noOperator :
    (1 : Int) ≤ 300 ∧
      compile { maxDepth := 1 } "(f) () (g (h))" =
        compile { maxDepth := 300 } "(f) () (g (h))" := by
  refine ⟨by decide, ?_⟩
  have hfault : compile { maxDepth := 1 } "(f) () (g (h))" =
      .error (.read (.missingOperator .rparen)) := by decide +kernel
  rcases (limit_only_filters {} "(f) () (g (h))" 1 300 (by decide)).1 with
    ⟨fault, hdeep, place, hplace⟩ | hsame
  · obtain rfl : Fault.read (.missingOperator .rparen) = fault := by simpa [hfault] using hdeep
    simp [Fault.diagnostic?, ReadFault.diagnostic?] at hplace
  · exact hsame

end SexprAsm
