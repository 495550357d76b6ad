import SexprAsm.CommandLine.Run
import SexprAsm.Proofs.EndToEnd

/-!
# How runs end

A run that dumps the tree of a source and one that compiles it end alike, since whatever is read is
also listed. What the host makes of the log has no part in it.
-/

namespace SexprAsm.CommandLine

namespace Settings

def Product.ending : Product → Ending
  | .dump _ => .exit 0
  | .listing _ => .exit 0
  | .failed code => .exit code

/-- How a run ends with the tree of its source, or with the fault that there is none. -/
def endingOf (s : Settings) : Except Fault Node → Ending
  | .ok _ => .exit 0
  | .error f => (s.failure f).2.ending

theorem ending_process {s : Settings} (htokens : s.tokens = false) (target : Profile)
    (source : String) :
    (s.process target source).2.ending = s.endingOf (Node.ofSource s.depthLimit source) := by
  cases hast : s.ast with
  | true =>
      simp only [process, htokens, hast, Node.ofSource]
      cases tokenize source with
      | error f => rfl
      | ok ts =>
          dsimp only
          cases Node.ofTokens s.depthLimit ts <;> rfl
  | false =>
      have houtcome : (Compilation.run (s.compileOptions target) source).outcome = _ :=
        compile_eq_ofSource (s.compileOptions target) source
      simp only [process, htokens, hast, houtcome]
      change _ = s.endingOf (Node.ofSource (s.compileOptions target).maxDepth source)
      cases Node.ofSource (s.compileOptions target).maxDepth source <;> rfl

/-- What can be made of a source: a dump only if one is asked for, a listing only if none is. -/
inductive Makes (s : Settings) (target : Profile) (source : String) : Product → Prop
  | dump (text : String) (h : s.tokens = true ∨ s.ast = true) : Makes s target source (.dump text)
  | failed (code : Nat) (h : code ≠ 0) : Makes s target source (.failed code)
  | listing (text : String) (htokens : s.tokens = false) (hast : s.ast = false)
      (h : compile (s.compileOptions target) source = .ok text) :
      Makes s target source (.listing text)

theorem makes_failure (s : Settings) (target : Profile) (source : String) (f : Fault) :
    s.Makes target source (s.failure f).2 := by
  unfold failure
  cases s.internalFault? f with
  | none => exact .failed 1 (by decide)
  | some text => exact .failed 2 (by decide)

theorem makes_process (s : Settings) (target : Profile) (source : String) :
    s.Makes target source (s.process target source).2 := by
  unfold process
  by_cases htokens : s.tokens = true
  · rw [if_pos htokens]
    cases tokenize source with
    | ok ts => exact .dump _ (.inl htokens)
    | error f => exact s.makes_failure target source (.scan f)
  rw [if_neg htokens]
  by_cases hast : s.ast = true
  · rw [if_pos hast]
    cases tokenize source with
    | error f => exact s.makes_failure target source (.scan f)
    | ok ts =>
        dsimp only
        cases Node.ofTokens s.depthLimit ts with
        | ok tree => exact .dump _ (.inr hast)
        | error f => exact s.makes_failure target source (.read f)
  rw [if_neg hast]
  dsimp only
  cases hcompile : (Compilation.run (s.compileOptions target) source).outcome with
  | ok text => exact .listing text (by simpa using htokens) (by simpa using hast) hcompile
  | error f => exact s.makes_failure target source f

structure SameTask (s s' : Settings) : Prop where
  input : s.input = s'.input
  expr : s.expr = s'.expr
  maxDepth : s.maxDepth = s'.maxDepth
  logFile : s.logFile = s'.logFile
  target : s.target.isSome = s'.target.isSome

def ShowsTree (s : Settings) : Prop :=
  s.tokens = false ∧ (s.ast = true ∨ given s.output = none)

theorem SameTask.endingOf_eq {s s' : Settings} (h : s.SameTask s') (r : Except Fault Node) :
    s.endingOf r = s'.endingOf r := by
  have hinternal : s.internalFault? = s'.internalFault? := by
    funext f
    unfold internalFault?
    rw [h.maxDepth]
  cases r with
  | ok tree => rfl
  | error f =>
      unfold endingOf failure
      rw [hinternal]

theorem ast_eq_false_of_listing {s : Settings} {target : Profile} {source text : String}
    (h : (s.process target source).2 = .listing text) : s.ast = false := by
  have hmakes := s.makes_process target source
  rw [h] at hmakes
  cases hmakes with
  | listing _ _ hast _ => exact hast

section Runs

variable {σ : Type} {host : Host (StateM σ)}

theorem run_bind {α β : Type} (first : StateM σ α) (next : α → StateM σ β) (disk : σ) :
    (first >>= next).run disk = (next (first.run disk).1).run (first.run disk).2 :=
  rfl

theorem ending_deliver {s : Settings} (houtput : given s.output = none) (source : Source)
    (listing stderr : String) (disk : σ) :
    ((s.deliver host source listing stderr).run disk).1.ending = .exit 0 := by
  unfold deliver
  rw [houtput]
  rfl

theorem ending_runOn {s : Settings} {target : Profile} (htarget : s.target = some target)
    (hs : s.ShowsTree) (source : Source) (disk : σ) :
    ((s.runOn host source).run disk).1.ending =
      s.endingOf (Node.ofSource s.depthLimit source.text) := by
  rw [← ending_process hs.1 target]
  have hlisting : ∀ text, (s.process target source.text).2 = .listing text →
      given s.output = none := fun text h => hs.2.resolve_left (by simp [ast_eq_false_of_listing h])
  unfold runOn
  rw [htarget]
  dsimp only
  generalize s.process target source.text = made at hlisting ⊢
  obtain ⟨records, product⟩ := made
  cases product with
  | dump text => rfl
  | failed code => rfl
  | listing text => exact ending_deliver (hlisting text rfl) ..

theorem ending_runOn_of_no_target {s : Settings} (htarget : s.target = none) (source : Source)
    (disk : σ) : ((s.runOn host source).run disk).1.ending = .breakdown .noTarget := by
  unfold runOn
  rw [htarget]
  rfl

theorem SameTask.ending_runOn_eq {s s' : Settings} (h : s.SameTask s') (hs : s.ShowsTree)
    (hs' : s'.ShowsTree) (source : Source) (disk : σ) :
    ((s.runOn host source).run disk).1.ending = ((s'.runOn host source).run disk).1.ending := by
  have hsome := h.target
  have hdepth : s.depthLimit = s'.depthLimit := congrArg (·.getD 0) h.maxDepth
  cases htarget : s.target <;> cases htarget' : s'.target <;> simp [htarget, htarget'] at hsome
  case none.none => rw [ending_runOn_of_no_target htarget, ending_runOn_of_no_target htarget']
  case some.some => rw [ending_runOn htarget hs, ending_runOn htarget' hs', h.endingOf_eq, hdepth]

theorem SameTask.ending_runOpened_eq {s s' : Settings} (h : s.SameTask s') (hs : s.ShowsTree)
    (hs' : s'.ShowsTree) (disk : σ) :
    ((s.runOpened host).run disk).1.ending = ((s'.runOpened host).run disk).1.ending := by
  have hsource : s.readSource host = s'.readSource host := by
    unfold readSource
    rw [h.expr, h.input]
  unfold runOpened
  rw [hsource, run_bind, run_bind]
  generalize (s'.readSource host).run disk = found
  obtain ⟨found, disk⟩ := found
  cases found with
  | ok source => exact h.ending_runOn_eq hs hs' source disk
  | error b =>
      cases b with
      | host f =>
          by_cases hnull : f.cause = .nullInPath
          · simp only [hnull, if_true]
          · simp only [hnull, if_false]
            rfl
      | encoding f => rfl
      | noTarget => rfl

/-- Runs on the same source end alike, whether they dump the tree or compile it. -/
theorem SameTask.ending_run_eq {s s' : Settings} {arguments arguments' : List String}
    (h : s.SameTask s') (hs : s.ShowsTree)
    (hs' : s'.ShowsTree) (hsettings : ofArguments arguments = .ok s)
    (hsettings' : ofArguments arguments' = .ok s') (disk : σ) :
    ((run host arguments).run disk).1.ending = ((run host arguments').run disk).1.ending := by
  have hlog : s.openLog host = s'.openLog host := by
    unfold openLog
    rw [h.logFile]
  unfold run
  rw [hsettings, hsettings']
  dsimp only
  rw [hlog, run_bind, run_bind]
  generalize (s'.openLog host).run disk = opened
  obtain ⟨opened, disk⟩ := opened
  cases opened with
  | ok _ => exact h.ending_runOpened_eq hs hs' disk
  | error f => rfl

end Runs

end Settings

end SexprAsm.CommandLine
