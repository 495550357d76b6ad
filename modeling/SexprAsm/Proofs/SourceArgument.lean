import SexprAsm.Proofs.ArgumentKeep
import Mathlib.Data.List.Basic

/-!
# The source among the arguments

A source is named by a plain argument or given as the value of a switch, between the other
arguments. These are taken in the same way in both cases, and as they would be without a source.
-/

namespace SexprAsm.CommandLine

/-! ## Classing arguments one after the other -/

namespace Word

theorem classifyAll_cons_eq_ok {argument : String} {arguments : List String} {words : List Word}
    (hplain : "--" ∉ argument :: arguments) (h : classifyAll (argument :: arguments) = .ok words) :
    argument ≠ "--" ∧ "--" ∉ arguments ∧
      ∃ word rest, classify argument = .ok word ∧ classifyAll arguments = .ok rest ∧
        words = word :: rest := by
  obtain ⟨hargument, harguments⟩ := List.ne_and_not_mem_of_not_mem_cons hplain
  rw [classifyAll, if_neg hargument.symm] at h
  obtain ⟨word, hword, h⟩ := bind_eq_ok_iff.1 h
  obtain ⟨rest, hrest, h⟩ := bind_eq_ok_iff.1 h
  exact ⟨hargument.symm, harguments, word, rest, hword, hrest, (Except.ok.inj h).symm⟩

theorem classifyAll_append {arguments : List String} (hplain : "--" ∉ arguments)
    (more : List String) :
    classifyAll (arguments ++ more) =
      (classifyAll arguments).bind fun words => (classifyAll more).map (words ++ ·) := by
  induction arguments with
  | nil => cases hmore : classifyAll more <;> simp [hmore, classifyAll, Except.bind, Except.map]
  | cons argument arguments ih =>
      obtain ⟨hargument, harguments⟩ := List.ne_and_not_mem_of_not_mem_cons hplain
      rw [List.cons_append, classifyAll, classifyAll, if_neg hargument.symm, if_neg hargument.symm,
        ih harguments]
      cases classify argument with
      | error f => rfl
      | ok word =>
          cases classifyAll arguments with
          | error f => rfl
          | ok words => cases classifyAll more <;> rfl

theorem ofOther_ne_separator (argument : String) : ofOther argument ≠ separator := by
  unfold ofOther
  dsimp only
  split <;> simp

theorem classify_ne_separator (argument : String) : classify argument ≠ .ok separator := by
  have hother := ofOther_ne_separator argument
  unfold classify ofLong ofShort
  grind

theorem separator_not_mem {arguments : List String} {words : List Word}
    (hplain : "--" ∉ arguments) (h : classifyAll arguments = .ok words) : separator ∉ words := by
  induction arguments generalizing words with
  | nil =>
      obtain rfl := Except.ok.inj h
      simp
  | cons argument arguments ih =>
      obtain ⟨-, harguments, word, rest, hword, hrest, rfl⟩ := classifyAll_cons_eq_ok hplain h
      have hne : separator ≠ word := by
        rintro rfl
        exact classify_ne_separator argument hword
      exact List.not_mem_cons_of_ne_of_not_mem hne (ih harguments hrest)

theorem ne_separator_of_plain {argument text : String} (h : classify argument = .ok (plain text)) :
    argument ≠ "--" := by
  rintro rfl
  have hambiguous : (classify "--").isOk = false := by decide +kernel
  rw [h] at hambiguous
  cases hambiguous

/-- Whether the value of a switch is to come with the next argument. -/
def awaitsValue : Word → Bool
  | switch s short value =>
    match Request.ofSwitch s short value with
    | .ok ⟨_, some (_, none)⟩ => true
    | _ => false
  | _ => false

def EndComplete (words : List Word) : Prop :=
  ∀ word ∈ words.getLast?, word.awaitsValue = false

theorem EndComplete.tail {word : Word} {words : List Word} (h : EndComplete (word :: words)) :
    EndComplete words :=
  fun last hlast => h last (List.mem_getLast?_cons hlast)

end Word

/-! ## Two runs over the same arguments -/

/-- Both fail alike, or both succeed with related results. -/
inductive Together {ε α β : Type} (R : α → β → Prop) : Except ε α → Except ε β → Prop
  | error (e : ε) : Together R (.error e) (.error e)
  | ok {a : α} {b : β} (h : R a b) : Together R (.ok a) (.ok b)

namespace Together

variable {ε ε' α β α' β' : Type} {R : α → β → Prop} {S : α' → β' → Prop}

theorem bind {x : Except ε α} {y : Except ε β} {f : α → Except ε α'} {g : β → Except ε β'}
    (h : Together R x y) (hnext : ∀ a b, R a b → Together S (f a) (g b)) :
    Together S (x >>= f) (y >>= g) := by
  cases h with
  | error e => exact .error e
  | ok hab => exact hnext _ _ hab

theorem mapError {x : Except ε α} {y : Except ε β} (h : Together R x y) (f : ε → ε') :
    Together R (x.mapError f) (y.mapError f) := by
  cases h with
  | error e => exact .error (f e)
  | ok hab => exact .ok hab

end Together

namespace Settings

def IsBare (s : Settings) : Prop :=
  s.input = none ∧ s.expr = none

def withSource (s : Settings) (input : Option String) (expr : Option Source) : Settings :=
  { s with input, expr }

section Beside

/-- While no source is given in the first settings, the second ones are the same with a source, and
a condition is kept up. -/
def Beside (input : Option String) (expr : Option Source) (condition : Prop) (s s' : Settings) :
    Prop :=
  s.IsBare → s' = s.withSource input expr ∧ condition

variable {input : Option String} {expr : Option Source} {condition : Prop} {s s' : Settings}

theorem Beside.raise (h : s.Beside input expr condition s') (switch : Switch) :
    Together (Beside input expr condition) (s.raise switch) (s'.raise switch) := by
  cases switch with
  | help | version => exact .error _
  | _ =>
      refine .ok fun hbare => ?_
      obtain ⟨rfl, hcondition⟩ := h hbare
      exact ⟨rfl, hcondition⟩

theorem Beside.raiseAll (h : s.Beside input expr condition s') (flags : List Switch) :
    Together (Beside input expr condition) (s.raiseAll flags) (s'.raiseAll flags) := by
  induction flags generalizing s s' with
  | nil => exact .ok h
  | cons flag flags ih => exact (h.raise flag).bind fun _ _ hraised => ih hraised

theorem Beside.clear (h : s.Beside input expr condition s') (switch : Switch) :
    (s.clear switch).Beside input expr condition (s'.clear switch) := by
  intro hbare
  cases switch with
  | expr => exact nomatch hbare.2
  | _ =>
      obtain ⟨rfl, hcondition⟩ := h hbare
      exact ⟨rfl, hcondition⟩

theorem Beside.assign (h : s.Beside input expr condition s') (switch : Switch) (value : String) :
    Together (Beside input expr condition) (s.assign switch value) (s'.assign switch value) := by
  unfold Settings.assign
  split
  · exact .ok (h.clear switch)
  cases switch with
  | expr => exact .ok fun hbare => nomatch hbare.2
  | target =>
      dsimp only
      cases Profile.find? value with
      | none => exact .error _
      | some profile =>
          refine .ok fun hbare => ?_
          obtain ⟨rfl, hcondition⟩ := h hbare
          exact ⟨rfl, hcondition⟩
  | maxDepth =>
      dsimp only
      cases Text.integer? value with
      | none => exact .error _
      | some n =>
          refine .ok fun hbare => ?_
          obtain ⟨rfl, hcondition⟩ := h hbare
          exact ⟨rfl, hcondition⟩
  | _ =>
      refine .ok fun hbare => ?_
      obtain ⟨rfl, hcondition⟩ := h hbare
      exact ⟨rfl, hcondition⟩

end Beside

end Settings

namespace Draft

def Beside (input : Option String) (expr : Option Source) (d e : Draft) : Prop :=
  d.settings.Beside input expr (e.unrecognized = d.unrecognized) e.settings

variable {input : Option String} {expr : Option Source} {d e : Draft}

theorem Beside.refuse (h : d.Beside input expr e) (text : String) :
    (d.refuse text).Beside input expr (e.refuse text) := by
  intro hbare
  obtain ⟨hsettings, hrefused⟩ := h hbare
  exact ⟨hsettings, congrArg (· ++ [text]) hrefused⟩

theorem Beside.takePlain (d e : Draft) (text : String) :
    (d.takePlain text).Beside input expr e := by
  intro hbare
  -- a plain argument is a source, so nothing is left to show
  unfold Draft.takePlain at hbare
  cases hinput : d.settings.input with
  | none =>
      rw [hinput] at hbare
      exact nomatch hbare.1
  | some _ =>
      rw [hinput] at hbare
      exact nomatch hinput.symm.trans hbare.1

theorem Beside.serve (h : d.Beside input expr e) (flags : List Switch)
    (valued : Option (Switch × String)) :
    Together (Beside input expr) (d.serve flags valued) (e.serve flags valued) := by
  apply (Settings.Beside.raiseAll h flags).bind
  intro raised raised' hraised
  cases valued with
  | none => exact .ok hraised
  | some v =>
      apply ((hraised.assign v.1 v.2).mapError _).bind
      exact fun _ _ hassigned => .ok hassigned

theorem Beside.takeWords {words : List Word} (h : d.Beside input expr e)
    (hseparator : .separator ∉ words) :
    Together (Beside input expr) (d.takeWords words) (e.takeWords words) := by
  fun_induction Draft.takeWords d words generalizing e with
  | case1 d => exact .ok h
  | case2 d text words ih => exact ih (takePlain d _ text) (by grind)
  | case3 d words ih => simp at hseparator
  | case4 d text words ih => exact ih (h.refuse text) (by grind)
  | case5 d s short value words f hrequest =>
      simp only [Draft.takeWords.eq_def e, hrequest]
      exact .error _
  | case6 d s short value flags words hrequest ih =>
      simp only [Draft.takeWords.eq_def e, hrequest]
      exact (h.serve flags none).bind fun served _ hserved => ih served hserved (by grind)
  | case7 d s short value flags s' value' words hrequest ih =>
      simp only [Draft.takeWords.eq_def e, hrequest]
      exact (h.serve flags _).bind fun served _ hserved => ih served hserved (by grind)
  | case8 d s short value flags s' value' words hrequest ih =>
      simp only [Draft.takeWords.eq_def e, hrequest]
      exact (h.serve flags _).bind fun served _ hserved => ih served hserved (by grind)
  | case9 d s short value words flags s' hrequest hwords =>
      simp only [Draft.takeWords.eq_def e, hrequest]
      exact .error _

/-- Words are taken one after the other, unless a switch takes the first of the later ones. -/
theorem takeWords_append {words : List Word} (h : Word.EndComplete words) (more : List Word) :
    d.takeWords (words ++ more) = (d.takeWords words).bind (·.takeWords more) := by
  fun_induction Draft.takeWords d words with
  | case1 d => rfl
  | case2 d text words ih => exact ih h.tail
  | case3 d words ih => exact ih h.tail
  | case4 d text words ih => exact ih h.tail
  | case5 d s short value words f hrequest =>
      simp only [List.cons_append, Draft.takeWords.eq_def d, hrequest]
      rfl
  | case6 d s short value flags words hrequest ih =>
      simp only [List.cons_append, Draft.takeWords.eq_def d, hrequest]
      cases d.serve flags none with
      | error i => rfl
      | ok served => exact ih served h.tail
  | case7 d s short value flags s' value' words hrequest ih =>
      simp only [List.cons_append, Draft.takeWords.eq_def d, hrequest]
      cases d.serve flags (some (s', value')) with
      | error i => rfl
      | ok served => exact ih served h.tail
  | case8 d s short value flags s' value' words hrequest ih =>
      simp only [List.cons_append, Draft.takeWords.eq_def d, hrequest]
      cases d.serve flags (some (s', value')) with
      | error i => rfl
      | ok served => exact ih served h.tail.tail
  | case9 d s short value words flags s' hrequest hwords =>
      cases words with
      | nil =>
          have hcomplete := h _ rfl
          simp [Word.awaitsValue, hrequest] at hcomplete
      | cons word words =>
          simp only [List.cons_append, Draft.takeWords.eq_def d, hrequest]
          cases word with
          | plain text => exact absurd rfl (hwords text words)
          | _ => rfl

end Draft

/-! ## Putting a source between the arguments -/

namespace Settings

/-- Arguments that name no source, whether they can all be taken or not. None of them ends the
switches, because every argument after that is plain. -/
structure NoSource (arguments : List String) : Prop where
  not_separated : "--" ∉ arguments
  isBare : ∀ words d, Word.classifyAll arguments = .ok words →
    ({} : Draft).takeWords words = .ok d → d.settings.IsBare

/-- Arguments that do not end in a switch whose value is still to come. -/
def EndComplete (arguments : List String) : Prop :=
  ∀ words, Word.classifyAll arguments = .ok words → Word.EndComplete words

theorem taken_of_ofArguments {arguments : List String} {s : Settings}
    (h : ofArguments arguments = .ok s) :
    ∃ words d, Word.classifyAll arguments = .ok words ∧
      ({} : Draft).takeWords words = .ok d ∧ d.settings = s := by
  unfold ofArguments at h
  cases hwords : Word.classifyAll arguments with
  | error f => simp [hwords] at h
  | ok words =>
      rw [hwords] at h
      obtain ⟨d, hd, h⟩ := bind_eq_ok_iff.1 h
      split at h
      · exact ⟨words, d, rfl, hd, Except.ok.inj h⟩
      · cases h

theorem noSource_of_ofArguments {arguments : List String} {s : Settings}
    (hplain : "--" ∉ arguments) (h : ofArguments arguments = .ok s) (hbare : s.IsBare) :
    NoSource arguments := by
  refine ⟨hplain, fun words d hwords hd => ?_⟩
  obtain ⟨words', d', hwords', hd', rfl⟩ := taken_of_ofArguments h
  obtain rfl := Except.ok.inj (hwords.symm.trans hwords')
  obtain rfl := Except.ok.inj (hd.symm.trans hd')
  exact hbare

section Insertion

variable {before after : List String} (hbefore : EndComplete before)
  (hoptions : NoSource (before ++ after))

include hbefore hoptions

theorem ofArguments_insert {source : List String} {input : Option String} {expr : Option Source}
    (hplain : "--" ∉ source) {words : List Word} (hwords : Word.classifyAll source = .ok words)
    (hend : Word.EndComplete words)
    (htake : ∀ d : Draft, ∃ e, d.takeWords words = .ok e ∧ d.Beside input expr e) :
    ofArguments (before ++ (source ++ after)) =
      (ofArguments (before ++ after)).map (·.withSource input expr) := by
  have hbeforePlain : "--" ∉ before := fun hmem =>
    hoptions.not_separated (List.mem_append_left _ hmem)
  have hafterPlain : "--" ∉ after := fun hmem =>
    hoptions.not_separated (List.mem_append_right _ hmem)
  have hbare := hoptions.isBare
  unfold ofArguments
  rw [Word.classifyAll_append hbeforePlain] at hbare
  rw [Word.classifyAll_append hbeforePlain, Word.classifyAll_append hbeforePlain,
    Word.classifyAll_append hplain, hwords]
  cases hfirst : Word.classifyAll before with
  | error f => rfl
  | ok first =>
    cases hlast : Word.classifyAll after with
    | error f => rfl
    | ok last =>
        have hcomplete := hbefore first hfirst
        have hbare' := hbare (first ++ last)
        rw [Draft.takeWords_append hcomplete, hfirst, hlast] at hbare'
        dsimp only [Except.bind, Except.map]
        rw [Draft.takeWords_append hcomplete, Draft.takeWords_append hcomplete]
        -- what fails before the source fails in the same way without it
        cases hd : ({} : Draft).takeWords first with
        | error i => rfl
        | ok d =>
            obtain ⟨e, he, hbeside⟩ := htake d
            have htogether := hbeside.takeWords (Word.separator_not_mem hafterPlain hlast)
            rw [hd] at hbare'
            dsimp only [Except.bind] at hbare' ⊢
            rw [Draft.takeWords_append hend, he]
            dsimp only [Except.bind]
            generalize d.takeWords last = taken at htogether hbare' ⊢
            generalize e.takeWords last = taken' at htogether ⊢
            cases htogether with
            | error i => rfl
            | ok h =>
                obtain ⟨hsettings, hrefused⟩ := h (hbare' _ rfl rfl)
                simp only [bind, Except.bind, hsettings, hrefused]
                split <;> rfl

theorem ofArguments_input {path : String} (hpath : Word.classify path = .ok (.plain path)) :
    ofArguments (before ++ path :: after) =
      (ofArguments (before ++ after)).map (·.withSource (some path) none) := by
  have hplain := Word.ne_separator_of_plain hpath
  have hwords : Word.classifyAll [path] = .ok [.plain path] := by
    rw [Word.classifyAll, if_neg hplain, hpath]
    rfl
  apply ofArguments_insert hbefore hoptions (by simpa using hplain.symm) hwords
    (by simp [Word.EndComplete, Word.awaitsValue])
  refine fun d => ⟨_, rfl, fun hbare => ?_⟩
  obtain ⟨hinput, hexpr⟩ := hbare
  unfold Draft.takePlain
  rw [hinput]
  exact ⟨by rw [withSource, ← hexpr], rfl⟩

theorem ofArguments_expr {text : String} (htext : Word.classify text = .ok (.plain text)) :
    ofArguments (before ++ "-e" :: text :: after) =
      (ofArguments (before ++ after)).map (·.withSource none (some { text })) := by
  have hplain := Word.ne_separator_of_plain htext
  have hswitch : Word.classify "-e" = .ok (.switch .expr false none) := rfl
  have hwords : Word.classifyAll ["-e", text] = .ok [.switch .expr false none, .plain text] := by
    rw [Word.classifyAll, if_neg (by decide), hswitch, Word.classifyAll, if_neg hplain, htext]
    rfl
  apply ofArguments_insert hbefore hoptions (by simpa using hplain.symm) hwords
    (by simp [Word.EndComplete, Word.awaitsValue])
  intro d
  have hassign : d.settings.assign .expr text = .ok { d.settings with expr := some { text } } :=
    if_neg hplain
  have hrequest : Request.ofSwitch .expr false none = .ok { valued := some (.expr, none) } := rfl
  refine ⟨{ d with settings := { d.settings with expr := some { text } }, inputJustTaken := false },
    ?_, fun hbare => ?_⟩
  · simp only [Draft.takeWords.eq_def d, hrequest]
    unfold Draft.serve raiseAll
    dsimp only [bind, Except.bind]
    rw [hassign]
    rfl
  · exact ⟨by rw [withSource, ← hbare.1], rfl⟩

end Insertion

end Settings

end SexprAsm.CommandLine
