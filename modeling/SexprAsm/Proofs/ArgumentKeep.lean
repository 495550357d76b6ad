import SexprAsm.CommandLine.Arguments

/-!
# What arguments leave alone

Arguments reach the settings one switch at a time. A property that no allowed switch takes away is
therefore one of all settings that come from such arguments. Two properties are of use: without the
switch for it there is no log file, and a source from the command line is shown as it is.
-/

namespace SexprAsm.CommandLine

namespace Switch

theorem mem_table_of_ofSpelling? {spelling : String} {s : Switch}
    (h : ofSpelling? spelling = some s) : (spelling, s) ∈ table := by
  obtain ⟨before, after, htable, -⟩ := List.lookup_eq_some_iff.1 h
  rw [htable]
  simp

theorem ofLetter?_ne_logFile (c : Char) : ofLetter? c ≠ some .logFile := by
  intro h
  have hlength : ∀ entry ∈ table, entry.2 = logFile → entry.1.length ≠ 2 := by decide
  apply hlength _ (mem_table_of_ofSpelling? h) rfl
  rw [String.length_ofList]
  rfl

end Switch

namespace Settings

/-- A property that the settings keep while arguments with allowed switches are taken. Letters may
be clustered in one argument, so a switch that has a letter must be allowed. -/
structure Keeps (allowed : Switch → Prop) (P : Settings → Prop) : Prop where
  letter : ∀ c switch, Switch.ofLetter? c = some switch → allowed switch
  input : ∀ s text, P s → P { s with input := some text }
  raise : ∀ s switch s', P s → s.raise switch = .ok s' → P s'
  assign : ∀ s switch value s', allowed switch → P s → s.assign switch value = .ok s' → P s'

end Settings

section Steps

variable {ε ε' α β : Type}

theorem bind_eq_ok_iff {x : Except ε α} {f : α → Except ε β} {b : β} :
    x >>= f = .ok b ↔ ∃ a, x = .ok a ∧ f a = .ok b := by
  cases x <;> simp [bind, Except.bind]

theorem map_eq_ok_iff {x : Except ε α} {f : α → β} {b : β} :
    x.map f = .ok b ↔ ∃ a, x = .ok a ∧ f a = b := by
  cases x <;> simp [Except.map]

theorem mapError_eq_ok_iff {x : Except ε α} {f : ε → ε'} {a : α} :
    x.mapError f = .ok a ↔ x = .ok a := by
  cases x with
  | error e => exact ⟨nofun, nofun⟩
  | ok a' =>
      change Except.ok a' = Except.ok a ↔ Except.ok a' = Except.ok a
      simp only [Except.ok.injEq]

end Steps

section Keeping

variable {allowed : Switch → Prop} {P : Settings → Prop}

theorem Request.allowed_ofCluster (hkeeps : Settings.Keeps allowed P) {s : Switch} {cs : List Char}
    {r : Request} (hs : allowed s) (h : ofCluster s cs = .ok r) : ∀ v ∈ r.valued, allowed v.1 := by
  induction cs generalizing s r with
  | nil =>
      simp only [ofCluster, Except.ok.injEq] at h
      subst h
      split <;> simp [hs]
  | cons c cs ih =>
      rw [ofCluster] at h
      split at h
      · simp only [Except.ok.injEq] at h
        subst h
        simp [hs]
      · cases hletter : Switch.ofLetter? c with
        | none => simp [hletter] at h
        | some s' =>
            simp only [hletter] at h
            obtain ⟨r', hmore, rfl⟩ := map_eq_ok_iff.1 h
            have hs' : allowed s' := hkeeps.letter c s' hletter
            exact ih (r := r') hs' hmore

theorem Request.allowed_ofSwitch (hkeeps : Settings.Keeps allowed P) {s : Switch} {short : Bool}
    {value : Option String} {r : Request} (hs : allowed s) (h : ofSwitch s short value = .ok r) :
    ∀ v ∈ r.valued, allowed v.1 := by
  cases value with
  | none => exact allowed_ofCluster hkeeps hs h
  | some value =>
      rw [ofSwitch] at h
      split at h
      · simp only [Except.ok.injEq] at h
        subst h
        simp [hs]
      · split at h
        · exact allowed_ofCluster hkeeps hs h
        · simp at h

namespace Settings

theorem Keeps.raiseAll (hkeeps : Keeps allowed P) {s s' : Settings} {flags : List Switch}
    (hs : P s) (h : s.raiseAll flags = .ok s') : P s' := by
  induction flags generalizing s with
  | nil =>
      obtain rfl : s = s' := by simpa [Settings.raiseAll] using h
      exact hs
  | cons flag flags ih =>
      rw [Settings.raiseAll] at h
      obtain ⟨raised, hraise, hrest⟩ := bind_eq_ok_iff.1 h
      exact ih (hkeeps.raise s flag raised hs hraise) hrest

theorem Keeps.serve (hkeeps : Keeps allowed P) {d d' : Draft} {flags : List Switch}
    {valued : Option (Switch × String)} (hallowed : ∀ v ∈ valued, allowed v.1)
    (hd : P d.settings) (h : d.serve flags valued = .ok d') : P d'.settings := by
  unfold Draft.serve at h
  obtain ⟨raised, hraised, h⟩ := bind_eq_ok_iff.1 h
  have hkept : P raised := hkeeps.raiseAll hd hraised
  cases valued with
  | none =>
      obtain rfl := Except.ok.inj h
      exact hkept
  | some v =>
      obtain ⟨assigned, hassigned, h⟩ := bind_eq_ok_iff.1 h
      obtain rfl := Except.ok.inj h
      have hvalue := mapError_eq_ok_iff.1 hassigned
      exact hkeeps.assign raised v.1 v.2 assigned (hallowed v rfl) hkept hvalue

theorem Keeps.takePlain (hkeeps : Keeps allowed P) {d : Draft} (hd : P d.settings)
    (text : String) : P (d.takePlain text).settings := by
  unfold Draft.takePlain
  cases d.settings.input with
  | none => exact hkeeps.input d.settings text hd
  | some _ => exact hd

theorem settings_takeSeparator (d : Draft) : d.takeSeparator.settings = d.settings := by
  unfold Draft.takeSeparator
  split <;> rfl

theorem Keeps.serve_takeWords (hkeeps : Keeps allowed P) {d d' : Draft} {flags : List Switch}
    {valued : Option (Switch × String)} {words : List Word}
    (hallowed : ∀ v ∈ valued, allowed v.1) (hd : P d.settings)
    (hwords : ∀ served : Draft, P served.settings → served.takeWords words = .ok d' →
      P d'.settings)
    (h : (do (← d.serve flags valued).takeWords words) = .ok d') : P d'.settings := by
  obtain ⟨served, hserved, hrest⟩ := bind_eq_ok_iff.1 h
  exact hwords served (hkeeps.serve hallowed hd hserved) hrest

theorem Keeps.takeWords (hkeeps : Keeps allowed P) {d d' : Draft} {words : List Word}
    (hallowed : ∀ s short value, .switch s short value ∈ words → allowed s)
    (hd : P d.settings) (h : d.takeWords words = .ok d') : P d'.settings := by
  fun_induction Draft.takeWords d words with
  | case1 d =>
      obtain rfl := Except.ok.inj h
      exact hd
  | case2 d text words ih =>
      apply ih (by grind) _ h
      exact hkeeps.takePlain hd text
  | case3 d words ih =>
      apply ih (by grind) _ h
      rwa [settings_takeSeparator]
  | case4 d text words ih =>
      apply ih (by grind) _ h
      exact hd
  | case5 => cases h
  | case6 d s short value words flags hrequest ih =>
      apply hkeeps.serve_takeWords _ hd _ h
      · simp
      · exact fun served => ih served (by grind)
  | case7 d s short value words flags s' value' hrequest ih =>
      have hs : allowed s := hallowed s short value (by simp)
      apply hkeeps.serve_takeWords _ hd _ h
      · simpa using Request.allowed_ofSwitch hkeeps hs hrequest
      · exact fun served => ih served (by grind)
  | case8 d s short value flags s' value' words hrequest ih =>
      have hs : allowed s := hallowed s short value (by simp)
      apply hkeeps.serve_takeWords _ hd _ h
      · simpa using Request.allowed_ofSwitch hkeeps hs hrequest
      · exact fun served => ih served (by grind)
  | case9 => cases h

theorem Keeps.ofArguments (hkeeps : Keeps allowed P) {arguments : List String} {words : List Word}
    {s : Settings} (hwords : Word.classifyAll arguments = .ok words)
    (hallowed : ∀ s short value, .switch s short value ∈ words → allowed s) (hdefault : P {})
    (h : Settings.ofArguments arguments = .ok s) : P s := by
  unfold Settings.ofArguments at h
  rw [hwords] at h
  obtain ⟨d, htaken, h⟩ := bind_eq_ok_iff.1 h
  split at h
  · obtain rfl := Except.ok.inj h
    exact hkeeps.takeWords hallowed hdefault htaken
  · cases h

end Settings

end Keeping

def Word.isSwitch (s : Switch) : Word → Bool
  | .switch s' _ _ => s' = s
  | _ => false

/-- One of the arguments is the switch, spelled out or cut short. -/
def Switch.isAmong (s : Switch) (arguments : List String) : Bool :=
  match Word.classifyAll arguments with
  | .ok words => words.any (·.isSwitch s)
  | .error _ => false

namespace Settings

theorem raise_eq_ok {s s' : Settings} {switch : Switch} (h : s.raise switch = .ok s') :
    s'.expr = s.expr ∧ s'.logFile = s.logFile := by
  cases switch <;> simp only [raise, reduceCtorEq, Except.ok.injEq] at h <;> simp [← h]

theorem clear_eq (s : Settings) (switch : Switch) :
    (s.clear switch).expr = (if switch = .expr then some .missing else s.expr) ∧
      (s.clear switch).logFile = if switch = .logFile then none else s.logFile := by
  cases switch <;> exact ⟨rfl, rfl⟩

theorem assign_eq_ok {s s' : Settings} {switch : Switch} {value : String}
    (h : s.assign switch value = .ok s') :
    (s'.expr = s.expr ∨ s'.expr = some .missing ∨ s'.expr = some { text := value }) ∧
      (switch ≠ .logFile → s'.logFile = s.logFile) := by
  unfold assign at h
  split at h
  · obtain rfl := Except.ok.inj h
    obtain ⟨hexpr, hlog⟩ := clear_eq s switch
    rw [hexpr, hlog]
    exact ⟨by split <;> simp, fun hswitch => if_neg hswitch⟩
  · cases switch with
    | target =>
        cases hprofile : Profile.find? value <;> simp [hprofile] at h
        simp [← h]
    | maxDepth =>
        cases hnumber : Text.integer? value <;> simp [hnumber] at h
        simp [← h]
    | _ =>
        obtain rfl := Except.ok.inj h
        simp

theorem keeps_logFile_none : Keeps (· ≠ .logFile) (·.logFile = none) where
  letter c switch h := by
    rintro rfl
    exact Switch.ofLetter?_ne_logFile c h
  input s text hs := hs
  raise s switch s' hs h := (raise_eq_ok h).2.trans hs
  assign s switch value s' hswitch hs h := ((assign_eq_ok h).2 hswitch).trans hs

theorem logFile_eq_none {arguments : List String} {s : Settings}
    (hlog : Switch.logFile.isAmong arguments = false)
    (h : ofArguments arguments = .ok s) : s.logFile = none := by
  cases hwords : Word.classifyAll arguments with
  | error f => simp [ofArguments, hwords] at h
  | ok words =>
      apply keeps_logFile_none.ofArguments hwords _ rfl h
      rintro switch short value hmem rfl
      have hno : ∀ word ∈ words, word.isSwitch .logFile = false := by
        simpa [Switch.isAmong, hwords] using hlog
      simpa [Word.isSwitch] using hno _ hmem

def ShowsExpr (s : Settings) : Prop :=
  ∀ source ∈ s.expr, source = .missing ∨ source.shown = source.text

theorem keeps_showsExpr : Keeps (fun _ => True) ShowsExpr where
  letter _ _ _ := trivial
  input s text hs := hs
  raise s switch s' hs h := by
    unfold ShowsExpr
    rwa [(raise_eq_ok h).1]
  assign s switch value s' _ hs h := by
    unfold ShowsExpr
    rcases (assign_eq_ok h).1 with hexpr | hexpr | hexpr <;> rw [hexpr]
    · exact hs
    · simp
    · simp

theorem showsExpr_of_ofArguments {arguments : List String} {s : Settings}
    (h : ofArguments arguments = .ok s) : s.ShowsExpr := by
  cases hwords : Word.classifyAll arguments with
  | error f => simp [ofArguments, hwords] at h
  | ok words =>
      apply keeps_showsExpr.ofArguments hwords _ _ h
      · simp
      · simp [ShowsExpr]

end Settings

end SexprAsm.CommandLine
