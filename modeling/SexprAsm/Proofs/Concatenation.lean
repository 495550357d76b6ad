import SexprAsm.Proofs.ListingShape
import SexprAsm.Proofs.ScanFaults
import Mathlib.Data.List.DropRight

/-!
# One source after another

A source that compiles is closed: no token of it goes on in what follows, and no form of it is left
open. So a source after it is scanned, read and listed as it would be alone. Its lines follow those
of the first source, and its faults are the same, only further on.
-/

namespace SexprAsm

/-! ## Scanning on -/

namespace Scan

theorem tokens_append {as : List Char} {ts : List Token} (h : (tokens as).outcome = .ok ts)
    (bs : List Char) : tokens (as ++ bs) = (tokens bs).map (ts ++ ·) := by
  fun_induction tokens as generalizing ts with
  | case1 =>
      obtain rfl : [] = ts := by simpa using h
      exact (Reading.map_id _).symm
  | case2 => simp at h
  | case3 c cs t rest hlexeme ih =>
      obtain ⟨us, hus, rfl⟩ := Reading.outcome_map_eq_ok_iff.1 h
      obtain ⟨used, hused, hclosed, hread⟩ := tokens_of_lexeme_append hlexeme
      -- what closed the lexeme in the first source still stands right after it
      rw [hused, List.append_assoc, hread _ fun u hu => (hclosed u hu).append bs, ih hus,
        Reading.map_map]
      simp only [List.append_assoc]

end Scan

def ScanFault.shift (n : Nat) (f : ScanFault) : ScanFault :=
  { f with pos := f.pos + n }

/-- Only faults of the scanner tell a place in the source. -/
def Fault.shift (n : Nat) : Fault → Fault
  | .scan f => .scan (f.shift n)
  | .read f => .read f
  | .listing f => .listing f

theorem tokenize_append {a : String} {ts : List Token} (h : tokenize a = .ok ts) (b : String) :
    tokenize (a ++ b) = ((tokenize b).mapError (.shift a.length)).map (ts ++ ·) := by
  have hlength : (Scan.tokens b.toList).rest.length ≤ b.toList.length :=
    (Scan.rest_tokens_suffix b.toList).length_le
  have hpos : (a.toList ++ b.toList).length - (Scan.tokens b.toList).rest.length =
      b.toList.length - (Scan.tokens b.toList).rest.length + a.length := by
    rw [List.length_append, String.length_toList]
    omega
  rw [tokenize_eq, tokenize_eq, String.toList_append, Scan.tokens_append (tokenize_eq_ok.1 h),
    Reading.map, hpos]
  cases (Scan.tokens b.toList).outcome <;> rfl

theorem ScanFault.diagnostic_shift (f : ScanFault) (n : Nat) :
    ∃ detail char, f.diagnostic = ⟨detail, .source f.pos char⟩ ∧
      (f.shift n).diagnostic = ⟨detail, .source (f.shift n).pos char⟩ := by
  obtain ⟨cause, pos⟩ := f
  cases cause with
  | illegalCharacter c => exact ⟨_, _, rfl, rfl⟩
  | unexpectedEnd => exact ⟨_, _, rfl, rfl⟩

/-- Scanning distributes over concatenation. After a source that scans, whatever its tokens spell,
another source gives the tokens that it gives alone. If it does not scan, the fault is the same,
with the same message and character, and its position is further on by the length of the first
source. -/
theorem tokenize_distributes (a b : String) (ts : List Token) (h : tokenize a = .ok ts) :
    (∀ us, tokenize b = .ok us → tokenize (a ++ b) = .ok (ts ++ us)) ∧
    ∀ f, tokenize b = .error f →
      ∃ g detail char, tokenize (a ++ b) = .error g ∧ g.pos = a.length + f.pos ∧
        f.diagnostic = ⟨detail, .source f.pos char⟩ ∧
        g.diagnostic = ⟨detail, .source g.pos char⟩ := by
  constructor
  · intro us hb
    rw [tokenize_append h, hb]
    rfl
  · intro f hb
    obtain ⟨detail, char, hf, hg⟩ := f.diagnostic_shift a.length
    refine ⟨f.shift a.length, detail, char, ?_, Nat.add_comm _ _, hf, hg⟩
    rw [tokenize_append h, hb]
    rfl

theorem tokenize_distributes_openCall :
    tokenize "(f\"x\"" = .ok [.lparen, ⟨.ident, "f"⟩, ⟨.string, "x"⟩] ∧
      tokenize ("(f\"x\"" ++ "\"y\")") =
        .ok [.lparen, ⟨.ident, "f"⟩, ⟨.string, "x"⟩, ⟨.string, "y"⟩, .rparen] ∧
      tokenize "1 $" = .error ⟨.illegalCharacter '$', 2⟩ ∧
      ∃ g, tokenize ("(f\"x\"" ++ "1 $") = .error g ∧ g.pos = 7 ∧
        g.diagnostic.place = .source 7 "$" := by
  have ha : tokenize "(f\"x\"" = .ok [.lparen, ⟨.ident, "f"⟩, ⟨.string, "x"⟩] := by decide +kernel
  have hb : tokenize "\"y\")" = .ok [⟨.string, "y"⟩, .rparen] := by decide +kernel
  have hfault : tokenize "1 $" = .error ⟨.illegalCharacter '$', 2⟩ := by decide +kernel
  have hok := (tokenize_distributes _ "\"y\")" _ ha).1 _ hb
  obtain ⟨g, detail, char, hg, hpos, hf, hdiagnostic⟩ :=
    (tokenize_distributes _ "1 $" _ ha).2 _ hfault
  obtain ⟨rfl, rfl⟩ : "illegal character" = detail ∧ "$" = char := by
    simpa [ScanFault.diagnostic] using hf
  refine ⟨ha, hok, hfault, g, hg, hpos, ?_⟩
  rw [hdiagnostic, hpos]
  rfl

/-! ## Reading on -/

namespace Node

theorem readForms_append {limit : Int} {form : OpenForm} {ts : List Token} {forms : List Node}
    (h : (readForms limit form ts).outcome = .ok forms) (us : List Token) :
    readForms limit form (ts ++ us) = (readForms limit {} us).map (forms ++ ·) := by
  induction ts generalizing form forms with
  | nil =>
      obtain ⟨calls, awaits⟩ := form
      rw [readForms] at h
      split at h
      · next hclosed =>
          obtain ⟨rfl, rfl⟩ : calls = [] ∧ awaits = false := by simpa using hclosed
          obtain rfl : [] = forms := by simpa using h
          exact (Reading.map_id _).symm
      · simp at h
  | cons t ts ih =>
      rw [readForms] at h
      rw [List.cons_append, readForms]
      cases hadvance : form.advance limit 0 t with
      | more form' =>
          rw [hadvance] at h
          exact ih h
      | form n =>
          rw [hadvance] at h
          obtain ⟨forms', hforms', rfl⟩ := Reading.outcome_map_eq_ok_iff.1 h
          dsimp only
          rw [ih hforms', Reading.map_map]
          rfl
      | close => simp [hadvance] at h
      | fault f => simp [hadvance] at h

theorem ofTokens_append {maxDepth : Int} {ts : List Token} {forms : List Node}
    (h : ofTokens maxDepth ts = .ok (program forms)) (us : List Token) :
    ofTokens maxDepth (ts ++ us) =
      ((readForms (min maxDepth nestingCeiling) {} us).outcome.mapError (.reported maxDepth)).map
        fun more => program (forms ++ more) := by
  obtain ⟨forms', hforms, hsame⟩ := ofTokens_eq_ok_iff.1 h
  obtain rfl : forms' = forms := by simpa using hsame
  rw [ofTokens_eq, readForms_append hforms]
  cases houtcome : (readForms (min maxDepth nestingCeiling) {} us).outcome <;>
    simp [Reading.map, houtcome, Except.map, Except.mapError]

theorem ofSource_eq_ok {maxDepth : Int} {source : String} {tree : Node}
    (h : ofSource maxDepth source = .ok tree) :
    ∃ forms ts, tree = program forms ∧ SourceForms forms ∧ tokenize source = .ok ts ∧
      ofTokens maxDepth ts = .ok tree := by
  unfold ofSource at h
  cases htokens : tokenize source with
  | error f => simp [htokens] at h
  | ok ts =>
      have hread : ofTokens maxDepth ts = .ok tree := by
        rw [htokens] at h
        cases hread : ofTokens maxDepth ts <;> simp_all [Except.mapError]
      obtain ⟨forms, rfl, hforms⟩ := (layout_of_ofTokens htokens hread).1.exists_forms
      exact ⟨forms, ts, rfl, hforms, rfl, hread⟩

section Append

variable {maxDepth : Int} {a b : String} {forms : List Node}

theorem ofSource_append_of_ok (ha : ofSource maxDepth a = .ok (program forms)) {more : List Node}
    (hb : ofSource maxDepth b = .ok (program more)) :
    ofSource maxDepth (a ++ b) = .ok (program (forms ++ more)) := by
  obtain ⟨-, ts, -, -, hts, hreadA⟩ := ofSource_eq_ok ha
  obtain ⟨-, us, -, -, hus, hreadB⟩ := ofSource_eq_ok hb
  obtain ⟨more', hmore, hsame⟩ := ofTokens_eq_ok_iff.1 hreadB
  obtain rfl : more' = more := by simpa using hsame
  have htokens : tokenize (a ++ b) = .ok (ts ++ us) := by
    rw [tokenize_append hts, hus]
    rfl
  rw [ofSource, htokens]
  dsimp only
  rw [ofTokens_append hreadA, hmore]
  rfl

theorem ofSource_append_of_error (ha : ofSource maxDepth a = .ok (program forms)) {fault : Fault}
    (hb : ofSource maxDepth b = .error fault) :
    ofSource maxDepth (a ++ b) = .error (fault.shift a.length) := by
  obtain ⟨-, ts, -, -, hts, hreadA⟩ := ofSource_eq_ok ha
  rw [ofSource, tokenize_append hts]
  rw [ofSource] at hb
  cases hus : tokenize b with
  | error f =>
      obtain rfl : Fault.scan f = fault := by simpa [hus] using hb
      rfl
  | ok us =>
      cases hreadB : ofTokens maxDepth us with
      | ok tree => simp [hus, hreadB, Except.mapError] at hb
      | error f =>
          obtain rfl : Fault.read f = fault := by simpa [hus, hreadB, Except.mapError] using hb
          obtain ⟨g, hg, hreported⟩ := ofTokens_eq_error_iff.1 hreadB
          change (ofTokens maxDepth (ts ++ us)).mapError Fault.read = .error (.read f)
          rw [ofTokens_append hreadA, hg, Except.mapError, hreported]
          rfl

end Append

end Node

/-! ## Lines one after another -/

/-- The lines of a listing between its header and its footer. -/
def Style.bodyLines (style : Style) (listing : String) : List String :=
  ((Text.lines listing).rdrop style.footerLines.length).drop style.headerLines.length

theorem Style.bodyLines_postorder {style : Style}
    (hindent : '\n' ∉ style.profile.indent.toList) {forms : List Node}
    (hforms : Node.SourceForms forms) :
    style.bodyLines (Text.endLines ((Node.program forms).postorder style)) =
      Node.postorderAll style forms := by
  rw [bodyLines, Text.lines_endLines (Node.newline_not_mem_postorder hindent hforms),
    Node.postorder, List.rdrop, List.length_append, Nat.add_sub_cancel, List.take_left,
    List.drop_left]

theorem Profile.ofName_eq (target : String) :
    ofName target = if target = "bare" then bare else zee := by
  by_cases hbare : target = "bare"
  · rw [hbare]
    rfl
  by_cases hzee : target = "zee"
  · rw [hzee]
    rfl
  · have hunknown : find? target = none := by
      simp [find?, all, zee, bare, Ne.symm hzee, Ne.symm hbare]
    rw [ofName, hunknown, if_neg hbare]
    rfl

theorem Profile.newline_not_mem_indent (target : String) :
    '\n' ∉ (ofName target).indent.toList := by
  rw [ofName_eq]
  split <;> decide

theorem compile_eq_ok_iff_forms {options : CompileOptions} {source listing : String} :
    compile options source = .ok listing ↔
      ∃ forms, Node.ofSource options.maxDepth source = .ok (.program forms) ∧
        Node.SourceForms forms ∧
        listing = Text.endLines ((Node.program forms).postorder options.style) := by
  rw [compile_eq_ofSource]
  constructor
  · intro h
    cases htree : Node.ofSource options.maxDepth source with
    | error fault => simp [htree, Except.map] at h
    | ok tree =>
        obtain ⟨forms, ts, rfl, hforms, -⟩ := Node.ofSource_eq_ok htree
        refine ⟨forms, rfl, hforms, ?_⟩
        simpa [htree, Except.map, eq_comm] using h
  · rintro ⟨forms, htree, -, rfl⟩
    rw [htree]
    rfl

theorem compile_eq_error_iff_ofSource {options : CompileOptions} {source : String}
    {fault : Fault} :
    compile options source = .error fault ↔
      Node.ofSource options.maxDepth source = .error fault := by
  rw [compile_eq_ofSource]
  cases Node.ofSource options.maxDepth source <;> simp [Except.map]

section Append

variable {options : CompileOptions} {a b listing : String}

theorem compile_append_of_ok (hindent : '\n' ∉ options.style.profile.indent.toList)
    (ha : compile options a = .ok listing) {listing' : String}
    (hb : compile options b = .ok listing') :
    compile options (a ++ b) = .ok (Text.endLines
      (options.style.headerLines ++ options.style.bodyLines listing ++
        options.style.bodyLines listing' ++ options.style.footerLines)) := by
  obtain ⟨forms, hforms, hsource, rfl⟩ := compile_eq_ok_iff_forms.1 ha
  obtain ⟨more, hmore, hsource', rfl⟩ := compile_eq_ok_iff_forms.1 hb
  rw [compile_eq_ofSource, Node.ofSource_append_of_ok hforms hmore,
    Style.bodyLines_postorder hindent hsource, Style.bodyLines_postorder hindent hsource']
  simp [Except.map, Node.postorder, Node.postorderAll_append]

theorem compile_append_of_error (ha : compile options a = .ok listing) {fault : Fault}
    (hb : compile options b = .error fault) :
    compile options (a ++ b) = .error (fault.shift a.length) := by
  obtain ⟨forms, hforms, -, -⟩ := compile_eq_ok_iff_forms.1 ha
  exact compile_eq_error_iff_ofSource.2
    (Node.ofSource_append_of_error hforms (compile_eq_error_iff_ofSource.1 hb))

end Append

/-- Compiling is compositional. After a source that compiles, another one compiles exactly if it
does alone. The body of its listing then follows the body of the first listing. If it fails, it
fails with the same fault, and a place in the source lies further on by the length of the first. -/
theorem compile_concatenation (target : String) (keepBlankLines : Bool) (maxDepth : Int)
    (a b listing : String) :
    let options := CompileOptions.ofTarget target keepBlankLines maxDepth
    compile options a = .ok listing →
    ((∃ joined, compile options (a ++ b) = .ok joined) ↔
      ∃ listing', compile options b = .ok listing') ∧
    (∀ listing', compile options b = .ok listing' →
      compile options (a ++ b) = .ok (Text.endLines
        (options.style.headerLines ++ options.style.bodyLines listing ++
          options.style.bodyLines listing' ++ options.style.footerLines))) ∧
    ∀ fault, compile options b = .error fault →
      compile options (a ++ b) = .error (fault.shift a.length) := by
  intro options ha
  have hindent : '\n' ∉ options.style.profile.indent.toList :=
    Profile.newline_not_mem_indent target
  refine ⟨?_, fun _ => compile_append_of_ok hindent ha, fun _ => compile_append_of_error ha⟩
  cases hb : compile options b with
  | ok listing' => exact iff_of_true ⟨_, compile_append_of_ok hindent ha hb⟩ ⟨listing', rfl⟩
  | error fault =>
      have hjoined := compile_append_of_error ha hb
      simp [hjoined]

theorem compile_concatenation_adjacent :
    let options := CompileOptions.ofTarget "bare" true 1
    compile options "(f 1)2 " = .ok "START\n\n\nPUSH #1\nF\n\nPUSH #2\nHALT\n" ∧
      compile options ("(f 1)2 " ++ "3\"x\"") =
        .ok "START\n\n\nPUSH #1\nF\n\nPUSH #2\n\nPUSH #3\n\n\nHALT\n" ∧
      compile options ("(f 1)2 " ++ "(g (h))") =
        .error (.read (.nestingTooDeep (some .lparen))) ∧
      compile options ("(f 1)2 " ++ "3 $") = .error (.scan ⟨.illegalCharacter '$', 9⟩) := by
  intro options
  have ha : compile options "(f 1)2 " =
      .ok "START\n\n\nPUSH #1\nF\n\nPUSH #2\nHALT\n" := by decide +kernel
  have hok := (compile_concatenation "bare" true 1 "(f 1)2 " "3\"x\"" _ ha).2.1
    "START\n\nPUSH #3\n\n\nHALT\n" (by decide +kernel)
  have hdeep := (compile_concatenation "bare" true 1 "(f 1)2 " "(g (h))" _ ha).2.2
    (.read (.nestingTooDeep (some .lparen))) (by decide +kernel)
  have hillegal := (compile_concatenation "bare" true 1 "(f 1)2 " "3 $" _ ha).2.2
    (.scan ⟨.illegalCharacter '$', 2⟩) (by decide +kernel)
  refine ⟨ha, hok.trans ?_, hdeep, hillegal⟩
  decide +kernel

end SexprAsm
