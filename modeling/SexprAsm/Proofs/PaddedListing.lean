import SexprAsm.Proofs.Concatenation
import SexprAsm.Proofs.IgnoredTexts

/-!
# Padded listings

In a listing that keeps its blank lines, a call or a number begins with a blank line and ends with a
line that is not blank, and the lines of its arguments stand between the two. So blank lines are
opening brackets and the other lines closing ones, and the lines of a source without strings can be
read back in one way only. All that is lost is the case of the operators.
-/

namespace SexprAsm

namespace Node

mutual

/-- Whether two trees are equal but for the case of the letters in their operators. -/
def EqUpToCase : Node → Node → Prop
  | program fs, program gs => EqUpToCaseAll fs gs
  | call op xs, call op' ys => op.text.toUpper = op'.text.toUpper ∧ EqUpToCaseAll xs ys
  | number s, number t => s = t
  | string s, string t => s = t
  | other, other => True
  | _, _ => False

def EqUpToCaseAll : List Node → List Node → Prop
  | [], [] => True
  | x :: xs, y :: ys => EqUpToCase x y ∧ EqUpToCaseAll xs ys
  | _, _ => False

end

/-! ## Case makes no difference -/

mutual

theorem EqUpToCase.postorder_eq (style : Style) :
    ∀ {n m : Node}, n.EqUpToCase m → n.postorder style = m.postorder style
  | program fs, m, h => by
      cases m with
      | program gs => rw [postorder, postorder, EqUpToCaseAll.postorderAll_eq style h]
      | _ => exact h.elim
  | call op xs, m, h => by
      cases m with
      | call op' ys =>
          have hname : Text.uppercase op.text = Text.uppercase op'.text := by
            rw [← Text.uppercase_toUpper, h.1, Text.uppercase_toUpper]
          rw [postorder, postorder, EqUpToCaseAll.postorderAll_eq style h.2, hname]
      | _ => exact h.elim
  | number s, m, h => by
      cases m with
      | number t => rw [show s = t from h]
      | _ => exact h.elim
  | string s, m, h => by
      cases m with
      | string t => rfl
      | _ => exact h.elim
  | other, m, h => by
      cases m with
      | other => rfl
      | _ => exact h.elim

theorem EqUpToCaseAll.postorderAll_eq (style : Style) :
    ∀ {ns ms : List Node}, EqUpToCaseAll ns ms → postorderAll style ns = postorderAll style ms
  | [], ms, h => by
      cases ms with
      | nil => rfl
      | cons _ _ => exact h.elim
  | n :: ns, ms, h => by
      cases ms with
      | nil => exact h.elim
      | cons m ms =>
          rw [postorderAll, postorderAll, EqUpToCase.postorder_eq style h.1,
            EqUpToCaseAll.postorderAll_eq style h.2]

end

/-! ## Forms without strings -/

/-- A form with the texts that a source can give it, and without strings. -/
def Plain (n : Node) : Prop :=
  n.SourceForm ∧ ∀ t ∈ n.flatten, t.kind ≠ .string

def PlainAll (ns : List Node) : Prop :=
  SourceForms ns ∧ ∀ t ∈ flattenAll ns, t.kind ≠ .string

theorem plainAll_nil : PlainAll [] :=
  ⟨trivial, by simp [flattenAll]⟩

theorem plainAll_cons {n : Node} {ns : List Node} :
    PlainAll (n :: ns) ↔ n.Plain ∧ PlainAll ns := by
  simp only [PlainAll, Plain, SourceForms, flattenAll, List.mem_append, or_imp, forall_and]
  tauto

theorem Plain.call_or_number {n : Node} (h : n.Plain) :
    (∃ op args, n = call op args) ∨ ∃ digits, n = number digits := by
  cases n with
  | program _ => exact h.1.elim
  | other => exact h.1.elim
  | string text => exact absurd rfl (h.2 ⟨.string, text⟩ (by simp [flatten]))
  | call op args => exact .inl ⟨op, args, rfl⟩
  | number digits => exact .inr ⟨digits, rfl⟩

theorem plain_call {op : Operator} {args : List Node} (h : (call op args).Plain) :
    (∀ c ∈ op.text.toList, c.isAlpha = true) ∧ PlainAll args := by
  refine ⟨h.1.1, h.1.2, fun t ht => h.2 t ?_⟩
  simp [flatten, ht]

theorem Plain.plainAll_children {n : Node} (h : n.Plain) : PlainAll n.children := by
  obtain ⟨op, args, rfl⟩ | ⟨digits, rfl⟩ := h.call_or_number
  · exact (plain_call h).2
  · exact plainAll_nil

/-! ## The brackets of a form -/

def lastLine (style : Style) : Node → String
  | call op _ => style.indented (Text.uppercase op.text)
  | number digits => style.indented ("PUSH #" ++ digits)
  | _ => ""

theorem Plain.postorder_eq {style : Style} (hkeep : style.keepBlankLines = true) {n : Node}
    (h : n.Plain) :
    n.postorder style = "" :: (postorderAll style n.children ++ [n.lastLine style]) := by
  have hgap : style.gapLines = [""] := by simp [Style.gapLines, hkeep]
  obtain ⟨op, args, rfl⟩ | ⟨digits, rfl⟩ := h.call_or_number
  · rw [postorder, hgap]
    rfl
  · rw [postorder, hgap]
    rfl

theorem Plain.lastLine_ne_empty (style : Style) {n : Node} (h : n.Plain) :
    n.lastLine style ≠ "" := by
  obtain ⟨op, args, rfl⟩ | ⟨digits, rfl⟩ := h.call_or_number
  · have hname := Text.uppercase_ne_empty_of_ne op.ne_empty
    simp [lastLine, Style.indented, hname]
  · simp [lastLine, Style.indented]

theorem indented_inj {style : Style} {text text' : String}
    (h : style.indented text = style.indented text') : text = text' := by
  rw [← String.toList_inj] at h ⊢
  simpa [Style.indented] using h

theorem toUpper_eq_of_uppercase_eq {s t : String} (hs : ∀ c ∈ s.toList, c.isAlpha = true)
    (ht : ∀ c ∈ t.toList, c.isAlpha = true) (h : Text.uppercase s = Text.uppercase t) :
    s.toUpper = t.toUpper := by
  rw [← String.toList_inj] at h ⊢
  rw [String.toUpper, String.toUpper, String.toList_map, String.toList_map,
    ← Text.toList_uppercase hs, ← Text.toList_uppercase ht, h]

theorem uppercase_ne_push {op : Operator} (h : ∀ c ∈ op.text.toList, c.isAlpha = true)
    (digits : String) : Text.uppercase op.text ≠ "PUSH #" ++ digits := by
  intro heq
  have hsign : '#' ∈ (Text.uppercase op.text).toList := by simp [heq]
  exact absurd (Text.isUpper_of_mem_uppercase h hsign) (by decide)

theorem Plain.eqUpToCase_of_lastLine {style : Style} {n m : Node} (hn : n.Plain) (hm : m.Plain)
    (hchildren : EqUpToCaseAll n.children m.children)
    (hlast : n.lastLine style = m.lastLine style) : n.EqUpToCase m := by
  obtain ⟨op, args, rfl⟩ | ⟨digits, rfl⟩ := hn.call_or_number <;>
    obtain ⟨op', args', rfl⟩ | ⟨digits', rfl⟩ := hm.call_or_number
  · refine ⟨?_, hchildren⟩
    exact toUpper_eq_of_uppercase_eq (plain_call hn).1 (plain_call hm).1 (indented_inj hlast)
  · exact absurd (indented_inj hlast) (uppercase_ne_push (plain_call hn).1 digits')
  · exact absurd (indented_inj hlast).symm (uppercase_ne_push (plain_call hm).1 digits)
  · have htext : "PUSH #" ++ digits = "PUSH #" ++ digits' := indented_inj hlast
    rw [← String.toList_inj] at htext
    exact String.toList_inj.1 (by simpa using htext)

/-! ## Reading the lines back -/

/-- Where these lines follow, no further form does. -/
def NoForm (rest : List String) : Prop :=
  rest.head? ≠ some ""

theorem Plain.noForm_lastLine (style : Style) {n : Node} (h : n.Plain) (rest : List String) :
    NoForm (n.lastLine style :: rest) := by
  simpa [NoForm] using h.lastLine_ne_empty style

/-- Forms and what follows them can be told from their lines, up to case. -/
def ReadsBackFrom (style : Style) (ns : List Node) : Prop :=
  ∀ (ms : List Node) (rest rest' : List String), PlainAll ms → NoForm rest → NoForm rest' →
    postorderAll style ns ++ rest = postorderAll style ms ++ rest' →
      EqUpToCaseAll ns ms ∧ rest = rest'

section Brackets

variable {style : Style} (hkeep : style.keepBlankLines = true)

include hkeep

theorem Plain.append_inj {n m : Node} (hn : n.Plain) (hm : m.Plain)
    (hchildren : ReadsBackFrom style n.children) {rest rest' : List String}
    (h : n.postorder style ++ rest = m.postorder style ++ rest') :
    n.EqUpToCase m ∧ rest = rest' := by
  rw [hn.postorder_eq hkeep, hm.postorder_eq hkeep] at h
  have hinner : postorderAll style n.children ++ n.lastLine style :: rest =
      postorderAll style m.children ++ m.lastLine style :: rest' := by
    simpa using h
  obtain ⟨hsame, hends⟩ := hchildren _ _ _ hm.plainAll_children (hn.noForm_lastLine style rest)
    (hm.noForm_lastLine style rest') hinner
  obtain ⟨hlast, hrest⟩ := List.cons.inj hends
  exact ⟨hn.eqUpToCase_of_lastLine hm hsame hlast, hrest⟩

theorem Plain.append_ne {n : Node} (hn : n.Plain) {rest : List String} (hrest : NoForm rest)
    (more : List String) : n.postorder style ++ more ≠ rest := by
  rintro rfl
  apply hrest
  -- the lines of a form begin with a blank one
  rw [hn.postorder_eq hkeep]
  rfl

theorem readsBackFrom_nil : ReadsBackFrom style [] := by
  intro ms rest rest' hms hrest _ h
  cases ms with
  | nil => exact ⟨trivial, by simpa [postorderAll] using h⟩
  | cons m ms =>
      rw [postorderAll, List.nil_append, postorderAll, List.append_assoc] at h
      exact absurd h.symm ((plainAll_cons.1 hms).1.append_ne hkeep hrest _)

theorem readsBackFrom_cons {n : Node} {ns : List Node} (hn : n.Plain)
    (hchildren : ReadsBackFrom style n.children) (hns : ReadsBackFrom style ns) :
    ReadsBackFrom style (n :: ns) := by
  intro ms rest rest' hms hrest hrest' h
  rw [postorderAll, List.append_assoc] at h
  cases ms with
  | nil =>
      rw [postorderAll, List.nil_append] at h
      exact absurd h (hn.append_ne hkeep hrest' _)
  | cons m ms =>
      obtain ⟨hm, hms'⟩ := plainAll_cons.1 hms
      rw [postorderAll, List.append_assoc] at h
      obtain ⟨hsame, htails⟩ := hn.append_inj hkeep hm hchildren h
      obtain ⟨hall, hends⟩ := hns ms rest rest' hms' hrest hrest' htails
      exact ⟨⟨hsame, hall⟩, hends⟩

end Brackets

mutual

theorem readsBackFrom_children {style : Style} (hkeep : style.keepBlankLines = true) :
    ∀ n : Node, n.Plain → ReadsBackFrom style n.children
  | call _ args, h => readsBackFrom hkeep args (plain_call h).2
  | number _, _ => readsBackFrom_nil hkeep
  | string _, _ => readsBackFrom_nil hkeep
  | program _, h => h.1.elim
  | other, h => h.1.elim

theorem readsBackFrom {style : Style} (hkeep : style.keepBlankLines = true) :
    ∀ ns : List Node, PlainAll ns → ReadsBackFrom style ns
  | [], _ => readsBackFrom_nil hkeep
  | n :: ns, h =>
      readsBackFrom_cons hkeep (plainAll_cons.1 h).1
        (readsBackFrom_children hkeep n (plainAll_cons.1 h).1)
        (readsBackFrom hkeep ns (plainAll_cons.1 h).2)

end

theorem postorderAll_eq_iff {style : Style} (hkeep : style.keepBlankLines = true)
    {ns ms : List Node} (hns : PlainAll ns) (hms : PlainAll ms) :
    postorderAll style ns = postorderAll style ms ↔ EqUpToCaseAll ns ms := by
  refine ⟨fun h => ?_, EqUpToCaseAll.postorderAll_eq style⟩
  have hends : NoForm [] := by simp [NoForm]
  exact (readsBackFrom hkeep ns hns ms [] [] hms hends hends (by rw [h])).1

end Node

theorem compile_of_ofTokens {options : CompileOptions} {source : String} {ts : List Token}
    {tree : Node} (htokens : tokenize source = .ok ts)
    (htree : Node.ofTokens options.maxDepth ts = .ok tree) :
    compile options source = .ok (Text.endLines (tree.postorder options.style)) := by
  rw [compile_eq, htokens]
  exact assemble_eq_ok_iff.2 ⟨tree, htree, rfl⟩

theorem plainAll_of_ofTokens {maxDepth : Int} {source : String} {ts : List Token} {tree : Node}
    (htokens : tokenize source = .ok ts) (hstrings : ∀ t ∈ ts, t.kind ≠ .string)
    (htree : Node.ofTokens maxDepth ts = .ok tree) :
    ∃ forms, tree = .program forms ∧ Node.PlainAll forms := by
  obtain ⟨forms, rfl, hforms⟩ := (layout_of_ofTokens htokens htree).1.exists_forms
  refine ⟨forms, rfl, hforms, fun t ht => hstrings t ?_⟩
  rwa [← flatten_of_ofTokens htokens htree, Node.flatten]

/-- A listing with its blank lines kept determines the tree. Two sources without strings have the
same padded listing exactly when their programs are equal up to the case of operators. -/
theorem padded_listing_determines_tree (target : String) (maxDepth : Int) (a b : String)
    (ts us : List Token) (tree tree' : Node) (listing listing' : String)
    (hts : tokenize a = .ok ts) (hus : tokenize b = .ok us)
    (hstrings : ∀ t ∈ ts, t.kind ≠ .string) (hstrings' : ∀ t ∈ us, t.kind ≠ .string)
    (htree : Node.ofTokens maxDepth ts = .ok tree)
    (htree' : Node.ofTokens maxDepth us = .ok tree')
    (hlisting : compile (.ofTarget target true maxDepth) a = .ok listing)
    (hlisting' : compile (.ofTarget target true maxDepth) b = .ok listing') :
    listing = listing' ↔ tree.EqUpToCase tree' := by
  obtain rfl := Except.ok.inj ((compile_of_ofTokens hts htree).symm.trans hlisting)
  obtain rfl := Except.ok.inj ((compile_of_ofTokens hus htree').symm.trans hlisting')
  obtain ⟨forms, rfl, hforms⟩ := plainAll_of_ofTokens hts hstrings htree
  obtain ⟨forms', rfl, hforms'⟩ := plainAll_of_ofTokens hus hstrings' htree'
  have hkeep : (CompileOptions.ofTarget target true maxDepth).style.keepBlankLines = true := rfl
  have hindent :
      '\n' ∉ (CompileOptions.ofTarget target true maxDepth).style.profile.indent.toList :=
    Profile.newline_not_mem_indent target
  rw [Node.EqUpToCase, ← Node.postorderAll_eq_iff hkeep hforms hforms']
  constructor
  · intro heq
    have hlines := Text.endLines_inj (Node.newline_not_mem_postorder hindent hforms.1)
      (Node.newline_not_mem_postorder hindent hforms'.1) heq
    rw [Node.postorder, Node.postorder] at hlines
    exact List.append_cancel_left (List.append_cancel_right hlines)
  · intro hbody
    rw [Node.postorder, Node.postorder, hbody]

/-- Two calls and a number, nested in two ways: their listings are the same without blank lines and
differ with them. -/
theorem padded_listing_determines_tree_nesting :
    let plain := CompileOptions.ofTarget "bare" false 9
    let padded := CompileOptions.ofTarget "bare" true 9
    compile plain "(halt(Push 1))" = compile plain "(halt 1(Push))" ∧
      ∃ listing listing', compile padded "(halt(Push 1))" = .ok listing ∧
        compile padded "(halt 1(Push))" = .ok listing' ∧ listing ≠ listing' := by
  intro plain padded
  let halt : Operator := ⟨"halt", by decide⟩
  let push : Operator := ⟨"Push", by decide⟩
  have hnested : compile padded "(halt(Push 1))" =
      .ok "START\n\n\n\nPUSH #1\nPUSH\nHALT\nHALT\n" := by decide +kernel
  have hbeside : compile padded "(halt 1(Push))" =
      .ok "START\n\n\nPUSH #1\n\nPUSH\nHALT\nHALT\n" := by decide +kernel
  refine ⟨by decide +kernel, _, _, hnested, hbeside, fun heq => ?_⟩
  have hsame := (padded_listing_determines_tree "bare" 9 "(halt(Push 1))" "(halt 1(Push))"
    [.lparen, ⟨.ident, "halt"⟩, .lparen, ⟨.ident, "Push"⟩, ⟨.number, "1"⟩, .rparen, .rparen]
    [.lparen, ⟨.ident, "halt"⟩, ⟨.number, "1"⟩, .lparen, ⟨.ident, "Push"⟩, .rparen, .rparen]
    (.program [.call halt [.call push [.number "1"]]])
    (.program [.call halt [.number "1", .call push []]]) _ _ (by decide +kernel)
    (by decide +kernel) (by decide) (by decide) (by decide +kernel) (by decide +kernel) hnested
    hbeside).1 heq
  simp [Node.EqUpToCase, Node.EqUpToCaseAll] at hsame

end SexprAsm
