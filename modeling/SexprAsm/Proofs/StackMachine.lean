import SexprAsm.Proofs.ListingShape

/-!
# Running listings on a stack machine

A stack machine that reads a listing line by line. What its mnemonics do is left open: each takes a
number of operands off the stack and pushes a value computed from them. For any such machine, the
listing of a source that uses its mnemonics with the right number of operands runs to its end and
leaves the values of the top-level forms on the stack.
-/

namespace SexprAsm

/-- What numerals and mnemonics mean. -/
structure Machine (V : Type) where
  numeral : Nat → V
  arity : String → Nat
  /-- The value of a mnemonic, given as many operands as its arity, the first argument first. -/
  apply : String → List V → V

namespace Machine

inductive Order where
  | skip
  | start
  | halt
  | push (n : Nat)
  | apply (mnemonic : String)
  deriving DecidableEq

def pushed? (text : List Char) : Option Nat :=
  match text.dropPrefix? "PUSH #".toList with
  | none => none
  | some digits =>
    if digits ≠ [] ∧ digits.all Char.isDigit then some (Nat.ofDigitChars 10 digits 0) else none

/-- Reads a line. Indentation counts for nothing, and neither do blank lines and comments. -/
def decode (line : List Char) : Order :=
  let text := line.dropWhile Text.isBlank
  if text = [] then .skip
  else if ";;".toList.isPrefixOf text then .skip
  else if text = "START".toList then .start
  else if text = "HALT".toList then .halt
  else match pushed? text with
    | some n => .push n
    | none => .apply (String.ofList text)

/-- The machine before, while and after it runs. Stacks are given from the top. -/
inductive State (V : Type) where
  | ready
  | running (stack : List V)
  | halted (stack : List V)
  | underflow (mnemonic : String)

variable {V : Type} (m : Machine V)

def step : State V → Order → State V
  | .ready, .start => .running []
  | .running stack, .push n => .running (m.numeral n :: stack)
  | .running stack, .apply name =>
    if m.arity name ≤ stack.length then
      .running (m.apply name (stack.take (m.arity name)).reverse :: stack.drop (m.arity name))
    else .underflow name
  | .running stack, .halt => .halted stack
  | s, _ => s

def exec (s : State V) (lines : List (List Char)) : State V :=
  lines.foldl (fun s line => m.step s (decode line)) s

def run (listing : String) : State V :=
  m.exec .ready (listing.toList.splitOn '\n')

/-! ## Reading lines -/

theorem decode_indented {indent : List Char} (h : Token.AllBlank indent) (text : List Char) :
    decode (indent ++ text) = decode text := by
  unfold decode
  rw [List.dropWhile_append_of_pos h]

theorem decode_comment (text : List Char) : decode (';' :: ';' :: text) = .skip := by
  have hblank : Text.isBlank ';' = false := by decide
  simp [decode, hblank]

theorem pushed?_push {digits : List Char} (hne : digits ≠ [])
    (hdigits : ∀ c ∈ digits, c.isDigit = true) :
    pushed? ("PUSH #".toList ++ digits) = some (Nat.ofDigitChars 10 digits 0) := by
  have hdrop : ("PUSH #".toList ++ digits).dropPrefix? "PUSH #".toList = some digits :=
    List.dropPrefix?_eq_some_iff.2 ⟨_, rfl, by simp⟩
  rw [pushed?, hdrop]
  exact if_pos ⟨hne, List.all_eq_true.2 hdigits⟩

theorem decode_push {digits : List Char} (hne : digits ≠ [])
    (hdigits : ∀ c ∈ digits, c.isDigit = true) :
    decode ("PUSH #".toList ++ digits) = .push (Nat.ofDigitChars 10 digits 0) := by
  have hpushed := pushed?_push hne hdigits
  have hchars : "PUSH #".toList ++ digits = 'P' :: 'U' :: 'S' :: 'H' :: ' ' :: '#' :: digits := rfl
  have hblank : Text.isBlank 'P' = false := by decide
  rw [hchars] at hpushed ⊢
  simp [decode, hblank, hpushed]

theorem pushed?_mnemonic {name : List Char} (hupper : ∀ c ∈ name, c.isUpper = true) :
    pushed? name = none := by
  have hdrop : name.dropPrefix? "PUSH #".toList = none := by
    rw [Option.eq_none_iff_forall_ne_some]
    intro digits h
    obtain ⟨start, rfl, hstart⟩ := List.dropPrefix?_eq_some_iff.1 h
    obtain rfl : start = "PUSH #".toList := by simpa using hstart
    have hsign := hupper '#' (by simp)
    revert hsign
    decide
  rw [pushed?, hdrop]

theorem decode_mnemonic {name : List Char} (hne : name ≠ [])
    (hupper : ∀ c ∈ name, c.isUpper = true) (hstart : name ≠ "START".toList)
    (hhalt : name ≠ "HALT".toList) : decode name = .apply (String.ofList name) := by
  have hpushed := pushed?_mnemonic hupper
  cases name with
  | nil => contradiction
  | cons c cs =>
      have hc : c.isUpper = true := hupper c (by simp)
      have hblank : Text.isBlank c = false :=
        Text.not_isBlank_of_isAlpha (Text.isAlpha_of_isUpper hc)
      have hcomment : c ≠ ';' := ne_of_apply_ne Char.isUpper (by rw [hc]; decide)
      unfold decode
      rw [List.dropWhile_cons_of_neg (by simp [hblank])]
      dsimp only
      rw [if_neg hne, if_neg (by simp [Ne.symm hcomment]), if_neg hstart, if_neg hhalt, hpushed]

end Machine

/-! ## The values of trees -/

namespace Node

def isString : Node → Bool
  | string _ => true
  | _ => false

variable {V : Type} (m : Machine V)

mutual

/-- The value of a form, and the values of all forms of a program. Strings have none. -/
def values : Node → List V
  | program forms => valuesAll forms
  | call op args => [m.apply (Text.uppercase op.text) (valuesAll args)]
  | number digits => [m.numeral (Nat.ofDigitChars 10 digits.toList 0)]
  | string _ => []
  | other => []

def valuesAll : List Node → List V
  | [] => []
  | n :: ns => values n ++ valuesAll ns

end

theorem length_values {n : Node} (h : n.SourceForm) :
    (n.values m).length = if n.isString then 0 else 1 := by
  cases n with
  | program _ => exact h.elim
  | other => exact h.elim
  | call op args => rfl
  | number digits => rfl
  | string text => rfl

theorem length_valuesAll {ns : List Node} (h : SourceForms ns) :
    (valuesAll m ns).length = (ns.filter (!·.isString)).length := by
  induction ns with
  | nil => rfl
  | cons n ns ih =>
      rw [valuesAll, List.length_append, length_values m h.1, ih h.2]
      cases hstring : n.isString <;> simp [hstring, Nat.add_comm]

end Node

namespace Machine

variable {V : Type} (m : Machine V)

/-- The machine can carry out a call: its mnemonic is not one of the two that frame a listing, and
it has as many arguments with a value as the mnemonic takes. -/
structure Serves (op : Operator) (args : List Node) : Prop where
  not_start : Text.uppercase op.text ≠ "START"
  not_halt : Text.uppercase op.text ≠ "HALT"
  arity : (args.filter (!·.isString)).length = m.arity (Text.uppercase op.text)

/-! ## Running line by line -/

@[simp] theorem step_skip (s : State V) : m.step s .skip = s := by
  cases s <;> rfl

theorem exec_append (s : State V) (xs ys : List (List Char)) :
    m.exec s (xs ++ ys) = m.exec (m.exec s xs) ys :=
  List.foldl_append

def execLines (s : State V) (lines : List String) : State V :=
  m.exec s (lines.map String.toList)

theorem execLines_append (s : State V) (xs ys : List String) :
    m.execLines s (xs ++ ys) = m.execLines (m.execLines s xs) ys := by
  rw [execLines, List.map_append, exec_append]
  rfl

theorem execLines_gapLines (style : Style) (s : State V) :
    m.execLines s style.gapLines = s := by
  unfold Style.gapLines
  split
  · exact m.step_skip s
  · rfl

theorem execLines_remarkLines (style : Style) (text : String) (s : State V) :
    m.execLines s (style.remarkLines text) = s := by
  unfold Style.remarkLines
  split
  · simp [execLines, exec, decode_comment]
  · rfl

theorem execLines_indented {style : Style} (hindent : Token.AllBlank style.profile.indent.toList)
    (text : String) (s : State V) :
    m.execLines s [style.indented text] = m.step s (decode text.toList) := by
  simp [execLines, exec, Style.indented, decode_indented hindent]

theorem step_apply {name : String} {operands : List V} (harity : operands.length = m.arity name)
    (stack : List V) :
    m.step (.running (operands.reverse ++ stack)) (.apply name) =
      .running (m.apply name operands :: stack) := by
  have hlength : operands.reverse.length = m.arity name := by simpa using harity
  simp [step, ← hlength]

theorem decode_uppercase {op : Operator} {args : List Node}
    (hletters : ∀ c ∈ op.text.toList, c.isAlpha = true) (h : m.Serves op args) :
    decode (Text.uppercase op.text).toList = .apply (Text.uppercase op.text) := by
  have hne : (Text.uppercase op.text).toList ≠ [] := fun hempty =>
    Text.uppercase_ne_empty_of_ne op.ne_empty (String.toList_eq_nil_iff.1 hempty)
  rw [decode_mnemonic hne (fun _ => Text.isUpper_of_mem_uppercase hletters)
    (fun hstart => h.not_start (String.toList_inj.1 hstart))
    (fun hhalt => h.not_halt (String.toList_inj.1 hhalt)), String.ofList_toList]

mutual

theorem execLines_postorder {style : Style}
    (hindent : Token.AllBlank style.profile.indent.toList) :
    ∀ (n : Node) (stack : List V), n.SourceForm → (∀ c ∈ n.calls, m.Serves c.1 c.2) →
      m.execLines (.running stack) (n.postorder style) =
        .running ((n.values m).reverse ++ stack)
  | .program _, _, h, _ => h.elim
  | .other, _, h, _ => h.elim
  | .string _, stack, _, _ => by
      rw [Node.postorder, execLines_append, execLines_gapLines, execLines_gapLines]
      rfl
  | .number digits, stack, h, _ => by
      have hne : digits.toList ≠ [] := fun hempty => h.1 (String.toList_eq_nil_iff.1 hempty)
      rw [Node.postorder, execLines_append, execLines_gapLines, execLines_indented m hindent,
        String.toList_append, decode_push hne h.2]
      rfl
  | .call op args, stack, h, hserves => by
      have hop : m.Serves op args := hserves (op, args) (by simp [Node.calls])
      -- the arguments leave their values on top, the last one uppermost
      have hargs := execLines_postorderAll hindent args stack h.2
        fun c hc => hserves c (by simp [Node.calls, hc])
      have harity : (Node.valuesAll m args).length = m.arity (Text.uppercase op.text) := by
        rw [Node.length_valuesAll m h.2, hop.arity]
      rw [Node.postorder, execLines_append, execLines_append, execLines_gapLines, hargs,
        execLines_indented m hindent, decode_uppercase m h.1 hop, step_apply m harity]
      rfl

theorem execLines_postorderAll {style : Style}
    (hindent : Token.AllBlank style.profile.indent.toList) :
    ∀ (ns : List Node) (stack : List V), Node.SourceForms ns →
      (∀ c ∈ Node.callsAll ns, m.Serves c.1 c.2) →
      m.execLines (.running stack) (Node.postorderAll style ns) =
        .running ((Node.valuesAll m ns).reverse ++ stack)
  | [], _, _, _ => rfl
  | n :: ns, stack, h, hserves => by
      have hn := execLines_postorder hindent n stack h.1
        fun c hc => hserves c (by simp [Node.callsAll, hc])
      rw [Node.postorderAll, execLines_append, hn,
        execLines_postorderAll hindent ns _ h.2 fun c hc => hserves c (by simp [Node.callsAll, hc])]
      simp [Node.valuesAll]

end

theorem execLines_program {style : Style}
    (hindent : Token.AllBlank style.profile.indent.toList) {forms : List Node}
    (hforms : Node.SourceForms forms) (hserves : ∀ c ∈ Node.callsAll forms, m.Serves c.1 c.2) :
    m.execLines .ready ((Node.program forms).postorder style) =
      .halted (Node.valuesAll m forms).reverse := by
  have hstart : m.execLines .ready style.headerLines = .running [] := by
    rw [Style.headerLines, execLines_append, execLines_remarkLines, execLines_indented m hindent]
    rfl
  have hbody := m.execLines_postorderAll hindent forms [] hforms hserves
  rw [Node.postorder, execLines_append, execLines_append, hstart, hbody, Style.footerLines,
    execLines_append, execLines_remarkLines, execLines_indented m hindent, List.append_nil]
  rfl

theorem run_endLines {lines : List String} (h : ∀ line ∈ lines, '\n' ∉ line.toList) :
    m.run (Text.endLines lines) = m.execLines .ready lines := by
  rw [run, Text.splitOn_endLines h, exec_append]
  exact m.step_skip _

theorem exec_underflow (name : String) (lines : List (List Char)) :
    m.exec (.underflow name) lines = .underflow name := by
  induction lines with
  | nil => rfl
  | cons line lines ih =>
      have hstep : m.step (.underflow name) (decode line) = .underflow name := by
        cases decode line <;> rfl
      rw [exec, List.foldl_cons, hstep]
      exact ih

theorem exec_take_ne_underflow {s : State V} {lines : List (List Char)} {stack : List V}
    (h : m.exec s lines = .halted stack) (k : Nat) (name : String) :
    m.exec s (lines.take k) ≠ .underflow name := by
  intro hunder
  rw [← List.take_append_drop k lines, exec_append, hunder, exec_underflow] at h
  contradiction

end Machine

/-! ## Compiled sources compute their values -/

theorem Profile.allBlank_indent {p : Profile} (h : p ∈ Profile.all) :
    Token.AllBlank p.indent.toList ∧ '\n' ∉ p.indent.toList := by
  obtain rfl | rfl : p = .zee ∨ p = .bare := by simpa [Profile.all] using h
  · simp [Token.AllBlank, Profile.zee]
    decide
  · simp [Token.AllBlank, Profile.bare]

theorem compile_tree {options : CompileOptions} {source listing : String} {tree : Node}
    (hlisting : compile options source = .ok listing)
    (htree : (Compilation.run options source).tree = some tree) :
    tree.WellFormed ∧ listing = Text.endLines (tree.postorder options.style) := by
  obtain ⟨ts, htokens, hread⟩ := tree_eq_some_iff.1 htree
  obtain ⟨ts', htokens', hassemble⟩ := compile_eq_ok_iff.1 hlisting
  obtain rfl : ts = ts' := by simpa [htokens] using htokens'
  obtain ⟨tree', hread', hlines⟩ := assemble_eq_ok_iff.1 hassemble
  obtain rfl : tree = tree' := by simpa [hread] using hread'
  exact ⟨(layout_of_ofTokens htokens hread).1, hlines⟩

/-- The listing of a compiled source computes the source: on every machine that serves its calls,
under every profile and with or without blank lines, the run ends with the values of the top-level
forms on the stack, the last on top, and never takes an operand that is not there. -/
theorem run_compiled {V : Type} (m : Machine V) (options : CompileOptions)
    (source listing : String) (tree : Node) (hprofile : options.style.profile ∈ Profile.all)
    (hlisting : compile options source = .ok listing)
    (htree : (Compilation.run options source).tree = some tree)
    (hserves : ∀ c ∈ tree.calls, m.Serves c.1 c.2) :
    m.run listing = .halted (tree.values m).reverse ∧
      ∀ k name, m.exec .ready ((listing.toList.splitOn '\n').take k) ≠ .underflow name := by
  obtain ⟨hroot, rfl⟩ := compile_tree hlisting htree
  obtain ⟨hindent, hnewline⟩ := Profile.allBlank_indent hprofile
  obtain ⟨forms, rfl, hforms⟩ := hroot.exists_forms
  have hlines := Node.newline_not_mem_postorder hnewline hforms
  have hrun : m.run (Text.endLines ((Node.program forms).postorder options.style)) =
      .halted (Node.valuesAll m forms).reverse := by
    rw [m.run_endLines hlines, m.execLines_program hindent hforms hserves]
  exact ⟨hrun, m.exec_take_ne_underflow hrun⟩

/-- A machine on integers that can subtract and change the sign. -/
def Machine.integers : Machine Int where
  numeral n := n
  arity name := if name = "NEGATE" then 1 else 2
  apply _ operands :=
    match operands with
    | [a] => -a
    | [a, b] => a - b
    | _ => 0

/-- The tree of `(subtract 10 "ten" (Negate 3)) 7`. -/
def Node.subtraction : Node :=
  .program
    [.call ⟨"subtract", by decide⟩
      [.number "10", .string "ten", .call ⟨"Negate", by decide⟩ [.number "3"]],
      .number "7"]

theorem run_compiled_subtraction :
    Node.subtraction.values Machine.integers = [13, 7] ∧
      Machine.integers.run (Text.endLines
          [";; Begin program code", "\t\tSTART", "", "", "\t\tPUSH #10", "", "", "", "",
            "\t\tPUSH #3", "\t\tNEGATE", "\t\tSUBTRACT", "", "\t\tPUSH #7",
            ";; exit program", "\t\tHALT"]) =
        .halted (Node.subtraction.values Machine.integers).reverse := by
  refine ⟨by decide +kernel, (run_compiled Machine.integers { style := { keepBlankLines := true } }
    "(subtract 10\"ten\"\n(Negate 3))7 " _ Node.subtraction (by decide) (by decide +kernel)
    (by decide +kernel) ?_).1⟩
  intro c hc
  obtain rfl | rfl : c = (⟨"subtract", by decide⟩,
      [.number "10", .string "ten", .call ⟨"Negate", by decide⟩ [.number "3"]]) ∨
      c = (⟨"Negate", by decide⟩, [.number "3"]) := by
    simpa [Node.subtraction, Node.calls, Node.callsAll] using hc
  · exact ⟨by decide +kernel, by decide +kernel, by decide +kernel⟩
  · exact ⟨by decide +kernel, by decide +kernel, by decide +kernel⟩

end SexprAsm
