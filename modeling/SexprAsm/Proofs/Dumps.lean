import SexprAsm.Node.Dump
import SexprAsm.Proofs.Layout
import SexprAsm.Proofs.QuotedText
import SexprAsm.Proofs.TextLines
import SexprAsm.Proofs.Traversal

/-!
# What dumps show

A dump of tokens shows the texts of strings as they are. It is a list of comment lines, from which
the tokens can be read back, as long as no string has a line end in it.

A dump of a tree quotes the texts of strings, so they stay on their lines. It has a comment line for
each node between its head and its foot, and the tree can be read back from it: a line shows how
deep its node stands, its kind and its text, and the depths tell which nodes stand below which.
-/

namespace SexprAsm

/-! ## Heads and feet -/

namespace Text

theorem takeWhile_append_separator {cs ds : List Char} (hcs : ':' ∉ cs)
    (hds : ∀ d ∈ ds.head?, d = ':') : (cs ++ ds).takeWhile (· ≠ ':') = cs := by
  have hall : ∀ c ∈ cs, decide (c ≠ ':') = true := by
    intro c hc
    simpa using ne_of_mem_of_not_mem hc hcs
  rw [List.takeWhile_append_of_pos hall]
  cases ds with
  | nil => simp
  | cons d ds => simp [hds d rfl]

/-- A name can be told from what follows it, which begins with the separator if it is anything. -/
theorem name_append_inj {α : Type} {name : α → String} (hinj : Function.Injective name)
    (hname : ∀ a, ':' ∉ (name a).toList) {a b : α} {cs ds : List Char}
    (hcs : ∀ c ∈ cs.head?, c = ':') (hds : ∀ d ∈ ds.head?, d = ':')
    (h : (name a).toList ++ cs = (name b).toList ++ ds) : a = b ∧ cs = ds := by
  have hsame : (name a).toList = (name b).toList := by
    rw [← takeWhile_append_separator (hname a) hcs, h, takeWhile_append_separator (hname b) hds]
  rw [hsame] at h
  exact ⟨hinj (String.toList_inj.1 hsame), List.append_cancel_left h⟩

def IsRemark (line : String) : Prop :=
  ";; ".toList <+: line.toList

/-- The lines of a dump: a head and a foot with its title, and its body between them. -/
def dumpFrame (title : String) (body : List String) : List String :=
  (";; BEGIN " ++ title ++ " Dump") :: body ++ [";; END " ++ title ++ " Dump"]

theorem forall_mem_dumpFrame {p : String → Prop} {title : String} {body : List String} :
    (∀ line ∈ dumpFrame title body, p line) ↔
      p (";; BEGIN " ++ title ++ " Dump") ∧ (∀ line ∈ body, p line) ∧
        p (";; END " ++ title ++ " Dump") := by
  simp [dumpFrame, or_imp, forall_and]

theorem isRemark_of_mem_dumpFrame {title : String} {body : List String}
    (h : ∀ line ∈ body, IsRemark line) : ∀ line ∈ dumpFrame title body, IsRemark line := by
  refine forall_mem_dumpFrame.2 ⟨?_, h, ?_⟩
  · exact ⟨("BEGIN " ++ title ++ " Dump").toList, by simp⟩
  · exact ⟨("END " ++ title ++ " Dump").toList, by simp⟩

section Body

variable {title : String} (htitle : '\n' ∉ title.toList)

include htitle

theorem splitLines_dumpFrame {body : List String} (h : ∀ line ∈ body, '\n' ∉ line.toList) :
    splitLines (joinLines (dumpFrame title body)) = dumpFrame title body := by
  apply splitLines_joinLines (by simp [dumpFrame])
  refine forall_mem_dumpFrame.2 ⟨?_, h, ?_⟩
  · simpa using htitle
  · simpa using htitle

theorem joinLines_dumpFrame_inj {body body' : List String}
    (h : ∀ line ∈ body, '\n' ∉ line.toList) (h' : ∀ line ∈ body', '\n' ∉ line.toList)
    (heq : joinLines (dumpFrame title body) = joinLines (dumpFrame title body')) :
    body = body' := by
  have hlines : dumpFrame title body = dumpFrame title body' := by
    rw [← splitLines_dumpFrame htitle h, heq, splitLines_dumpFrame htitle h']
  exact List.append_cancel_right (List.cons.inj hlines).2

theorem length_splitLines_dumpFrame (body : List String) :
    (splitLines (joinLines (dumpFrame title body))).length =
      body.length + 2 + (body.map countNewlines).sum := by
  have hhead : countNewlines (";; BEGIN " ++ title ++ " Dump") = 0 :=
    countNewlines_eq_zero_iff.2 (by simpa using htitle)
  have hfoot : countNewlines (";; END " ++ title ++ " Dump") = 0 :=
    countNewlines_eq_zero_iff.2 (by simpa using htitle)
  rw [length_splitLines, countNewlines_joinLines (by simp [dumpFrame])]
  simp [dumpFrame, hhead, hfoot]

end Body

end Text

/-! ## Token dumps -/

namespace Token

def UnbrokenStrings (ts : List Token) : Prop :=
  ∀ t ∈ ts, t.kind = .string → '\n' ∉ t.text.toList

theorem WellFormed.newline_not_mem {t : Token} (h : t.WellFormed) (hkind : t.kind ≠ .string) :
    '\n' ∉ t.text.toList := by
  obtain ⟨kind, text⟩ := t
  cases kind with
  | lparen => simp [show text = "(" from h]
  | rparen => simp [show text = ")" from h]
  | ident => exact fun hmem => absurd (h.2 _ hmem) (by decide)
  | number => exact fun hmem => absurd (h.2 _ hmem) (by decide)
  | string => exact absurd rfl hkind

theorem Kind.name_injective : Function.Injective name := by
  intro kind kind' h
  cases kind <;> cases kind' <;> simp_all [name]

theorem Kind.separator_not_mem_name (kind : Kind) : ':' ∉ kind.name.toList := by
  cases kind <;> decide

theorem toList_dumpLine (t : Token) :
    t.dumpLine.toList = ";; ".toList ++ (t.kind.name.toList ++ ':' :: t.text.toList) := by
  simp [dumpLine]

theorem isRemark_dumpLine (t : Token) : Text.IsRemark t.dumpLine := by
  rw [Text.IsRemark, toList_dumpLine]
  exact List.prefix_append ..

theorem dumpLine_inj {t u : Token} (h : t.dumpLine = u.dumpLine) : t = u := by
  rw [← String.toList_inj, toList_dumpLine, toList_dumpLine, List.append_cancel_left_eq] at h
  obtain ⟨hkind, htail⟩ := Text.name_append_inj Kind.name_injective Kind.separator_not_mem_name
    (by simp) (by simp) h
  have htext : t.text = u.text := String.toList_inj.1 (List.cons.inj htail).2
  cases t
  cases u
  simp_all

theorem countNewlines_dumpLine (t : Token) :
    Text.countNewlines t.dumpLine = Text.countNewlines t.text := by
  obtain ⟨kind, text⟩ := t
  rw [Text.countNewlines, toList_dumpLine]
  cases kind <;> simp [Kind.name, Text.countNewlines]

theorem dump_eq (ts : List Token) :
    dump ts = Text.joinLines (Text.dumpFrame "Token List" (ts.map dumpLine)) := by
  have hhead : ";; BEGIN " ++ "Token List" ++ " Dump" = ";; BEGIN Token List Dump" := by decide
  have hfoot : ";; END " ++ "Token List" ++ " Dump" = ";; END Token List Dump" := by decide
  rw [dump, Text.dumpFrame, hhead, hfoot]

theorem newline_not_mem_text_iff {ts : List Token} (h : ∀ t ∈ ts, t.WellFormed) :
    (∀ t ∈ ts, '\n' ∉ t.text.toList) ↔ UnbrokenStrings ts := by
  constructor
  · exact fun hnone t ht _ => hnone t ht
  · intro hstrings t ht
    by_cases hkind : t.kind = .string
    · exact hstrings t ht hkind
    · exact (h t ht).newline_not_mem hkind

theorem newline_not_mem_dumpLine_iff {t : Token} :
    '\n' ∉ t.dumpLine.toList ↔ '\n' ∉ t.text.toList := by
  rw [← Text.countNewlines_eq_zero_iff, countNewlines_dumpLine, Text.countNewlines_eq_zero_iff]

theorem newline_not_mem_dumpLines {ts : List Token} (hwf : ∀ t ∈ ts, t.WellFormed)
    (h : UnbrokenStrings ts) : ∀ line ∈ ts.map dumpLine, '\n' ∉ line.toList := by
  intro line hline
  obtain ⟨t, ht, rfl⟩ := List.mem_map.1 hline
  exact newline_not_mem_dumpLine_iff.2 ((newline_not_mem_text_iff hwf).2 h t ht)

theorem length_splitLines_dump_iff {ts : List Token} (hwf : ∀ t ∈ ts, t.WellFormed) :
    (Text.splitLines (dump ts)).length = ts.length + 2 ↔ UnbrokenStrings ts := by
  rw [dump_eq, Text.length_splitLines_dumpFrame (by decide), List.length_map, List.map_map,
    Nat.add_eq_left, List.sum_eq_zero_iff_forall_eq_nat, List.forall_mem_map,
    ← newline_not_mem_text_iff hwf]
  simp only [Function.comp_apply, countNewlines_dumpLine, Text.countNewlines_eq_zero_iff]

end Token

/-- A dump of the tokens of a source has a line for each of them, a head and a foot, exactly if no
string has a line end in it. All its lines are then comments, and no other source of that sort has
the same dump, unless it has the same tokens. -/
theorem token_dump_lists_tokens (source : String) (ts : List Token)
    (h : tokenize source = .ok ts) :
    ((Text.splitLines (Token.dump ts)).length = ts.length + 2 ↔ Token.UnbrokenStrings ts) ∧
      (Token.UnbrokenStrings ts →
        (∀ line ∈ Text.splitLines (Token.dump ts), Text.IsRemark line) ∧
          ∀ source' us, tokenize source' = .ok us → Token.UnbrokenStrings us →
            ts ≠ us → Token.dump ts ≠ Token.dump us) := by
  have hwf := (Token.layout_of_tokens (tokenize_eq_ok.1 h)).1
  refine ⟨Token.length_splitLines_dump_iff hwf, fun hts => ⟨?_, ?_⟩⟩
  · rw [Token.dump_eq, Text.splitLines_dumpFrame (by decide)
      (Token.newline_not_mem_dumpLines hwf hts)]
    apply Text.isRemark_of_mem_dumpFrame
    exact List.forall_mem_map.2 fun t _ => t.isRemark_dumpLine
  · intro source' us h' hus hne heq
    have hwf' := (Token.layout_of_tokens (tokenize_eq_ok.1 h')).1
    rw [Token.dump_eq, Token.dump_eq] at heq
    apply hne
    apply List.map_injective_iff.2 fun _ _ => Token.dumpLine_inj
    exact Text.joinLines_dumpFrame_inj (by decide) (Token.newline_not_mem_dumpLines hwf hts)
      (Token.newline_not_mem_dumpLines hwf' hus) heq

theorem token_dump_lists_tokens_marked :
    let ts : List Token := [.lparen, ⟨.ident, "say"⟩, ⟨.string, ";; NUMBER:7"⟩, .rparen]
    tokenize "(say \";; NUMBER:7\")" = .ok ts ∧ Token.UnbrokenStrings ts ∧
      (Text.splitLines (Token.dump ts)).length = 6 ∧
      Token.dump ts ≠ Token.dump [.lparen, ⟨.ident, "say"⟩, ⟨.number, "7"⟩, .rparen] := by
  intro ts
  have hts : tokenize "(say \";; NUMBER:7\")" = .ok ts := by decide +kernel
  have hunbroken : Token.UnbrokenStrings ts := by
    simp [ts, Token.UnbrokenStrings, Token.lparen, Token.rparen]
  obtain ⟨hcount, hlists⟩ := token_dump_lists_tokens _ ts hts
  refine ⟨hts, hunbroken, hcount.2 hunbroken, ?_⟩
  exact (hlists hunbroken).2 "(say 7)" _ (by decide +kernel)
    (by simp [Token.UnbrokenStrings, Token.lparen, Token.rparen]) (by decide)

/-- A string with a line end takes two lines, of which the second need not be a comment, and can
pass for two strings. -/
theorem token_dump_of_broken_string :
    tokenize "\"a\nb\"" = .ok [⟨.string, "a\nb"⟩] ∧
      Text.splitLines (Token.dump [⟨.string, "a\nb"⟩]) =
        [";; BEGIN Token List Dump", ";; STRING:a", "b", ";; END Token List Dump"] ∧
      tokenize "\"a\n;; STRING:b\"" = .ok [⟨.string, "a\n;; STRING:b"⟩] ∧
      tokenize "\"a\"\"b\"" = .ok [⟨.string, "a"⟩, ⟨.string, "b"⟩] ∧
      Token.dump [⟨.string, "a\n;; STRING:b"⟩] = Token.dump [⟨.string, "a"⟩, ⟨.string, "b"⟩] := by
  decide +kernel

/-! ## Tree dumps -/

namespace Node

def size (n : Node) : Nat :=
  (n.preorder 0).length

/-- Whether no operator and no number has a line end in it. Texts of strings may have any. -/
def UnbrokenLabels (n : Node) : Prop :=
  ∀ o ∈ n.preorder 0, o.node.kind ≠ .string → '\n' ∉ o.node.label.toList

theorem ext_children {n m : Node} (hkind : n.kind = m.kind) (hlabel : n.label = m.label)
    (hchildren : n.children = m.children) : n = m := by
  cases n <;> cases m <;> simp_all [kind, label, children]
  case call.call op _ op' _ =>
    cases op
    cases op'
    simp_all

/-! ### What a line shows -/

def shown (n : Node) : String :=
  if n.kind = .string then Text.quote n.label else n.label

def caption (n : Node) : List Char :=
  if n.shown = "" then [] else ':' :: ' ' :: n.shown.toList

theorem head_caption (n : Node) : ∀ c ∈ n.caption.head?, c = ':' := by
  unfold caption
  split <;> simp

theorem toList_heading (n : Node) : n.heading.toList = n.kind.name.toList ++ n.caption := by
  have hheading : n.heading =
      if n.shown = "" then n.kind.name else n.kind.name ++ ": " ++ n.shown := by
    cases n <;> rfl
  rw [hheading, caption]
  split
  · simp
  · simp

theorem caption_inj {n m : Node} (h : n.caption = m.caption) : n.shown = m.shown := by
  unfold caption at h
  by_cases hn : n.shown = "" <;> by_cases hm : m.shown = ""
  · rw [hn, hm]
  · simp [hn, hm] at h
  · simp [hn, hm] at h
  · exact String.toList_inj.1 (by simpa [hn, hm] using h)

theorem label_eq_of_shown {n m : Node} (hkind : n.kind = m.kind) (h : n.shown = m.shown) :
    n.label = m.label := by
  rw [shown, shown, ← hkind] at h
  split at h
  · exact Text.quote_inj h
  · exact h

theorem newline_not_mem_shown {n : Node} (h : n.kind ≠ .string → '\n' ∉ n.label.toList) :
    '\n' ∉ n.shown.toList := by
  rw [shown]
  split
  · exact Text.newline_not_mem_quote n.label
  · next hkind => exact h hkind

theorem Kind.name_injective : Function.Injective name := by
  intro kind kind' h
  cases kind <;> cases kind' <;> simp_all [name]

theorem Kind.separator_not_mem_name (kind : Kind) : ':' ∉ kind.name.toList := by
  cases kind <;> decide

theorem heading_inj {n m : Node} (h : n.heading = m.heading) :
    n.kind = m.kind ∧ n.label = m.label := by
  rw [← String.toList_inj, toList_heading, toList_heading] at h
  obtain ⟨hkind, hcaption⟩ := Text.name_append_inj Kind.name_injective Kind.separator_not_mem_name
    n.head_caption m.head_caption h
  exact ⟨hkind, label_eq_of_shown hkind (caption_inj hcaption)⟩

theorem toList_dumpLine (depth : Nat) (n : Node) :
    (n.dumpLine depth).toList =
      ";; ".toList ++ (List.replicate (2 * depth) ' ' ++ n.heading.toList) := by
  simp [dumpLine, indentation]

theorem isRemark_dumpLine (depth : Nat) (n : Node) : Text.IsRemark (n.dumpLine depth) := by
  rw [Text.IsRemark, toList_dumpLine]
  exact List.prefix_append ..

theorem newline_not_mem_dumpLine (depth : Nat) {n : Node}
    (h : n.kind ≠ .string → '\n' ∉ n.label.toList) : '\n' ∉ (n.dumpLine depth).toList := by
  have hname : '\n' ∉ n.kind.name.toList := by
    cases n.kind <;> decide
  have hcaption : '\n' ∉ n.caption := by
    rw [caption]
    split
    · simp
    · simpa using newline_not_mem_shown h
  simp [toList_dumpLine, toList_heading, hname, hcaption]

theorem dropWhile_indentation (depth : Nat) (n : Node) :
    (List.replicate (2 * depth) ' ' ++ n.heading.toList).dropWhile (· == ' ') =
      n.heading.toList := by
  rw [List.dropWhile_append_of_pos (by simp), toList_heading]
  -- headings begin with a letter, so all blanks before one are its indentation
  cases n.kind <;> simp [Kind.name]

theorem dumpLine_inj {depth depth' : Nat} {n m : Node}
    (h : n.dumpLine depth = m.dumpLine depth') :
    depth = depth' ∧ n.kind = m.kind ∧ n.label = m.label := by
  rw [← String.toList_inj, toList_dumpLine, toList_dumpLine, List.append_cancel_left_eq] at h
  have hheading : n.heading.toList = m.heading.toList := by
    rw [← dropWhile_indentation depth n, h, dropWhile_indentation]
  rw [hheading, List.append_cancel_right_eq] at h
  have hdepth : 2 * depth = 2 * depth' := by simpa using congrArg List.length h
  exact ⟨by omega, heading_inj (String.toList_inj.1 hheading)⟩

/-! ### Lines and nodes -/

theorem dumpLines_eq (depth : Nat) (n : Node) :
    n.dumpLines depth = n.dumpLine depth :: dumpLinesAll (depth + 1) n.children := by
  cases n <;> simp [dumpLines, dumpLinesAll, children]

mutual

theorem dumpLines_eq_map :
    ∀ (n : Node) (depth : Nat),
      n.dumpLines depth = (n.preorder depth).map fun o => o.node.dumpLine o.ancestors
  | program forms, depth => by simp [dumpLines, preorder, dumpLinesAll_eq_map forms]
  | call _ args, depth => by simp [dumpLines, preorder, dumpLinesAll_eq_map args]
  | number _, _ => rfl
  | string _, _ => rfl
  | other, _ => rfl

theorem dumpLinesAll_eq_map :
    ∀ (ns : List Node) (depth : Nat),
      dumpLinesAll depth ns = (preorderAll depth ns).map fun o => o.node.dumpLine o.ancestors
  | [], _ => rfl
  | n :: ns, depth => by
      simp [dumpLinesAll, preorderAll, dumpLines_eq_map n, dumpLinesAll_eq_map ns]

end

theorem isRemark_of_mem_dumpLines (depth : Nat) (n : Node) :
    ∀ line ∈ n.dumpLines depth, Text.IsRemark line := by
  rw [dumpLines_eq_map]
  exact List.forall_mem_map.2 fun o _ => isRemark_dumpLine o.ancestors o.node

theorem UnbrokenLabels.newline_not_mem {n : Node} (h : n.UnbrokenLabels) :
    ∀ line ∈ n.dumpLines 0, '\n' ∉ line.toList := by
  rw [dumpLines_eq_map]
  exact List.forall_mem_map.2 fun o ho => newline_not_mem_dumpLine o.ancestors (h o ho)

/-! ### Reading the lines back -/

/-- Where these lines follow, no further node of that depth or of a greater one does. -/
def NoNodeFrom (depth : Nat) (rest : List String) : Prop :=
  ∀ depth' ≥ depth, ∀ n : Node, rest.head? ≠ some (n.dumpLine depth')

theorem noNodeFrom_nil (depth : Nat) : NoNodeFrom depth [] := by
  simp [NoNodeFrom]

theorem NoNodeFrom.dumpLinesAll_append {depth : Nat} {rest : List String}
    (h : NoNodeFrom depth rest) (ns : List Node) :
    NoNodeFrom (depth + 1) (dumpLinesAll depth ns ++ rest) := by
  intro depth' hdepth n hhead
  cases ns with
  | nil => exact h depth' (by omega) n (by simpa [dumpLinesAll] using hhead)
  | cons m ms =>
      have hline : m.dumpLine depth = n.dumpLine depth' := by
        simpa [dumpLinesAll, dumpLines_eq] using hhead
      have hsame := (dumpLine_inj hline).1
      omega

/-- Nodes of one depth and what follows them can be told from their lines. -/
def ReadsBackAt (depth : Nat) (ns : List Node) : Prop :=
  ∀ (ms : List Node) (rest rest' : List String), NoNodeFrom depth rest → NoNodeFrom depth rest' →
    dumpLinesAll depth ns ++ rest = dumpLinesAll depth ms ++ rest' → ns = ms ∧ rest = rest'

theorem readsBackAt_nil (depth : Nat) : ReadsBackAt depth [] := by
  intro ms rest rest' hrest _ h
  cases ms with
  | nil => exact ⟨rfl, by simpa [dumpLinesAll] using h⟩
  | cons m ms =>
      refine absurd ?_ (hrest depth le_rfl m)
      rw [dumpLinesAll, List.nil_append] at h
      simp [h, dumpLinesAll, dumpLines_eq]

/-- The first node can be read back if its children can: its line shows all else of it, and its
children end where a line is no deeper than its own. -/
theorem readsBackAt_cons {depth : Nat} {n : Node} {ns : List Node}
    (hchildren : ReadsBackAt (depth + 1) n.children) (hns : ReadsBackAt depth ns) :
    ReadsBackAt depth (n :: ns) := by
  intro ms rest rest' hrest hrest' h
  cases ms with
  | nil =>
      refine absurd ?_ (hrest' depth le_rfl n)
      rw [dumpLinesAll.eq_def depth [], List.nil_append] at h
      simp [← h, dumpLinesAll, dumpLines_eq]
  | cons m ms =>
      simp only [dumpLinesAll, dumpLines_eq, List.cons_append, List.append_assoc] at h
      obtain ⟨hline, hbelow⟩ := List.cons.inj h
      obtain ⟨-, hkind, hlabel⟩ := dumpLine_inj hline
      obtain ⟨hsame, hafter⟩ := hchildren _ _ _ (hrest.dumpLinesAll_append ns)
        (hrest'.dumpLinesAll_append ms) hbelow
      obtain ⟨rfl, hends⟩ := hns ms rest rest' hrest hrest' hafter
      rw [ext_children hkind hlabel hsame]
      exact ⟨rfl, hends⟩

mutual

theorem readsBackAt_children : ∀ (n : Node) (depth : Nat), ReadsBackAt depth n.children
  | program forms, depth => readsBackAt forms depth
  | call _ args, depth => readsBackAt args depth
  | number _, depth => readsBackAt_nil depth
  | string _, depth => readsBackAt_nil depth
  | other, depth => readsBackAt_nil depth

theorem readsBackAt : ∀ (ns : List Node) (depth : Nat), ReadsBackAt depth ns
  | [], depth => readsBackAt_nil depth
  | n :: ns, depth =>
      readsBackAt_cons (readsBackAt_children n (depth + 1)) (readsBackAt ns depth)

end

theorem dumpLines_inj {depth : Nat} {n m : Node} (h : n.dumpLines depth = m.dumpLines depth) :
    n = m := by
  have hread := readsBackAt [n] depth [m] [] [] (noNodeFrom_nil depth) (noNodeFrom_nil depth)
    (by simp [dumpLinesAll, h])
  exact List.singleton_inj.1 hread.1

theorem dump_eq (n : Node) :
    n.dump = Text.joinLines (Text.dumpFrame "Ast" (n.dumpLines 0)) := by
  have hhead : ";; BEGIN " ++ "Ast" ++ " Dump" = ";; BEGIN Ast Dump" := by decide
  have hfoot : ";; END " ++ "Ast" ++ " Dump" = ";; END Ast Dump" := by decide
  rw [dump, Text.dumpFrame, hhead, hfoot]

end Node

/-- A dump shows a tree as it is. Two trees have the same dump only if they are equal, and a dump
has a comment line for each node, a head and a foot, whatever the texts of strings are. -/
theorem dump_determines_tree (tree tree' : Node) (h : tree.UnbrokenLabels)
    (h' : tree'.UnbrokenLabels) :
    (tree.dump = tree'.dump ↔ tree = tree') ∧
      (Text.splitLines tree.dump).length = tree.size + 2 ∧
      ∀ line ∈ Text.splitLines tree.dump, Text.IsRemark line := by
  have hsplit : Text.splitLines tree.dump = Text.dumpFrame "Ast" (tree.dumpLines 0) := by
    rw [Node.dump_eq, Text.splitLines_dumpFrame (by decide) h.newline_not_mem]
  refine ⟨⟨fun heq => ?_, fun heq => by rw [heq]⟩, ?_, ?_⟩
  · rw [Node.dump_eq, Node.dump_eq] at heq
    apply Node.dumpLines_inj
    exact Text.joinLines_dumpFrame_inj (by decide) h.newline_not_mem h'.newline_not_mem heq
  · rw [hsplit, Node.dumpLines_eq_map]
    simp [Text.dumpFrame, Node.size]
  · rw [hsplit]
    exact Text.isRemark_of_mem_dumpFrame (Node.isRemark_of_mem_dumpLines 0 tree)

theorem dump_determines_tree_imitation :
    let say : Operator := ⟨"say", by decide⟩
    let text := "x'\n;;   ASTNode"
    let below := Node.program [.call say [.string text, .number ""], .other]
    let beside := Node.program [.call say [.string text], .number "", .other]
    below.UnbrokenLabels ∧ beside.UnbrokenLabels ∧ below.dump ≠ beside.dump ∧
      (Text.splitLines below.dump).length = 7 := by
  intro say text below beside
  have hbelow : below.UnbrokenLabels := by
    simp [below, say, Node.UnbrokenLabels, Node.preorder, Node.preorderAll, Node.kind, Node.label]
  have hbeside : beside.UnbrokenLabels := by
    simp [beside, say, Node.UnbrokenLabels, Node.preorder, Node.preorderAll, Node.kind, Node.label]
  obtain ⟨hiff, hcount, -⟩ := dump_determines_tree below beside hbelow hbeside
  refine ⟨hbelow, hbeside, fun heq => ?_, hcount⟩
  simpa [below, beside] using hiff.1 heq

end SexprAsm
