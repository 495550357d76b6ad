import SexprAsm.Proofs.Concatenation
import SexprAsm.Proofs.Styles

/-!
# The format of listings

A listing consists of lines of ASCII characters, each with its line end. The tokens of the source
alone decide how many lines there are and which numerals are pushed. What stands in a string of the
source cannot add a line, take one away or make one a comment.
-/

namespace SexprAsm

/-! ## Tokens by kind -/

namespace Token

def count (kind : Kind) (ts : List Token) : Nat :=
  ts.countP (·.kind = kind)

/-- The texts of the numbers, in order. -/
def numerals (ts : List Token) : List String :=
  (ts.filter (·.kind = .number)).map Token.text

@[simp] theorem count_nil (kind : Kind) : count kind [] = 0 := rfl

@[simp] theorem count_cons (kind : Kind) (t : Token) (ts : List Token) :
    count kind (t :: ts) = count kind ts + if t.kind = kind then 1 else 0 := by
  simp [count, List.countP_cons]

@[simp] theorem count_append (kind : Kind) (ts us : List Token) :
    count kind (ts ++ us) = count kind ts + count kind us :=
  List.countP_append

theorem numerals_append (ts us : List Token) :
    numerals (ts ++ us) = numerals ts ++ numerals us := by
  simp [numerals]

theorem numerals_cons_of_ne {t : Token} (h : t.kind ≠ .number) (ts : List Token) :
    numerals (t :: ts) = numerals ts := by
  simp [numerals, h]

end Token

/-! ## Characters -/

def Text.IsAscii (text : String) : Prop :=
  ∀ c ∈ text.toList, c.toNat < 128

namespace BodyLine

variable {indent line : String} {keepBlankLines : Bool}
  (htabs : ∀ c ∈ indent.toList, c = '\t') (h : BodyLine indent keepBlankLines line)

include htabs h

theorem char_cases {c : Char} (hc : c ∈ line.toList) :
    c ∈ ['\t', ' ', '#'] ∨ c.isDigit = true ∨ c.isUpper = true := by
  cases h with
  | blank => simp at hc
  | @push digits hne hdigits =>
      rw [String.toList_append, String.toList_append] at hc
      simp only [List.mem_append] at hc
      rcases hc with hindent | hword | hdigit
      · exact .inl (by simp [htabs c hindent])
      · have hletters : ∀ d ∈ "PUSH #".toList, d ∈ ['\t', ' ', '#'] ∨ d.isUpper = true := by
          simp
        exact (hletters c hword).imp_right .inr
      · exact .inr (.inl (hdigits c hdigit))
  | @mnemonic name hne hupper =>
      rw [String.toList_append, List.mem_append] at hc
      rcases hc with hindent | hname
      · exact .inl (by simp [htabs c hindent])
      · exact .inr (.inr (hupper c hname))

theorem isAscii : Text.IsAscii line := by
  intro c hc
  rcases h.char_cases htabs hc with hother | hdigit | hupper
  · have hothers : ∀ d ∈ ['\t', ' ', '#'], d.toNat < 128 := by simp
    exact hothers c hother
  · have hrange : 48 ≤ c.toNat ∧ c.toNat ≤ 57 := Char.isDigit_iff_toNat.1 hdigit
    omega
  · have hrange := (Text.isUpper_iff_toNat c).1 hupper
    omega

theorem isComment_eq_false : Text.isComment line = false := by
  have hnot : ';' ∉ line.toList := fun hmem => absurd (h.char_cases htabs hmem) (by decide)
  rw [Text.isComment, Bool.eq_false_iff]
  intro hprefix
  have hsub := (List.isPrefixOf_iff_prefix.1 hprefix).subset
  exact hnot (hsub (by decide))

end BodyLine

/-! ## Operands -/

namespace Text

/-- The numeral that a line pushes, if it pushes one. -/
def operand? (indent line : String) : Option String :=
  (line.toList.dropPrefix? (indent ++ "PUSH #").toList).map String.ofList

theorem operand?_push (indent digits : String) :
    operand? indent (indent ++ ("PUSH #" ++ digits)) = some digits := by
  have hdrop : (indent ++ ("PUSH #" ++ digits)).toList.dropPrefix? (indent ++ "PUSH #").toList =
      some digits.toList :=
    List.dropPrefix?_eq_some_iff.2 ⟨(indent ++ "PUSH #").toList, by simp, by simp⟩
  rw [operand?, hdrop, Option.map_some, String.ofList_toList]

theorem operand?_eq_none (indent : String) {line : String} (h : '#' ∉ line.toList) :
    operand? indent line = none := by
  rw [operand?, Option.map_eq_none_iff, Option.eq_none_iff_forall_ne_some]
  intro digits hdrop
  obtain ⟨start, hline, hstart⟩ := List.dropPrefix?_eq_some_iff.1 hdrop
  obtain rfl : start = (indent ++ "PUSH #").toList := by simpa using hstart
  apply h
  rw [hline]
  simp

theorem operand?_uppercase {indent name : String} (htabs : ∀ c ∈ indent.toList, c = '\t')
    (h : ∀ c ∈ name.toList, c.isAlpha = true) :
    operand? indent (indent ++ uppercase name) = none := by
  apply operand?_eq_none
  rw [String.toList_append, List.mem_append]
  rintro (hindent | hname)
  · exact absurd (htabs _ hindent) (by decide)
  · exact absurd (isUpper_of_mem_uppercase h hname) (by decide)

end Text

namespace Node

theorem operands_gapLines (style : Style) (indent : String) :
    style.gapLines.filterMap (Text.operand? indent) = [] := by
  rw [List.filterMap_eq_nil_iff]
  intro line hline
  obtain ⟨-, rfl⟩ : style.keepBlankLines = true ∧ line = "" := by
    simpa [Style.gapLines] using hline
  exact Text.operand?_eq_none indent (by simp)

mutual

theorem operands_postorder {style : Style}
    (htabs : ∀ c ∈ style.profile.indent.toList, c = '\t') : ∀ n : Node, n.SourceForm →
      (n.postorder style).filterMap (Text.operand? style.profile.indent) =
        Token.numerals n.flatten
  | program _, h => h.elim
  | other, h => h.elim
  | number digits, _ => by
      rw [postorder, List.filterMap_append, operands_gapLines]
      simp [Style.indented, Text.operand?_push, flatten, Token.numerals]
  | string _, _ => by
      rw [postorder, List.filterMap_append, operands_gapLines]
      rfl
  | call op args, h => by
      rw [postorder, List.filterMap_append, List.filterMap_append, operands_gapLines,
        operands_postorderAll htabs args h.2, flatten,
        Token.numerals_cons_of_ne (by simp [Token.lparen]), Token.numerals_cons_of_ne (by simp),
        Token.numerals_append]
      simp [Style.indented, Text.operand?_uppercase htabs h.1, Token.numerals, Token.rparen]

theorem operands_postorderAll {style : Style}
    (htabs : ∀ c ∈ style.profile.indent.toList, c = '\t') : ∀ ns : List Node, SourceForms ns →
      (postorderAll style ns).filterMap (Text.operand? style.profile.indent) =
        Token.numerals (flattenAll ns)
  | [], _ => rfl
  | n :: ns, h => by
      rw [postorderAll, List.filterMap_append, operands_postorder htabs n h.1,
        operands_postorderAll htabs ns h.2, flattenAll, Token.numerals_append]

end

end Node

/-! ## Counting lines -/

namespace Node

mutual

theorem length_postorder (style : Style) : ∀ n : Node, n.isForm = true →
    (n.postorder style).length =
      Token.count .lparen n.flatten + Token.count .number n.flatten +
        style.gapLines.length * (Token.count .lparen n.flatten + Token.count .number n.flatten +
          2 * Token.count .string n.flatten)
  | program _, h => by simp [isForm] at h
  | other, h => by simp [isForm] at h
  | number digits, _ => by
      simp [postorder, flatten]
      omega
  | string text, _ => by
      simp [postorder, flatten]
      omega
  | call op args, h => by
      have hargs := length_postorderAll style args h
      simp only [postorder, flatten, List.length_append, hargs, Token.count_cons,
        Token.count_append, Token.count_nil, List.length_cons, List.length_nil, Token.lparen,
        Token.rparen, reduceCtorEq, if_true, if_false]
      ring

theorem length_postorderAll (style : Style) : ∀ ns : List Node, areForms ns = true →
    (postorderAll style ns).length =
      Token.count .lparen (flattenAll ns) + Token.count .number (flattenAll ns) +
        style.gapLines.length * (Token.count .lparen (flattenAll ns) +
          Token.count .number (flattenAll ns) + 2 * Token.count .string (flattenAll ns))
  | [], _ => by simp [postorderAll, flattenAll]
  | n :: ns, h => by
      obtain ⟨hn, hns⟩ : n.isForm = true ∧ areForms ns = true := by simpa [areForms] using h
      simp only [postorderAll, flattenAll, List.length_append, length_postorder style n hn,
        length_postorderAll style ns hns, Token.count_append]
      ring

end

end Node

theorem Style.length_gapLines (style : Style) :
    style.gapLines.length = if style.keepBlankLines then 1 else 0 := by
  cases h : style.keepBlankLines <;> simp [gapLines, h]

/-! ## Frames -/

/-- What stands around the body of a listing and before its instructions. -/
structure Frame where
  header : List String
  footer : List String
  indent : String

/-- The frame for the target of that name. All names but one have the same. -/
def Frame.ofTarget (target : String) : Frame :=
  if target = "bare" then { header := ["START"], footer := ["HALT"], indent := "" }
  else
    { header := [";; Begin program code", "\t\tSTART"],
      footer := [";; exit program", "\t\tHALT"], indent := "\t\t" }

def Style.frame (style : Style) : Frame where
  header := style.headerLines
  footer := style.footerLines
  indent := style.profile.indent

theorem Style.frame_ofTarget (target : String) (keepBlankLines : Bool) (maxDepth : Int) :
    (CompileOptions.ofTarget target keepBlankLines maxDepth).style.frame =
      Frame.ofTarget target := by
  unfold frame headerLines footerLines remarkLines indented CompileOptions.ofTarget Frame.ofTarget
  rw [Profile.ofName_eq]
  split <;> rfl

namespace Frame

variable (target : String)

theorem tab_of_mem_indent : ∀ c ∈ (ofTarget target).indent.toList, c = '\t' := by
  unfold ofTarget
  split <;> simp

theorem isAscii_of_mem :
    ∀ line ∈ (ofTarget target).header ++ (ofTarget target).footer, Text.IsAscii line := by
  unfold ofTarget Text.IsAscii
  split <;> simp

theorem operand?_of_mem :
    ∀ line ∈ (ofTarget target).header ++ (ofTarget target).footer, ∀ indent,
      Text.operand? indent line = none := by
  have hsign : ∀ line ∈ (ofTarget target).header ++ (ofTarget target).footer,
      '#' ∉ line.toList := by
    unfold ofTarget
    split <;> simp
  exact fun line hline indent => Text.operand?_eq_none indent (hsign line hline)

theorem filter_isComment :
    (ofTarget target).header.filter Text.isComment ++
        (ofTarget target).footer.filter Text.isComment =
      if target = "bare" then [] else [";; Begin program code", ";; exit program"] := by
  unfold ofTarget
  split <;> decide

theorem length_lines :
    (ofTarget target).header.length + (ofTarget target).footer.length =
      if target = "bare" then 2 else 4 := by
  unfold ofTarget
  split <;> rfl

end Frame

/-! ## Whole listings -/

/-- The format of a listing for the target of that name, with the given lines as its body and of a
source with the given tokens. -/
structure ListingFormat (target : String) (keepBlankLines : Bool) (ts : List Token)
    (body : List String) (listing : String) : Prop where
  /-- Every line has its line end, the last one too. -/
  ended : listing = Text.endLines (Text.lines listing)
  framed : Text.lines listing =
    (Frame.ofTarget target).header ++ body ++ (Frame.ofTarget target).footer
  ascii : Text.IsAscii listing
  body : ∀ line ∈ body, BodyLine (Frame.ofTarget target).indent keepBlankLines line
  comments : (Text.lines listing).filter Text.isComment =
    if target = "bare" then [] else [";; Begin program code", ";; exit program"]
  newlines : Text.countNewlines listing =
    (if target = "bare" then 2 else 4) + (Token.count .lparen ts + Token.count .number ts) +
      if keepBlankLines then
        Token.count .lparen ts + Token.count .number ts + 2 * Token.count .string ts
      else 0
  /-- The pushed numerals are those of the source, leading zeros and all. -/
  operands : (Text.lines listing).filterMap (Text.operand? (Frame.ofTarget target).indent) =
    Token.numerals ts

section Framed

variable {target : String} {keepBlankLines : Bool} {body : List String}
  (hbody : ∀ line ∈ body, BodyLine (Frame.ofTarget target).indent keepBlankLines line)

include hbody

theorem isAscii_framed :
    Text.IsAscii (Text.endLines
      ((Frame.ofTarget target).header ++ body ++ (Frame.ofTarget target).footer)) := by
  intro c hc
  rcases Text.mem_endLines hc with rfl | ⟨line, hline, hmem⟩
  · decide
  · have hframe := Frame.isAscii_of_mem target line
    rw [List.mem_append] at hframe
    rcases List.mem_append.1 hline with hline | hfooter
    · rcases List.mem_append.1 hline with hheader | hline
      · exact hframe (.inl hheader) c hmem
      · exact (hbody line hline).isAscii (Frame.tab_of_mem_indent target) c hmem
    · exact hframe (.inr hfooter) c hmem

theorem filter_isComment_framed :
    ((Frame.ofTarget target).header ++ body ++ (Frame.ofTarget target).footer).filter
        Text.isComment =
      if target = "bare" then [] else [";; Begin program code", ";; exit program"] := by
  have hnone : body.filter Text.isComment = [] := by
    apply List.filter_eq_nil_iff.2
    intro line hline
    simp [(hbody line hline).isComment_eq_false (Frame.tab_of_mem_indent target)]
  rw [List.filter_append, List.filter_append, hnone, List.append_nil, Frame.filter_isComment]

end Framed

theorem operands_framed (target indent : String) (body : List String) :
    ((Frame.ofTarget target).header ++ body ++ (Frame.ofTarget target).footer).filterMap
        (Text.operand? indent) = body.filterMap (Text.operand? indent) := by
  have hnone := Frame.operand?_of_mem target
  have hheader : (Frame.ofTarget target).header.filterMap (Text.operand? indent) = [] :=
    List.filterMap_eq_nil_iff.2 fun line hline => hnone line (by simp [hline]) indent
  have hfooter : (Frame.ofTarget target).footer.filterMap (Text.operand? indent) = [] :=
    List.filterMap_eq_nil_iff.2 fun line hline => hnone line (by simp [hline]) indent
  rw [List.filterMap_append, List.filterMap_append, hheader, hfooter, List.nil_append,
    List.append_nil]

theorem Node.listingFormat_postorder {style : Style} {target : String}
    (hframe : style.frame = Frame.ofTarget target) {forms : List Node} (hforms : SourceForms forms) :
    ListingFormat target style.keepBlankLines (flattenAll forms) (postorderAll style forms)
      (Text.endLines ((program forms).postorder style)) := by
  have hindent : style.profile.indent = (Frame.ofTarget target).indent :=
    congrArg Frame.indent hframe
  have htabs : ∀ c ∈ style.profile.indent.toList, c = '\t' := by
    rw [hindent]
    exact Frame.tab_of_mem_indent target
  have hends := newline_not_mem_postorder (fun hmem => absurd (htabs _ hmem) (by decide)) hforms
  have hframed : (program forms).postorder style =
      (Frame.ofTarget target).header ++ postorderAll style forms ++
        (Frame.ofTarget target).footer := by
    rw [postorder, ← hframe]
    rfl
  have hbody := bodyLine_of_mem_postorderAll style forms hforms
  have hoperands := operands_postorderAll htabs forms hforms
  rw [hindent] at hbody hoperands
  rw [hframed] at hends ⊢
  have hlines := Text.lines_endLines hends
  refine ⟨?_, hlines, isAscii_framed hbody, hbody, ?_, ?_, ?_⟩
  · rw [hlines]
  · rw [hlines, filter_isComment_framed hbody]
  · have hlength := length_postorderAll style forms ((sourceForms_iff forms).1 hforms).1
    rw [Style.length_gapLines] at hlength
    rw [Text.countNewlines_endLines hends, List.length_append, List.length_append, hlength,
      ← Frame.length_lines]
    split <;> omega
  · rw [hlines, operands_framed, hoperands]

/-- Every listing is well formed, whatever source it comes from: it has the header, the lines of the
body and the footer, in ASCII and each ended once; no comment but the two fixed ones, and none for
the bare target; as many lines as the tokens ask for; and the numerals of the source as operands. -/
theorem compiled_listing_formats (target : String) (keepBlankLines : Bool) (maxDepth : Int)
    (source listing : String)
    (h : compile (.ofTarget target keepBlankLines maxDepth) source = .ok listing) :
    ∃ ts body, tokenize source = .ok ts ∧
      ListingFormat target keepBlankLines ts body listing := by
  obtain ⟨forms, htree, hforms, rfl⟩ := compile_eq_ok_iff_forms.1 h
  obtain ⟨-, ts, -, -, htokens, hread⟩ := Node.ofSource_eq_ok htree
  obtain rfl : Node.flattenAll forms = ts := flatten_of_ofTokens htokens hread
  have hframe := Style.frame_ofTarget target keepBlankLines maxDepth
  exact ⟨_, _, htokens, Node.listingFormat_postorder hframe hforms⟩

/-- A string with a line that looks like a comment, and operators that look like instructions. -/
theorem compiled_listing_formats_hiddenComment :
    let source := "(Push 007 \"é\n;; b\" (halt))12 "
    let indented := Text.endLines
      [";; Begin program code", "\t\tSTART", "", "", "\t\tPUSH #007", "", "", "", "\t\tHALT",
        "\t\tPUSH", "", "\t\tPUSH #12", ";; exit program", "\t\tHALT"]
    let bare := Text.endLines ["START", "PUSH #007", "HALT", "PUSH", "PUSH #12", "HALT"]
    compile (.ofTarget "zee" true 2) source = .ok indented ∧
      compile (.ofTarget "bare" false 2) source = .ok bare ∧
      ∃ ts body body', tokenize source = .ok ts ∧ ListingFormat "zee" true ts body indented ∧
        ListingFormat "bare" false ts body' bare ∧
        Text.countNewlines indented = 14 ∧ Text.countNewlines bare = 6 ∧
        (Text.lines bare).filter Text.isComment = [] ∧
        (Text.lines bare).filterMap (Text.operand? "") = ["007", "12"] := by
  intro source indented bare
  have hindented : compile (.ofTarget "zee" true 2) source = .ok indented := by decide +kernel
  have hbare : compile (.ofTarget "bare" false 2) source = .ok bare := by decide +kernel
  have hsource : tokenize source = .ok
      [.lparen, ⟨.ident, "Push"⟩, ⟨.number, "007"⟩, ⟨.string, "é\n;; b"⟩, .lparen,
        ⟨.ident, "halt"⟩, .rparen, .rparen, ⟨.number, "12"⟩] := by decide +kernel
  obtain ⟨ts, body, hts, hformat⟩ := compiled_listing_formats "zee" true 2 source indented hindented
  obtain ⟨ts', body', hts', hformat'⟩ := compiled_listing_formats "bare" false 2 source bare hbare
  obtain rfl := Except.ok.inj (hsource.symm.trans hts)
  obtain rfl := Except.ok.inj (hsource.symm.trans hts')
  exact ⟨hindented, hbare, _, body, body', hsource, hformat, hformat', hformat.newlines,
    hformat'.newlines, hformat'.comments, hformat'.operands⟩

end SexprAsm
