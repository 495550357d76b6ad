import SexprAsm.CommandLine.FileTree
import SexprAsm.Proofs.ExitCode
import SexprAsm.Proofs.Grammar
import SexprAsm.Proofs.ValidPrefix

/-!
# One limit for the reader and the generator

The reader counts the calls that are open, the generator the nodes around a call. Both hold calls to
the same limit: on the tokens of a program and on the program they succeed together, or both stop at
the same call, the reader just past its opening parenthesis. So a compilation that fails has failed
before there was anything to list.
-/

namespace SexprAsm

def Token.openers (ts : List Token) : Nat :=
  ts.countP (·.kind = .lparen)

namespace Token

@[simp] theorem openers_append (ts us : List Token) :
    openers (ts ++ us) = openers ts + openers us :=
  List.countP_append

theorem openers_lparen_cons (ts : List Token) : openers (.lparen :: ts) = openers ts + 1 :=
  List.countP_cons_of_pos rfl

theorem openers_cons_of_ne {t : Token} (h : t.kind ≠ .lparen) (ts : List Token) :
    openers (t :: ts) = openers ts :=
  List.countP_cons_of_neg (by simpa using h)

theorem openers_map_canonical (ts : List Token) : openers (ts.map canonical) = openers ts := by
  rw [openers, List.countP_map]
  exact List.countP_congr fun t _ => by simp [kind_canonical]

end Token

open Token (openers)

namespace Node

mutual

theorem openers_flatten : ∀ n : Node, openers n.flatten = n.calls.length
  | program forms => openers_flattenAll forms
  | number _ => rfl
  | string _ => rfl
  | other => rfl
  | call op args => by
      have hclose : openers [Token.rparen] = 0 := rfl
      rw [flatten, Token.openers_lparen_cons, Token.openers_cons_of_ne (by simp),
        Token.openers_append, openers_flattenAll args, hclose, calls, List.length_cons]

theorem openers_flattenAll : ∀ ns : List Node, openers (flattenAll ns) = (callsAll ns).length
  | [] => rfl
  | n :: ns => by
      rw [flattenAll, callsAll, Token.openers_append, List.length_append, openers_flatten n,
        openers_flattenAll ns]

end

/-! ## Stopping together -/

/-- The reader stops just past an opening parenthesis that goes too deep, with `i` others before
it. -/
def StopsAt (limit : Int) (opened : List OpenCall) (i : Nat) (ts : List Token) : Prop :=
  ∃ before after, ts = before ++ .lparen :: after ∧ openers before = i ∧
    readForms limit { calls := opened } ts = ⟨.error (.nestingTooDeep (some .lparen)), after⟩

/-- The walk of a tree stops at the call with the number `i`, and so does the reader on the tokens
of the tree, whatever comes after them. -/
def StopTogether (limit : Int) (level : Nat) (called : List (Operator × List Node))
    (walked : Emission) (flat : List Token) : Prop :=
  ∃ i op args, called[i]? = some (op, args) ∧
    walked.fault = some (.nestingTooDeep (.call op args)) ∧
    ∀ opened ts, opened.length + 1 = level → StopsAt limit opened i (flat ++ ts)

theorem StopsAt.flatten_append {limit : Int} {opened : List OpenCall} {n : Node} {i : Nat}
    {ts : List Token} (hn : n.Fits limit (opened.length + 1))
    (h : ∀ opened', opened'.length = opened.length → StopsAt limit opened' i ts) :
    StopsAt limit opened (n.calls.length + i) (n.flatten ++ ts) := by
  -- at the top the form is finished, inside a call it becomes an argument
  cases opened with
  | nil =>
      obtain ⟨before, after, rfl, hopeners, hread⟩ := h [] rfl
      refine ⟨n.flatten ++ before, after, by rw [List.append_assoc], ?_, ?_⟩
      · rw [Token.openers_append, openers_flatten, hopeners]
      · rw [readForms_flatten limit n [] _ hn, readOn, hread]
        rfl
  | cons inner outer =>
      obtain ⟨before, after, rfl, hopeners, hread⟩ :=
        h ({ inner with arguments := n :: inner.arguments } :: outer) rfl
      refine ⟨n.flatten ++ before, after, by rw [List.append_assoc], ?_, ?_⟩
      · rw [Token.openers_append, openers_flatten, hopeners]
      · rw [readForms_flatten limit n (inner :: outer) _ hn, readOn, hread]

section Calls

variable {limit : Int} {level : Nat} {op : Operator} {args : List Node}

theorem stopTogether_call_of_lt (h : limit < level) :
    StopTogether limit level (call op args).calls ((call op args).walk limit level)
      (call op args).flatten := by
  refine ⟨0, op, args, rfl, ?_, fun opened ts hopened => ?_⟩
  · simp [walk, walkAround, obstacle?, h]
  · have hdeep : limit < opened.length + 1 := by
      rw [← hopened] at h
      exact_mod_cast h
    refine ⟨[], _, rfl, rfl, ?_⟩
    rw [flatten, List.cons_append, readForms_lparen rfl, if_pos hdeep]
    rfl

theorem stopTogether_call_of_arguments (hlevel : (level : Int) ≤ limit)
    (h : StopTogether limit (level + 1) (callsAll args) (walkAll limit (level + 1 : Nat) args)
      (flattenAll args)) :
    StopTogether limit level (call op args).calls ((call op args).walk limit level)
      (call op args).flatten := by
  obtain ⟨i, op', args', hcall, hfault, hstops⟩ := h
  refine ⟨i + 1, op', args', hcall, ?_, fun opened ts hopened => ?_⟩
  · have hfree : (call op args).obstacle? limit level = none := by
      simp [obstacle?, Int.not_lt.2 hlevel]
    push_cast at hfault
    rw [walk, walkAround, hfree]
    exact (Emission.fault_within _ _ _).trans hfault
  · have hdeep : ¬limit < opened.length + 1 := by
      rw [← hopened] at hlevel
      push_cast at hlevel
      omega
    obtain ⟨before, after, hsplit, hopeners, hread⟩ :=
      hstops ({ operator := op.text } :: opened) (.rparen :: ts) (by simpa using hopened)
    refine ⟨.lparen :: ⟨.ident, op.text⟩ :: before, after, ?_, ?_, ?_⟩
    · simp [flatten, hsplit]
    · rw [Token.openers_lparen_cons, Token.openers_cons_of_ne (by simp), hopeners]
    · simp only [flatten, List.cons_append, List.append_assoc, List.nil_append]
      rw [readForms_lparen rfl, if_neg hdeep, readForms_awaits_cons, if_pos rfl, hread]

end Calls

theorem StopTogether.append {limit : Int} {level : Nat} {n : Node} {ns : List Node}
    (h : StopTogether limit level n.calls (n.walk limit level) n.flatten) :
    StopTogether limit level (callsAll (n :: ns)) (walkAll limit level (n :: ns))
      (flattenAll (n :: ns)) := by
  obtain ⟨i, op, args, hcall, hfault, hstops⟩ := h
  refine ⟨i, op, args, ?_, ?_, fun opened ts hopened => ?_⟩
  · rw [callsAll, List.getElem?_append_left (List.getElem?_eq_some_iff.1 hcall).1, hcall]
  · rw [walkAll, Emission.fault_andThen, hfault, Option.some_or]
  · rw [flattenAll, List.append_assoc]
    exact hstops opened (flattenAll ns ++ ts) hopened

theorem StopTogether.cons {limit : Int} {level : Nat} {n : Node} {ns : List Node}
    (h : StopTogether limit level (callsAll ns) (walkAll limit level ns) (flattenAll ns))
    (hn : n.Fits limit level) :
    StopTogether limit level (callsAll (n :: ns)) (walkAll limit level (n :: ns))
      (flattenAll (n :: ns)) := by
  obtain ⟨i, op, args, hcall, hfault, hstops⟩ := h
  refine ⟨n.calls.length + i, op, args, ?_, ?_, fun opened ts hopened => ?_⟩
  · rw [callsAll, List.getElem?_append_right (Nat.le_add_right _ _), Nat.add_sub_cancel_left,
      hcall]
  · have hdone := (walk_of_fits {} limit n level hn).1
    rw [walkAll, Emission.fault_andThen, hdone, Option.none_or, hfault]
  · rw [flattenAll, List.append_assoc]
    refine StopsAt.flatten_append (hopened ▸ hn) fun opened' hopened' => ?_
    exact hstops opened' ts (by rw [hopened', hopened])

mutual

/-- A form fits the limit, or the reader and the generator stop at the same call of it. -/
theorem fits_or_stopTogether (limit : Int) :
    ∀ (n : Node) (level : Nat), n.isForm = true →
      n.Fits limit level ∨ StopTogether limit level n.calls (n.walk limit level) n.flatten
  | number digits, level, _ => .inl (fits_number limit level digits)
  | string text, level, _ => .inl (fits_string limit level text)
  | program _, _, h => by simp [isForm] at h
  | other, _, h => by simp [isForm] at h
  | call op args, level, h => by
      by_cases hlevel : limit < level
      · exact .inr (stopTogether_call_of_lt hlevel)
      · have hle : (level : Int) ≤ limit := Int.not_lt.1 hlevel
        rcases fitsAll_or_stopTogether limit args (level + 1) h with hfits | hstop
        · exact .inl (fits_call_iff.2 ⟨hle, hfits⟩)
        · exact .inr (stopTogether_call_of_arguments hle hstop)

theorem fitsAll_or_stopTogether (limit : Int) :
    ∀ (ns : List Node) (level : Nat), areForms ns = true →
      (∀ n ∈ ns, n.Fits limit level) ∨
        StopTogether limit level (callsAll ns) (walkAll limit level ns) (flattenAll ns)
  | [], _, _ => .inl (List.forall_mem_nil _)
  | n :: ns, level, h => by
      obtain ⟨hn, hns⟩ : n.isForm = true ∧ areForms ns = true := by simpa [areForms] using h
      rcases fits_or_stopTogether limit n level hn with hfits | hstop
      · rcases fitsAll_or_stopTogether limit ns level hns with hfitsAll | hstop
        · exact .inl (List.forall_mem_cons.2 ⟨hfits, hfitsAll⟩)
        · exact .inr (hstop.cons hfits)
      · exact .inr hstop.append

end

/-! ## Programs and their tokens -/

mutual

theorem text_ne_of_mem_flatten : ∀ n : Node, ∀ t ∈ n.flatten, t.kind = .ident → t.text ≠ ""
  | program forms => text_ne_of_mem_flattenAll forms
  | number _ => by simp [flatten]
  | string _ => by simp [flatten]
  | other => by simp [flatten]
  | call op args => by
      have hargs := text_ne_of_mem_flattenAll args
      intro t ht hkind
      simp only [flatten, List.mem_cons, List.mem_append, List.not_mem_nil, or_false] at ht
      rcases ht with rfl | rfl | ht | rfl
      · contradiction
      · exact op.ne_empty
      · exact hargs t ht hkind
      · contradiction

theorem text_ne_of_mem_flattenAll :
    ∀ ns : List Node, ∀ t ∈ flattenAll ns, t.kind = .ident → t.text ≠ ""
  | [] => by simp [flattenAll]
  | n :: ns => by
      intro t ht
      rcases List.mem_append.1 ht with ht | ht
      · exact text_ne_of_mem_flatten n t ht
      · exact text_ne_of_mem_flattenAll ns t ht

end

theorem text_ne_of_canonical {ts : List Token} {tree : Node}
    (h : ts.map Token.canonical = tree.flatten) : ∀ t ∈ ts, t.kind = .ident → t.text ≠ "" := by
  intro t ht hkind
  have hsame : t.canonical = t := by
    obtain ⟨kind, text⟩ := t
    obtain rfl : kind = .ident := hkind
    rfl
  have hmem : t ∈ tree.flatten := by
    rw [← h, ← hsame]
    exact List.mem_map_of_mem ht
  exact text_ne_of_mem_flatten tree t hmem hkind

theorem StopsAt.exists_opener {limit : Int} {i : Nat} {ts : List Token}
    (h : StopsAt limit [] i (ts.map Token.canonical))
    (hts : ∀ t ∈ ts, t.kind = .ident → t.text ≠ "") :
    ∃ before opener after, ts = before ++ opener :: after ∧ opener.kind = .lparen ∧
      openers before = i ∧
      readForms limit {} ts = ⟨.error (.nestingTooDeep (some opener)), after⟩ := by
  obtain ⟨before, after, hsplit, hopeners, hread⟩ := h
  rw [readForms_canonical] at hread
  obtain ⟨f, rest, hread, hfault, hrest⟩ := Reading.exists_of_reword_eq_error hread
  obtain ⟨opener, rfl, hopener⟩ := ReadFault.nestingTooDeep_of_reword hfault
  rw [Token.reword_parens] at hrest hopener
  rcases readForms_error_cases OpenForm.named_empty hts hread with
    ⟨hend, -⟩ | ⟨before', t, rfl, hrefused⟩
  · simp at hend
  · obtain ⟨detail, hdetail⟩ := hrefused.diagnostic
    obtain ⟨-, rfl⟩ : "nesting too deep" = detail ∧ opener = t := by
      simpa [ReadFault.diagnostic?] using hdetail
    have hbefore : before'.map Token.canonical = before := by
      rw [List.map_append, List.map_cons, hrest] at hsplit
      exact (List.append_inj' hsplit rfl).1
    refine ⟨before', opener, rest, rfl, ?_, ?_, hread⟩
    · rw [← Token.kind_canonical, hopener]
      rfl
    · rw [← Token.openers_map_canonical, hbefore, hopeners]

theorem listing_of_fault {limit : Int} {forms : List Node} {n : Node}
    (hceiling : limit ≤ nestingCeiling)
    (h : (walkAll limit 1 forms).fault = some (.nestingTooDeep n)) (style : Style) :
    (program forms).listing style limit = .error (.nestingTooDeep n) := by
  have hwalk : ((program forms).walk limit 0).fault = some (.nestingTooDeep n) := by
    have hfree : (program forms).obstacle? limit 0 = none := rfl
    rw [walk, walkAround, hfree]
    exact (Emission.fault_within _ _ _).trans h
  rw [listing, Int.min_eq_left hceiling, hwalk]
  simp [hceiling]

theorem succeed_or_blame {maxDepth : Int} {ts : List Token} {tree : Node}
    (hread : ofTokens maxDepth ts = .ok tree) (style : Style) (limit : Int) :
    (ofTokens limit ts = .ok tree ∧ ∃ text, tree.listing style limit = .ok text) ∨
      ∃ before opener after op args, ts = before ++ opener :: after ∧ opener.kind = .lparen ∧
        readProgram limit ts = ⟨.error (.nestingTooDeep (some opener)), after⟩ ∧
        tree.calls[openers before]? = some (op, args) ∧
        tree.listing style limit = .error (.nestingTooDeep (.call op args)) := by
  obtain ⟨forms, hforms, rfl⟩ := ofTokens_eq_ok_iff.1 hread
  obtain ⟨hfits, hflat⟩ := readForms_eq_ok_iff.1 hforms
  by_cases hlimit : ∀ n ∈ forms, n.Fits (min limit nestingCeiling) 1
  · left
    exact ⟨ofTokens_eq_ok_iff.2 ⟨forms, readForms_eq_ok_iff.2 ⟨hlimit, hflat⟩, rfl⟩,
      _, listing_of_fits style limit hlimit⟩
  · right
    -- the program was read, so it is within the ceiling and only the limit can be in its way
    have hceiling : limit ≤ nestingCeiling := by
      by_contra hnot
      have hle : min maxDepth nestingCeiling ≤ nestingCeiling := Int.min_le_right _ _
      exact hlimit fun n hn => (hfits n hn).mono (Int.le_min.2 ⟨by omega, hle⟩)
    rw [Int.min_eq_left hceiling] at hlimit
    obtain ⟨i, op, args, hcall, hfault, hstops⟩ :=
      (fitsAll_or_stopTogether limit forms 1 (forall_fits_iff.1 hfits).1).resolve_left hlimit
    have hstop : StopsAt limit [] i (ts.map Token.canonical) := by
      rw [← hflat, ← List.append_nil (flattenAll forms)]
      exact hstops [] [] rfl
    have hspells : ts.map Token.canonical = (program forms).flatten := hflat.symm
    obtain ⟨before, opener, after, hsplit, hkind, rfl, hread⟩ :=
      hstop.exists_opener (text_ne_of_canonical hspells)
    refine ⟨before, opener, after, op, args, hsplit, hkind, ?_, hcall,
      listing_of_fault hceiling hfault style⟩
    rw [readProgram_eq, Int.min_eq_left hceiling, hread]
    simp [Reading.mapFault, Reading.map, Except.map, Except.mapError, ReadFault.reported, hceiling]

section OneLimit

variable {maxDepth : Int} {ts : List Token} {tree : Node}

theorem accepts_iff_exists_listing (hread : ofTokens maxDepth ts = .ok tree) (style : Style)
    (limit : Int) : Accepts limit ts ↔ ∃ text, tree.listing style limit = .ok text := by
  rcases succeed_or_blame hread style limit with
    ⟨haccepted, hlisted⟩ | ⟨before, opener, after, op, args, -, -, hstop, -, hlisting⟩
  · exact iff_of_true ⟨tree, haccepted⟩ hlisted
  · have hrefused : ofTokens limit ts = .error (.nestingTooDeep (some opener)) := by
      rw [ofTokens, hstop]
    refine iff_of_false ?_ ?_
    · rintro ⟨tree', htree'⟩
      simp [hrefused] at htree'
    · rintro ⟨text, htext⟩
      simp [hlisting] at htext

theorem blame_same_call (hread : ofTokens maxDepth ts = .ok tree) (style : Style) {limit : Int}
    {f : ReadFault} {cursor : Cursor Token}
    (hrun : Cursor.run { items := ts } (readProgram limit) = (.error f, cursor)) :
    ∃ k opener op args, cursor.pos = k + 1 ∧ ts[k]? = some opener ∧ opener.kind = .lparen ∧
      tree.calls[openers (ts.take k)]? = some (op, args) ∧ f = .nestingTooDeep (some opener) ∧
      tree.listing style limit = .error (.nestingTooDeep (.call op args)) := by
  rw [Cursor.run_mk] at hrun
  obtain ⟨houtcome, rfl⟩ := Prod.mk.inj hrun
  rcases succeed_or_blame hread style limit with
    ⟨haccepted, -⟩ | ⟨before, opener, after, op, args, rfl, hkind, hstop, hcall, hlisting⟩
  · rw [ofTokens, houtcome] at haccepted
    simp at haccepted
  · rw [hstop] at houtcome ⊢
    refine ⟨before.length, opener, op, args, ?_, ?_, hkind, ?_, ?_, hlisting⟩
    · simp only [List.length_append, List.length_cons]
      omega
    · simp
    · rw [List.take_left]
      exact hcall
    · exact (Except.error.inj houtcome).symm

end OneLimit

end Node

/-! ## Faults of a compilation -/

theorem ScanFault.phase_diagnostic (f : ScanFault) : f.diagnostic.phase = .lex := by
  unfold diagnostic
  cases f.cause <;> rfl

theorem ReadFault.phase_diagnostic {f : ReadFault} {d : Diagnostic} (h : f.diagnostic? = some d) :
    d.phase = .parse := by
  cases f with
  | emptyOperator => simp [diagnostic?] at h
  | _ =>
      obtain rfl := Option.some.inj h
      rfl

theorem ReadFault.isSome_diagnostic_reported (maxDepth : Int) (f : ReadFault) :
    (f.reported maxDepth).diagnostic?.isSome = f.diagnostic?.isSome := by
  unfold reported
  split
  · rfl
  · cases f <;> rfl

theorem Node.isSome_diagnostic_of_ofTokens {maxDepth : Int} {ts : List Token} {f : ReadFault}
    (hts : ∀ t ∈ ts, t.kind = .ident → t.text ≠ "") (h : ofTokens maxDepth ts = .error f) :
    f.diagnostic?.isSome := by
  obtain ⟨g, hg, rfl⟩ := ofTokens_eq_error_iff.1 h
  rw [ReadFault.isSome_diagnostic_reported]
  obtain ⟨rest, hread⟩ : ∃ rest, readForms (min maxDepth nestingCeiling) {} ts = ⟨.error g, rest⟩ :=
    ⟨_, by rw [← hg]⟩
  rcases readForms_error_cases OpenForm.named_empty hts hread with ⟨rfl, -⟩ | ⟨_, _, -, hrefused⟩
  · rfl
  · obtain ⟨detail, hdetail⟩ := hrefused.diagnostic
    simp [hdetail]

theorem Token.WellFormed.text_ne {t : Token} (h : t.WellFormed) (hkind : t.kind = .ident) :
    t.text ≠ "" := by
  obtain ⟨kind, text⟩ := t
  subst hkind
  exact ((wellFormed_run rfl).1 h).1

theorem phase_of_compile_error {options : CompileOptions} {source : String} {fault : Fault}
    (h : compile options source = .error fault) :
    ∃ d, fault.diagnostic? = some d ∧ (d.phase = .lex ∨ d.phase = .parse) := by
  rcases compile_eq_error_iff.1 h with ⟨f, -, rfl⟩ | ⟨ts, f, htokens, hread, rfl⟩
  · exact ⟨_, rfl, .inl f.phase_diagnostic⟩
  · obtain ⟨hwf, -⟩ := Token.layout_of_tokens (tokenize_eq_ok.1 htokens)
    have hsome := Node.isSome_diagnostic_of_ofTokens (fun t ht => (hwf t ht).text_ne) hread
    obtain ⟨d, hd⟩ := Option.isSome_iff_exists.1 hsome
    exact ⟨d, hd, .inr (ReadFault.phase_diagnostic hd)⟩

open CommandLine Settings

/-- The reader and the generator hold calls to one limit. On the tokens of a program and on the
program they succeed together, and where they fail both blame the same call, the reader just past
its opening parenthesis. So every compilation that fails says that it failed in the scanner or in
the reader, and a run that dumps the tree of a source succeeds exactly if compiling it does. -/
theorem depth_limits_agree :
    (∀ (maxDepth : Int) (ts : List Token) (tree : Node), Node.ofTokens maxDepth ts = .ok tree →
      ∀ (style : Style) (limit : Int),
        (Node.Accepts limit ts ↔ ∃ text, tree.listing style limit = .ok text) ∧
        ∀ f cursor, Cursor.run { items := ts } (Node.readProgram limit) = (.error f, cursor) →
          ∃ k opener op args g, cursor.pos = k + 1 ∧ ts[k]? = some opener ∧
            opener.kind = .lparen ∧ tree.calls[openers (ts.take k)]? = some (op, args) ∧
            f.diagnostic? = some ⟨"nesting too deep", .token (some opener)⟩ ∧
            tree.listing style limit = .error g ∧
            g.diagnostic = ⟨"nesting too deep", .node (some (.call op args))⟩) ∧
    (∀ (options : CompileOptions) (source : String),
      (∃ listing, compile options source = .ok listing) ∨
        ∃ fault d, compile options source = .error fault ∧ fault.diagnostic? = some d ∧
          (d.phase = .lex ∨ d.phase = .parse)) ∧
    ∀ (σ : Type) (host : Host (StateM σ)) (disk : σ) (dumping plain : List String)
      (s s' : Settings), ofArguments dumping = .ok s → ofArguments plain = .ok s' →
      s.SameTask s' → s.tokens = false → s'.tokens = false → s.ast = true → s'.ast = false →
      given s'.output = none →
      (((run host dumping).run disk).1.ending = .exit 0 ↔
        ((run host plain).run disk).1.ending = .exit 0) := by
  refine ⟨?_, ?_, ?_⟩
  · intro maxDepth ts tree hread style limit
    refine ⟨Node.accepts_iff_exists_listing hread style limit, fun f cursor hrun => ?_⟩
    obtain ⟨k, opener, op, args, hpos, hopener, hkind, hcall, rfl, hlisting⟩ :=
      Node.blame_same_call hread style hrun
    exact ⟨k, opener, op, args, _, hpos, hopener, hkind, hcall, rfl, hlisting, rfl⟩
  · intro options source
    cases hcompile : compile options source with
    | ok listing => exact .inl ⟨listing, rfl⟩
    | error fault =>
        obtain ⟨d, hd, hphase⟩ := phase_of_compile_error hcompile
        exact .inr ⟨fault, d, rfl, hd, hphase⟩
  · intro σ host disk dumping plain s s' hs hs' hsame htokens htokens' hast _ houtput
    rw [hsame.ending_run_eq ⟨htokens, .inl hast⟩ ⟨htokens', .inr houtput⟩ hs hs' disk]

/-- The tokens of `(f (g))`. -/
def nestedCalls : List Token :=
  [.lparen, ⟨.ident, "f"⟩, .lparen, ⟨.ident, "g"⟩, .rparen, .rparen]

theorem depth_limits_agree_nestedCalls :
    (∃ tree, Node.ofTokens 2 nestedCalls = .ok tree ∧ ∃ op args g,
      tree.calls[1]? = some (op, args) ∧ tree.listing {} 1 = .error g ∧
      g.diagnostic = ⟨"nesting too deep", .node (some (.call op args))⟩) ∧
    ((run (FileTree.host "") ["-e", "(f (g))", "--max-depth=2"]).run {}).1.ending = .exit 0 := by
  obtain ⟨hagree, -, hruns⟩ := depth_limits_agree
  constructor
  · have hrun : Cursor.run { items := nestedCalls } (Node.readProgram 1) =
        (.error (.nestingTooDeep (some .lparen)), { items := nestedCalls, pos := 3 }) := rfl
    obtain ⟨k, opener, op, args, g, hpos, -, -, hcall, -, hlisting, hg⟩ :=
      (hagree 2 nestedCalls _ rfl {} 1).2 _ _ hrun
    obtain rfl : k = 2 := by simpa using hpos.symm
    exact ⟨_, rfl, op, args, g, hcall, hlisting, hg⟩
  · let s : Settings := { expr := some { text := "(f (g))" }, maxDepth := some 2 }
    have hdumping : Settings.ofArguments ["--ast", "--max-depth", "2", "-e", "(f (g))"] =
        .ok { s with ast := true } := by decide +kernel
    have hplain : Settings.ofArguments ["-e", "(f (g))", "--max-depth=2"] = .ok s := by
      decide +kernel
    refine (hruns FileTree (FileTree.host "") {} _ _ _ s hdumping hplain
      ⟨rfl, rfl, rfl, rfl, rfl⟩ rfl rfl rfl rfl rfl).1 ?_
    decide +kernel

end SexprAsm
