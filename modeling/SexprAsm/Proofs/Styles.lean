import SexprAsm.Proofs.CharClass
import SexprAsm.Proofs.Traversal
import Mathlib.Tactic.Ring

/-!
# One walk, several styles

A style has no part in where a visit goes and where it stops. It only decides how each line is
written, and whether it is written at all. So two styles can be compared line by line: keeping blank
lines adds a line for each empty emission and nothing else, and the two profiles differ in comments
and indentation.
-/

namespace SexprAsm

theorem Node.Event.text_ne_of_mem_lines {e : Node.Event} {i : Instruction}
    (h : .instruction i ∈ e.lines) : i.text ≠ "" := by
  cases e with
  | enter o =>
      obtain ⟨n, k⟩ := o
      cases n with
      | program forms =>
          obtain rfl : i = .start := by simpa [lines, enterLines] using h
          decide
      | _ => simp [lines, enterLines] at h
  | leave n =>
      cases n with
      | program forms =>
          obtain rfl : i = .halt := by simpa [lines, leaveLines] using h
          decide
      | call op args =>
          obtain rfl : i = .apply op.text := by simpa [lines, leaveLines] using h
          exact Text.uppercase_ne_empty_of_ne op.ne_empty
      | number digits =>
          obtain rfl : i = .push digits := by simpa [lines, leaveLines] using h
          simp [Instruction.text]
      | _ => simp [lines, leaveLines] at h

/-! ## Counting lines -/

namespace Node

mutual

/-- Each node is entered once and left once. -/
theorem sum_events (weight : Event → Nat) :
    ∀ (n : Node) (k : Nat), ((n.events k).map weight).sum =
      ((n.preorder k).map fun o => weight (.enter o) + weight (.leave o.node)).sum
  | program forms, k => by
      simp only [events, preorder, List.map_cons, List.map_append, List.sum_cons, List.sum_append,
        sum_eventsAll weight forms (k + 1), List.map_nil, List.sum_nil]
      omega
  | call op args, k => by
      simp only [events, preorder, List.map_cons, List.map_append, List.sum_cons, List.sum_append,
        sum_eventsAll weight args (k + 1), List.map_nil, List.sum_nil]
      omega
  | number digits, k => by simp [events, preorder]
  | string text, k => by simp [events, preorder]
  | other, k => by simp [events, preorder]

theorem sum_eventsAll (weight : Event → Nat) :
    ∀ (ns : List Node) (k : Nat), ((eventsAll k ns).map weight).sum =
      ((preorderAll k ns).map fun o => weight (.enter o) + weight (.leave o.node)).sum
  | [], _ => rfl
  | n :: ns, k => by
      rw [eventsAll, preorderAll, List.map_append, List.map_append, List.sum_append,
        List.sum_append, sum_events weight n k, sum_eventsAll weight ns k]

end

def count (k : Kind) (n : Node) : Nat :=
  (n.preorder 0).countP (·.node.kind = k)

def lines (n : Node) : List Line :=
  (n.events 0).flatMap Event.lines

theorem countP_lines {p : Line → Bool} (weight : Kind → Nat) {n : Node}
    (h : ∀ o ∈ n.preorder 0,
      o.node.enterLines.countP p + o.node.leaveLines.countP p = weight o.node.kind) :
    n.lines.countP p = weight .program * n.count .program + weight .call * n.count .call +
      weight .number * n.count .number + weight .string * n.count .string +
      weight .other * n.count .other := by
  have hsum : n.lines.countP p = ((n.preorder 0).map fun o => weight o.node.kind).sum := by
    rw [lines, List.countP_flatMap]
    refine (sum_events _ n 0).trans ?_
    exact congrArg List.sum (List.map_congr_left h)
  rw [hsum]
  unfold count
  generalize n.preorder 0 = os
  clear h hsum
  induction os with
  | nil => rfl
  | cons o os ih =>
      rw [List.map_cons, List.sum_cons, ih]
      cases hkind : o.node.kind <;> simp [hkind] <;> ring

/-- Every style has the same lines to write, unless a node offends, and then the same fault stops
the visit. -/
theorem visitFrom_any_style (limit depth : Int) (n : Node) :
    (∃ o ∈ n.preorder 0, o.Offends limit depth) ∧
        (∃ fault, ∀ style, (n.visitFrom [] style limit depth).1 = .error fault) ∨
      n.count .other = 0 ∧
        ∀ style, n.visitFrom [] style limit depth = (.ok (), style.writeLines n.lines) := by
  have hplays := plays_walk limit depth n
  simp only [visitFrom_eq, ← entered_events]
  generalize n.walk limit depth = walked at hplays
  cases hplays with
  | done hnone =>
      refine .inr ⟨?_, fun style => rfl⟩
      rw [count, ← entered_events, List.countP_eq_zero]
      intro o ho hother
      exact hnone o ho (.inl (by simpa using hother))
  | stopped earlier later o fault hsplit _ hfault =>
      rw [hsplit]
      have hmem := Event.mem_entered_split earlier later o
      exact .inl ⟨⟨o, hmem, Occurrence.offends_of_obstacle? hfault⟩, fault, fun style => rfl⟩

theorem text_ne_of_mem_lines {n : Node} {i : Instruction} (h : .instruction i ∈ n.lines) :
    i.text ≠ "" := by
  obtain ⟨e, -, he⟩ := List.mem_flatMap.1 h
  exact e.text_ne_of_mem_lines he

end Node

/-! ## Blank lines -/

namespace Style

variable (profile : Profile) (lines : List Line)

theorem filter_writeLines_keep (h : ∀ i, .instruction i ∈ lines → i.text ≠ "") :
    (writeLines { profile, keepBlankLines := true } lines).filter (· ≠ "") =
      writeLines { profile, keepBlankLines := false } lines := by
  rw [writeLines, List.filter_filterMap]
  apply List.filterMap_congr
  intro line hline
  cases line with
  | blank => simp [writeLine]
  | comment text =>
      cases hcomments : profile.comments <;> simp [writeLine, hcomments, Option.filter]
  | instruction i => simp [writeLine, Option.filter, h i hline]

theorem length_writeLines_keep :
    (writeLines { profile, keepBlankLines := true } lines).length =
      (writeLines { profile, keepBlankLines := false } lines).length +
        lines.countP (· = .blank) := by
  induction lines with
  | nil => rfl
  | cons line lines ih =>
      simp only [writeLines] at ih
      cases line with
      | blank =>
          simp [writeLines, writeLine, ih]
          omega
      | comment text =>
          cases hcomments : profile.comments <;> simp [writeLines, writeLine, hcomments, ih]
          omega
      | instruction i =>
          simp [writeLines, writeLine, ih]
          omega

end Style

namespace Node

/-- The empty emissions of a node of that kind. -/
def Kind.gaps : Kind → Nat
  | program => 0
  | call => 1
  | number => 1
  | string => 2
  | other => 2

theorem countP_blank_lines {n : Node} (h : n.count .other = 0) :
    n.lines.countP (· = .blank) = n.count .call + n.count .number + 2 * n.count .string := by
  rw [countP_lines Kind.gaps, h]
  · simp only [Kind.gaps]
    omega
  · rintro ⟨m, k⟩ -
    cases m <;> rfl

/-- Whether a visit is stopped, and by what, does not depend on blank lines being kept. Keeping
them adds blank lines and nothing else: one for each call, one for each number and two for each
string. -/
theorem blank_lines_only_added (profile : Profile) (limit depth : Int) (n : Node) :
    let padded := n.visitFrom [] { profile, keepBlankLines := true } limit depth
    let plain := n.visitFrom [] { profile, keepBlankLines := false } limit depth
    (∃ o ∈ n.preorder 0, o.Offends limit depth) ∧
        (∃ fault, padded.1 = .error fault ∧ plain.1 = .error fault) ∨
      padded.1 = .ok () ∧ plain.1 = .ok () ∧
      padded.2.filter (· ≠ "") = plain.2 ∧ "" ∉ plain.2 ∧
      padded.2.length =
        plain.2.length + (n.count .call + n.count .number + 2 * n.count .string) := by
  intro padded plain
  rcases visitFrom_any_style limit depth n with
    ⟨hoffends, fault, hfault⟩ | ⟨hother, hvisit⟩
  · exact .inl ⟨hoffends, fault, hfault _, hfault _⟩
  · right
    have hpadded : padded = _ := hvisit _
    have hplain : plain = _ := hvisit _
    have hfilter := Style.filter_writeLines_keep profile n.lines fun _ => text_ne_of_mem_lines
    rw [hpadded, hplain]
    refine ⟨rfl, rfl, hfilter, ?_, ?_⟩
    · rw [← hfilter]
      simp
    · rw [Style.length_writeLines_keep, countP_blank_lines hother]

end Node

/-! ## Profiles -/

def Line.isComment : Line → Bool
  | comment _ => true
  | _ => false

def Text.isComment (line : String) : Bool :=
  ";;".toList.isPrefixOf line.toList

/-- A line without the first two of its characters, if it is not blank. -/
def Text.unindent (line : String) : String :=
  if line = "" then line else String.ofList (line.toList.drop 2)

namespace Text

theorem isComment_comment (text : String) : isComment (";; " ++ text) = true := by
  simp [isComment, List.isPrefixOf]

theorem isComment_indented (text : String) : isComment ("\t\t" ++ text) = false := by
  simp [isComment, List.isPrefixOf]

theorem unindent_indented (text : String) : unindent ("\t\t" ++ text) = text := by
  simp [unindent]

end Text

namespace Style

variable (keepBlankLines : Bool) (lines : List Line)

theorem map_unindent_writeLines :
    ((writeLines { profile := .zee, keepBlankLines } lines).filter
        (!Text.isComment ·)).map Text.unindent =
      writeLines { profile := .bare, keepBlankLines } lines := by
  rw [writeLines, List.filter_filterMap, List.map_filterMap]
  apply List.filterMap_congr
  intro line _
  cases line with
  | blank => cases keepBlankLines <;> rfl
  | comment text => simp [writeLine, Profile.zee, Profile.bare, Option.filter,
      Text.isComment_comment]
  | instruction i => simp [writeLine, Profile.zee, Profile.bare, Option.filter,
      Text.isComment_indented, Text.unindent_indented]

theorem indented_of_mem_writeLines {keepBlankLines : Bool} {lines : List Line}
    (h : ∀ i, .instruction i ∈ lines → i.text ≠ "") {written : String}
    (hwritten : written ∈ writeLines { profile := .zee, keepBlankLines } lines)
    (hcode : Text.isComment written = false) :
    written = "" ∨ ∃ text, text ≠ "" ∧ written = "\t\t" ++ text := by
  obtain ⟨line, hline, hwrite⟩ := List.mem_filterMap.1 hwritten
  cases line with
  | blank =>
      obtain ⟨-, rfl⟩ : keepBlankLines = true ∧ "" = written := by simpa [writeLine] using hwrite
      exact .inl rfl
  | comment text =>
      obtain rfl : ";; " ++ text = written := by simpa [writeLine, Profile.zee] using hwrite
      rw [Text.isComment_comment] at hcode
      contradiction
  | instruction i => exact .inr ⟨i.text, h i hline, (Option.some.inj hwrite).symm⟩

theorem countP_isComment_writeLines :
    (writeLines { profile := .zee, keepBlankLines } lines).countP Text.isComment =
      lines.countP Line.isComment := by
  rw [writeLines, List.countP_filterMap]
  apply List.countP_congr
  intro line _
  cases line with
  | blank => cases keepBlankLines <;> decide
  | comment text => simp [writeLine, Profile.zee, Line.isComment, Text.isComment_comment]
  | instruction i => simp [writeLine, Profile.zee, Line.isComment, Text.isComment_indented]

end Style

namespace Node

def Kind.remarks : Kind → Nat
  | program => 2
  | _ => 0

theorem countP_comment_lines (n : Node) :
    n.lines.countP Line.isComment = 2 * n.count .program := by
  rw [countP_lines Kind.remarks]
  · simp only [Kind.remarks]
    omega
  · rintro ⟨m, k⟩ -
    cases m <;> rfl

/-- The two profiles differ in layout only, and neither stops a visit that the other lets through.
Without its comments, of which each program has two, and without the two tabs before each line that
is not blank, a listing for one is a listing for the other. -/
theorem profiles_differ_in_layout (keepBlankLines : Bool) (limit depth : Int) (n : Node) :
    let zee := n.visitFrom [] { profile := .zee, keepBlankLines } limit depth
    let bare := n.visitFrom [] { profile := .bare, keepBlankLines } limit depth
    let code := zee.2.filter (!Text.isComment ·)
    (∃ o ∈ n.preorder 0, o.Offends limit depth) ∧
        (∃ fault, zee.1 = .error fault ∧ bare.1 = .error fault) ∨
      zee.1 = .ok () ∧ bare.1 = .ok () ∧
      (∀ line ∈ code, line = "" ∨ ∃ text, text ≠ "" ∧ line = "\t\t" ++ text) ∧
      code.map Text.unindent = bare.2 ∧
      (∀ i : Nat, code[i]? = some "" ↔ bare.2[i]? = some "") ∧
      zee.2.countP Text.isComment = 2 * n.count .program := by
  intro zee bare code
  rcases visitFrom_any_style limit depth n with ⟨hoffends, fault, hfault⟩ | ⟨-, hvisit⟩
  · exact .inl ⟨hoffends, fault, hfault _, hfault _⟩
  right
  have hzee : zee = _ := hvisit _
  have hbare : bare = _ := hvisit _
  have hindented : ∀ line ∈ code, line = "" ∨ ∃ text, text ≠ "" ∧ line = "\t\t" ++ text := by
    intro line hline
    obtain ⟨hwritten, hcode⟩ := List.mem_filter.1 hline
    rw [hzee] at hwritten
    exact Style.indented_of_mem_writeLines (fun _ => text_ne_of_mem_lines) hwritten
      (by simpa using hcode)
  have hmap : code.map Text.unindent = bare.2 := by
    show (zee.2.filter (!Text.isComment ·)).map Text.unindent = bare.2
    rw [hzee, hbare]
    exact Style.map_unindent_writeLines keepBlankLines n.lines
  refine ⟨by rw [hzee], by rw [hbare], hindented, hmap, ?_, ?_⟩
  · intro i
    rw [← hmap, List.getElem?_map]
    cases hline : code[i]? with
    | none => simp
    | some line =>
        rcases hindented line (List.mem_of_getElem? hline) with rfl | ⟨text, hne, rfl⟩
        · simp [Text.unindent]
        · simp [Text.unindent_indented, hne]
  · rw [hzee, Style.countP_isComment_writeLines, countP_comment_lines]

/-- A call of `;;x` on a number, and after it a program that holds a string. -/
def programInside : Node :=
  program [call ⟨";;x", by decide⟩ [number "1"], program [string "s"]]

theorem profiles_differ_in_layout_programInside :
    let zee := programInside.visitFrom [] { profile := .zee, keepBlankLines := true } 9 0
    let bare := programInside.visitFrom [] { profile := .bare, keepBlankLines := true } 9 0
    let code := zee.2.filter (!Text.isComment ·)
    bare.2 = ["START", "", "", "PUSH #1", ";;X", "START", "", "", "HALT", "HALT"] ∧
      "\t\t;;X" ∈ code ∧ (∃ text, text ≠ "" ∧ "\t\t;;X" = "\t\t" ++ text) ∧
      code.map Text.unindent = bare.2 ∧ code[2]? = some "" ∧ zee.2.countP Text.isComment = 4 := by
  intro zee bare code
  have hbare : bare.2 = ["START", "", "", "PUSH #1", ";;X", "START", "", "", "HALT", "HALT"] := by
    decide +kernel
  have hmem : "\t\t;;X" ∈ code := by decide +kernel
  rcases profiles_differ_in_layout true 9 0 programInside with
    ⟨-, fault, hzee, -⟩ | ⟨-, -, hindented, hmap, hblank, hcount⟩
  · have hok : zee.1 = .ok () := by decide +kernel
    rw [hok] at hzee
    contradiction
  · refine ⟨hbare, hmem, (hindented _ hmem).resolve_left (by decide), hmap, ?_, ?_⟩
    · exact (hblank 2).2 (by rw [hbare]; rfl)
    · rw [hcount]
      decide +kernel

end Node

end SexprAsm
