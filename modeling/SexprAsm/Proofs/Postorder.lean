import SexprAsm.Listing.Generator
import SexprAsm.Proofs.Flatten
import SexprAsm.Proofs.TextLines

/-!
# Post-order listings

The listing of a program, written down directly: the header, the lines of the forms in order, and
the footer. The lines of a call are those of its arguments followed by its mnemonic. A tree that
fits the limit is walked to its end, and the walk emits these lines.
-/

namespace SexprAsm

namespace Style

/-- The line of an empty emission, if the style keeps such lines. -/
def gapLines (style : Style) : List String :=
  if style.keepBlankLines then [""] else []

def remarkLines (style : Style) (text : String) : List String :=
  if style.profile.comments then [";; " ++ text] else []

def indented (style : Style) (text : String) : String :=
  style.profile.indent ++ text

def headerLines (style : Style) : List String :=
  style.remarkLines "Begin program code" ++ [style.indented "START"]

def footerLines (style : Style) : List String :=
  style.remarkLines "exit program" ++ [style.indented "HALT"]

end Style

namespace Node

mutual

/-- The lines of a tree, operands before their operator. -/
def postorder (style : Style) : Node → List String
  | program forms => style.headerLines ++ postorderAll style forms ++ style.footerLines
  | call op args =>
    style.gapLines ++ postorderAll style args ++ [style.indented (Text.uppercase op.text)]
  | number digits => style.gapLines ++ [style.indented ("PUSH #" ++ digits)]
  | string _ => style.gapLines ++ style.gapLines
  | other => []

def postorderAll (style : Style) : List Node → List String
  | [] => []
  | n :: ns => postorder style n ++ postorderAll style ns

end

theorem postorderAll_append (style : Style) (xs ys : List Node) :
    postorderAll style (xs ++ ys) = postorderAll style xs ++ postorderAll style ys := by
  induction xs with
  | nil => rfl
  | cons x xs ih => rw [List.cons_append, postorderAll, postorderAll, ih, List.append_assoc]

end Node

/-! ## Writing lines -/

namespace Style

variable (style : Style)

theorem writeLines_append (xs ys : List Line) :
    style.writeLines (xs ++ ys) = style.writeLines xs ++ style.writeLines ys :=
  List.filterMap_append

theorem writeLines_blank : style.writeLines [.blank] = style.gapLines := by
  cases h : style.keepBlankLines <;> simp [writeLines, writeLine, gapLines, h]

theorem writeLines_instruction (i : Instruction) :
    style.writeLines [.instruction i] = [style.indented i.text] := by
  simp [writeLines, writeLine, indented]

theorem writeLines_remark (text : String) (i : Instruction) :
    style.writeLines [.comment text, .instruction i] =
      style.remarkLines text ++ [style.indented i.text] := by
  cases h : style.profile.comments <;>
    simp [writeLines, writeLine, remarkLines, indented, h]

end Style

/-! ## Walking to the end -/

theorem Emission.within_of_done {inner : Emission} (h : inner.fault = none)
    (enter leave : List Line) :
    within enter inner leave = { lines := enter ++ inner.lines ++ leave } := by
  simp [within, andThen, h]

theorem Emission.andThen_of_done {first : Emission} (h : first.fault = none) (second : Emission) :
    first.andThen second = { second with lines := first.lines ++ second.lines } := by
  simp [andThen, h]

theorem Emission.fault_andThen (first second : Emission) :
    (first.andThen second).fault = first.fault.or second.fault := by
  cases h : first.fault <;> simp [andThen, h]

theorem Emission.fault_within (enter : List Line) (inner : Emission) (leave : List Line) :
    (within enter inner leave).fault = inner.fault := by
  rw [within, fault_andThen, fault_andThen]
  simp

namespace Node

mutual

theorem walk_of_fits (style : Style) (limit : Int) :
    ∀ (n : Node) (level : Nat), n.Fits limit level →
      (n.walk limit level).fault = none ∧
        style.writeLines (n.walk limit level).lines = n.postorder style
  | program _, _, h => by simp [Fits, isForm] at h
  | other, _, h => by simp [Fits, isForm] at h
  | number digits, level, _ => by
      refine ⟨rfl, ?_⟩
      change style.writeLines ([.blank] ++ ([] ++ [.instruction (.push digits)])) = _
      simp only [List.nil_append, style.writeLines_append, style.writeLines_blank,
        style.writeLines_instruction]
      rfl
  | string _, level, _ => by
      refine ⟨rfl, ?_⟩
      change style.writeLines ([.blank] ++ ([] ++ [.blank])) = _
      simp only [List.nil_append, style.writeLines_append, style.writeLines_blank]
      rfl
  | call op args, level, h => by
      obtain ⟨hlevel, hargs⟩ := fits_call_iff.1 h
      obtain ⟨hdone, hlines⟩ := walkAll_of_fits style limit args (level + 1) hargs
      push_cast at hdone hlines
      have hfree : (call op args).obstacle? limit level = none := by
        simp [obstacle?, Int.not_lt.2 hlevel]
      rw [walk, walkAround, hfree, Emission.within_of_done hdone]
      refine ⟨rfl, ?_⟩
      simp only [style.writeLines_append, hlines, enterLines, leaveLines, style.writeLines_blank,
        style.writeLines_instruction, postorder, Instruction.text]

theorem walkAll_of_fits (style : Style) (limit : Int) :
    ∀ (ns : List Node) (level : Nat), (∀ n ∈ ns, n.Fits limit level) →
      (walkAll limit level ns).fault = none ∧
        style.writeLines (walkAll limit level ns).lines = postorderAll style ns
  | [], _, _ => ⟨rfl, rfl⟩
  | n :: ns, level, h => by
      obtain ⟨hn, hns⟩ := List.forall_mem_cons.1 h
      obtain ⟨hdone, hlines⟩ := walk_of_fits style limit n level hn
      obtain ⟨hdone', hlines'⟩ := walkAll_of_fits style limit ns level hns
      rw [walkAll, Emission.andThen_of_done hdone]
      refine ⟨hdone', ?_⟩
      rw [style.writeLines_append, hlines, hlines', postorderAll]

end

/-- The listing of a program whose forms fit is its post-order listing. -/
theorem listing_of_fits (style : Style) (maxDepth : Int) {forms : List Node}
    (h : ∀ n ∈ forms, n.Fits (min maxDepth nestingCeiling) 1) :
    (program forms).listing style maxDepth =
      .ok (Text.endLines ((program forms).postorder style)) := by
  obtain ⟨hdone, hlines⟩ := walkAll_of_fits style _ forms 1 h
  have hwalk : (program forms).walk (min maxDepth nestingCeiling) 0 =
      { lines := (program forms).enterLines ++
          (walkAll (min maxDepth nestingCeiling) 1 forms).lines ++
          (program forms).leaveLines } := by
    have hfree : (program forms).obstacle? (min maxDepth nestingCeiling) 0 = none := rfl
    rw [walk, walkAround, hfree]
    exact Emission.within_of_done hdone _ _
  have hwritten : style.writeLines ((program forms).walk (min maxDepth nestingCeiling) 0).lines =
      (program forms).postorder style := by
    rw [hwalk]
    simp only [style.writeLines_append, enterLines, leaveLines, style.writeLines_remark]
    rw [postorder, ← hlines]
    rfl
  have hne : (program forms).postorder style ≠ [] := by
    simp [postorder, Style.headerLines]
  rw [listing, Style.write, hwritten, Text.joinLines_newline hne, hwalk]

end Node

end SexprAsm
