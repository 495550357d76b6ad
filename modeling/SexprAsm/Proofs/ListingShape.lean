import SexprAsm.Proofs.EndToEnd
import Mathlib.Tactic.Tauto

/-!
# The shape of listings

Between header and footer a listing has only three kinds of lines: mnemonics in capitals, pushes of
numerals, and the blank lines of empty emissions. No line has a line end in it, so a listing can be
cut into its lines again.
-/

namespace SexprAsm

/-- The lines that stand between the header and the footer of a listing. -/
inductive BodyLine (indent : String) (keepBlankLines : Bool) : String → Prop
  | blank (hkeep : keepBlankLines = true) : BodyLine indent keepBlankLines ""
  | push {digits : String} (hne : digits ≠ "") (hdigits : ∀ c ∈ digits.toList, c.isDigit = true) :
      BodyLine indent keepBlankLines (indent ++ ("PUSH #" ++ digits))
  | mnemonic {name : String} (hne : name ≠ "") (hupper : ∀ c ∈ name.toList, c.isUpper = true) :
      BodyLine indent keepBlankLines (indent ++ name)

theorem Style.bodyLine_of_mem_gapLines {style : Style} {line : String}
    (h : line ∈ style.gapLines) : BodyLine style.profile.indent style.keepBlankLines line := by
  unfold gapLines at h
  split at h
  · next hkeep =>
      obtain rfl : line = "" := by simpa using h
      exact .blank hkeep
  · simp at h

namespace Node

mutual

theorem bodyLine_of_mem_postorder (style : Style) :
    ∀ (n : Node), n.SourceForm → ∀ line ∈ n.postorder style,
      BodyLine style.profile.indent style.keepBlankLines line
  | program _, h, _, _ => h.elim
  | other, h, _, _ => h.elim
  | number digits, h, line, hline => by
      obtain hgap | rfl : line ∈ style.gapLines ∨ line = style.indented ("PUSH #" ++ digits) := by
        simpa [postorder] using hline
      · exact Style.bodyLine_of_mem_gapLines hgap
      · exact .push h.1 h.2
  | string _, _, line, hline => by
      have hgap : line ∈ style.gapLines := by simpa [postorder] using hline
      exact Style.bodyLine_of_mem_gapLines hgap
  | call op args, h, line, hline => by
      obtain hgap | hargs | rfl : line ∈ style.gapLines ∨ line ∈ postorderAll style args ∨
          line = style.indented (Text.uppercase op.text) := by
        simpa [postorder] using hline
      · exact Style.bodyLine_of_mem_gapLines hgap
      · exact bodyLine_of_mem_postorderAll style args h.2 line hargs
      · exact .mnemonic (Text.uppercase_ne_empty_of_ne op.ne_empty)
          fun _ => Text.isUpper_of_mem_uppercase h.1

theorem bodyLine_of_mem_postorderAll (style : Style) :
    ∀ (ns : List Node), SourceForms ns → ∀ line ∈ postorderAll style ns,
      BodyLine style.profile.indent style.keepBlankLines line
  | [], _, _, hline => by simp [postorderAll] at hline
  | n :: ns, h, line, hline => by
      obtain hn | hns : line ∈ n.postorder style ∨ line ∈ postorderAll style ns := by
        simpa [postorderAll] using hline
      · exact bodyLine_of_mem_postorder style n h.1 line hn
      · exact bodyLine_of_mem_postorderAll style ns h.2 line hns

end

end Node

/-! ## No line ends within lines -/

theorem BodyLine.newline_not_mem {indent line : String} {keepBlankLines : Bool}
    (h : BodyLine indent keepBlankLines line) (hindent : '\n' ∉ indent.toList) :
    '\n' ∉ line.toList := by
  cases h with
  | blank => simp
  | push hne hdigits =>
      have hnot : '\n' ∉ _ := fun hmem => absurd (hdigits '\n' hmem) (by decide)
      simpa [hindent] using hnot
  | mnemonic hne hupper =>
      have hnot : '\n' ∉ _ := fun hmem => absurd (hupper '\n' hmem) (by decide)
      simpa [hindent] using hnot

theorem Style.frame_cases {style : Style} {line : String}
    (h : line ∈ style.headerLines ++ style.footerLines) :
    line = style.indented "START" ∨ line = style.indented "HALT" ∨
      line = ";; Begin program code" ∨ line = ";; exit program" := by
  cases hcomments : style.profile.comments with
  | false =>
      obtain rfl | rfl : line = style.indented "START" ∨ line = style.indented "HALT" := by
        simpa [headerLines, footerLines, remarkLines, hcomments] using h
      · exact .inl rfl
      · exact .inr (.inl rfl)
  | true =>
      have hlines : line = ";; Begin program code" ∨ line = style.indented "START" ∨
          line = ";; exit program" ∨ line = style.indented "HALT" := by
        simpa [headerLines, footerLines, remarkLines, hcomments] using h
      tauto

theorem Style.newline_not_mem_frame {style : Style}
    (hindent : '\n' ∉ style.profile.indent.toList) :
    ∀ line ∈ style.headerLines ++ style.footerLines, '\n' ∉ line.toList := by
  intro line hline
  rcases Style.frame_cases hline with rfl | rfl | rfl | rfl
  · simp [indented, hindent]
  · simp [indented, hindent]
  · decide
  · decide

theorem Node.newline_not_mem_postorder {style : Style}
    (hindent : '\n' ∉ style.profile.indent.toList) {forms : List Node}
    (hforms : SourceForms forms) :
    ∀ line ∈ (program forms).postorder style, '\n' ∉ line.toList := by
  intro line hline
  obtain hframe | hbody : line ∈ style.headerLines ++ style.footerLines ∨
      line ∈ postorderAll style forms := by
    simp only [postorder, List.mem_append] at hline ⊢
    tauto
  · exact Style.newline_not_mem_frame hindent line hframe
  · exact (bodyLine_of_mem_postorderAll style forms hforms line hbody).newline_not_mem hindent

end SexprAsm
