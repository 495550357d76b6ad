import SexprAsm.Text.Newline
import Mathlib.Algebra.Order.Ring.Nat

/-!
# Lines of texts

Lines are made into a text by a line end between each two of them, or by one after each. If there
are no line ends within the lines, the text can be split into the same lines again.
-/

namespace SexprAsm.Text

/-- The lines as a text, each with its line end. -/
def endLines (lines : List String) : String :=
  String.join (lines.map (· ++ "\n"))

theorem toList_endLines_cons (line : String) (lines : List String) :
    (endLines (line :: lines)).toList = line.toList ++ '\n' :: (endLines lines).toList := by
  simp [endLines]

theorem mem_endLines {lines : List String} {c : Char} (h : c ∈ (endLines lines).toList) :
    c = '\n' ∨ ∃ line ∈ lines, c ∈ line.toList := by
  induction lines with
  | nil => simp [endLines] at h
  | cons line lines ih =>
      rw [toList_endLines_cons] at h
      simp only [List.mem_append, List.mem_cons] at h
      rcases h with hline | rfl | hlines
      · exact .inr ⟨line, by simp, hline⟩
      · exact .inl rfl
      · rcases ih hlines with hend | ⟨other, hother, hc⟩
        · exact .inl hend
        · exact .inr ⟨other, by simp [hother], hc⟩

theorem joinLines_cons {lines : List String} (h : lines ≠ []) (line : String) :
    (joinLines (line :: lines)).toList = line.toList ++ '\n' :: (joinLines lines).toList := by
  cases lines with
  | nil => contradiction
  | cons next lines => simp [joinLines]

theorem joinLines_newline {lines : List String} (h : lines ≠ []) :
    joinLines lines ++ "\n" = endLines lines := by
  rw [← String.toList_inj]
  induction lines with
  | nil => contradiction
  | cons line lines ih =>
      by_cases hlast : lines = []
      · subst hlast
        simp [joinLines, endLines]
      · rw [toList_endLines_cons, ← ih hlast, String.toList_append, joinLines_cons hlast]
        simp

/-! ## Counting line ends -/

theorem countNewlines_eq_zero_iff {text : String} :
    countNewlines text = 0 ↔ '\n' ∉ text.toList :=
  List.count_eq_zero

theorem countNewlines_endLines {lines : List String}
    (h : ∀ line ∈ lines, '\n' ∉ line.toList) : countNewlines (endLines lines) = lines.length := by
  induction lines with
  | nil => rfl
  | cons line lines ih =>
      obtain ⟨hline, hlines⟩ := List.forall_mem_cons.1 h
      have hcount := ih hlines
      rw [countNewlines] at hcount ⊢
      rw [toList_endLines_cons, List.count_append, List.count_cons_self, hcount,
        List.count_eq_zero_of_not_mem hline, List.length_cons]
      omega

theorem countNewlines_joinLines {lines : List String} (h : lines ≠ []) :
    countNewlines (joinLines lines) + 1 = lines.length + (lines.map countNewlines).sum := by
  induction lines with
  | nil => contradiction
  | cons line lines ih =>
      by_cases hlast : lines = []
      · subst hlast
        simp [joinLines]
        omega
      · have hrest := ih hlast
        have hcount : countNewlines (joinLines (line :: lines)) =
            countNewlines line + (countNewlines (joinLines lines) + 1) := by
          rw [countNewlines, joinLines_cons hlast, List.count_append, List.count_cons_self]
          rfl
        rw [hcount, List.map_cons, List.sum_cons, List.length_cons]
        omega

/-! ## Splitting -/

/-- What stands before, between and after the line ends of a text. -/
def splitLines (text : String) : List String :=
  (text.toList.splitOn '\n').map String.ofList

theorem splitLines_ne_nil (text : String) : splitLines text ≠ [] := by
  simp [splitLines, List.splitOn_ne_nil]

theorem length_splitLines (text : String) :
    (splitLines text).length = countNewlines text + 1 := by
  rw [splitLines, List.length_map, countNewlines]
  induction text.toList with
  | nil => rfl
  | cons c cs ih =>
      rw [List.splitOn_cons_eq_if_modifyHead]
      by_cases hc : c = '\n' <;> simp [hc, ih]

theorem splitLines_append_newline (first second : String) :
    splitLines (first ++ "\n" ++ second) = splitLines first ++ splitLines second := by
  simp [splitLines, List.splitOn_append_cons_self]

theorem splitOn_append_of_not_mem {label : List Char} (h : '\n' ∉ label) (cs : List Char) :
    (label ++ cs).splitOn '\n' = (cs.splitOn '\n').modifyHead (label ++ ·) := by
  induction label with
  | nil => cases hcs : cs.splitOn '\n' <;> simp [hcs]
  | cons c label ih =>
      obtain ⟨hc, hlabel⟩ := List.ne_and_not_mem_of_not_mem_cons h
      rw [List.cons_append, List.splitOn_cons_eq_if_modifyHead, if_neg (by simpa using hc.symm),
        ih hlabel, List.modifyHead_modifyHead]
      rfl

theorem splitLines_label {label text first : String} {more : List String}
    (hlabel : '\n' ∉ label.toList) (h : splitLines text = first :: more) :
    splitLines (label ++ text) = (label ++ first) :: more := by
  unfold splitLines at h ⊢
  rw [String.toList_append, splitOn_append_of_not_mem hlabel]
  cases hcs : text.toList.splitOn '\n' with
  | nil => exact absurd hcs (List.splitOn_ne_nil _ _)
  | cons cs css =>
      obtain ⟨rfl, rfl⟩ : String.ofList cs = first ∧ css.map String.ofList = more := by
        simpa [hcs] using h
      simp

theorem splitLines_joinLines {lines : List String} (hne : lines ≠ [])
    (h : ∀ line ∈ lines, '\n' ∉ line.toList) : splitLines (joinLines lines) = lines := by
  induction lines with
  | nil => contradiction
  | cons line lines ih =>
      obtain ⟨hline, hlines⟩ := List.forall_mem_cons.1 h
      by_cases hlast : lines = []
      · subst hlast
        simp [splitLines, joinLines, List.splitOn_eq_singleton hline]
      · have hrest := ih hlast hlines
        rw [splitLines] at hrest ⊢
        rw [joinLines_cons hlast, List.splitOn_append_cons_self_of_not_mem hline, List.map_cons,
          hrest, String.ofList_toList]

theorem splitOn_endLines {lines : List String} (h : ∀ line ∈ lines, '\n' ∉ line.toList) :
    (endLines lines).toList.splitOn '\n' = lines.map String.toList ++ [[]] := by
  induction lines with
  | nil => simp [endLines]
  | cons line lines ih =>
      rw [toList_endLines_cons, List.splitOn_append_cons_self_of_not_mem (h line (by simp)),
        ih fun l hl => h l (by simp [hl])]
      rfl

/-- The lines of a text in which every line is ended. -/
def lines (text : String) : List String :=
  (splitLines text).dropLast

theorem lines_endLines {lines : List String} (h : ∀ line ∈ lines, '\n' ∉ line.toList) :
    Text.lines (endLines lines) = lines := by
  rw [Text.lines, splitLines, splitOn_endLines h]
  simp

theorem endLines_inj {lines lines' : List String} (h : ∀ line ∈ lines, '\n' ∉ line.toList)
    (h' : ∀ line ∈ lines', '\n' ∉ line.toList) (heq : endLines lines = endLines lines') :
    lines = lines' := by
  rw [← lines_endLines h, heq, lines_endLines h']

theorem lines_append_newline (first second : String) :
    lines (first ++ "\n" ++ second) = splitLines first ++ lines second := by
  rw [lines, lines, splitLines_append_newline,
    List.dropLast_append_of_ne_nil (splitLines_ne_nil second)]

end SexprAsm.Text
