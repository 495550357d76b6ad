import SexprAsm.Text.Quoted
import Mathlib.Algebra.Group.Nat.Defs
import Mathlib.Data.List.Basic

/-!
# Quoted text can be read back

In quoted text a character stands for itself, or it is written as a backslash and a letter, or as a
backslash, a letter and as many hexadecimal digits as the letter asks for. None of these escapes is
the beginning of another, so no two texts are quoted alike. None of them has a line end in it, so
quoted text stays on one line.
-/

namespace SexprAsm.Text

/-! ## Hexadecimal digits -/

theorem length_hexDigits (width n : Nat) : (hexDigits width n).length = width := by
  induction width generalizing n with
  | zero => rfl
  | succ width ih => rw [hexDigits, List.length_append, ih, List.length_singleton]

theorem hexDigits_inj {width n m : Nat} (hn : n < 16 ^ width) (hm : m < 16 ^ width)
    (h : hexDigits width n = hexDigits width m) : n = m := by
  induction width generalizing n m with
  | zero => omega
  | succ width ih =>
      have hdigit : ∀ a < 16, ∀ b < 16, Nat.digitChar a = Nat.digitChar b → a = b := by decide
      rw [hexDigits, hexDigits] at h
      obtain ⟨hhigh, hlow⟩ := List.append_inj' h rfl
      have hmod : n % 16 = m % 16 :=
        hdigit _ (Nat.mod_lt _ (by omega)) _ (Nat.mod_lt _ (by omega)) (List.cons.inj hlow).1
      have hdiv : n / 16 = m / 16 := by
        apply ih _ _ hhigh
        · rw [pow_succ] at hn
          omega
        · rw [pow_succ] at hm
          omega
      omega

theorem newline_not_mem_hexDigits (width n : Nat) : '\n' ∉ hexDigits width n := by
  induction width generalizing n with
  | zero => simp [hexDigits]
  | succ width ih =>
      have hdigit : ∀ a < 16, '\n' ≠ Nat.digitChar a := by decide
      simp only [hexDigits, List.mem_append, List.mem_singleton, not_or]
      exact ⟨ih _, hdigit _ (Nat.mod_lt _ (by omega))⟩

/-! ## Escapes -/

def namedEscapes (mark : Char) : List (Char × Char) :=
  [('\\', '\\'), (mark, mark), ('\n', 'n'), ('\r', 'r'), ('\t', 't')]

def codeWidths : List (Char × Nat) :=
  [('x', 2), ('u', 4), ('U', 8)]

/-- How a character may be written between marks. -/
inductive Escape (mark c : Char) : List Char → Prop
  | plain (hslash : c ≠ '\\') (hend : c ≠ '\n') : Escape mark c [c]
  | named {letter : Char} (h : (c, letter) ∈ namedEscapes mark) : Escape mark c ['\\', letter]
  | code {letter : Char} {width : Nat} (h : (letter, width) ∈ codeWidths)
      (hc : c.toNat < 16 ^ width) : Escape mark c ('\\' :: letter :: hexDigits width c.toNat)

theorem escape_escapeCode (mark c : Char) : Escape mark c (escapeCode c.toNat) := by
  unfold escapeCode
  split
  · next h => exact .code (by simp [codeWidths]) h
  split
  · next h => exact .code (by simp [codeWidths]) h
  · have hword : c.toNat < 2 ^ 32 := UInt32.toNat_lt c.val
    exact .code (by simp [codeWidths]) (by omega)

theorem escape_escapeChar (mark c : Char) : Escape mark c (escapeChar mark c) := by
  unfold escapeChar
  split
  · next h =>
      apply Escape.named
      rcases h with rfl | rfl <;> simp [namedEscapes]
  · next hspecial =>
      split
      · next h => exact .named (by simp [namedEscapes, h])
      next hend =>
      split
      · next h => exact .named (by simp [namedEscapes, h])
      split
      · next h => exact .named (by simp [namedEscapes, h])
      split
      · exact .plain (fun h => hspecial (.inl h)) hend
      · exact escape_escapeCode mark c

section Marks

variable {mark : Char} (hmark : mark = '\'' ∨ mark = '"')

include hmark

/-- The letter after a backslash tells which escape it is. -/
theorem letters_distinct :
    (∀ p ∈ namedEscapes mark, ∀ q ∈ namedEscapes mark, p.2 = q.2 → p.1 = q.1) ∧
      ∀ p ∈ namedEscapes mark, ∀ q ∈ codeWidths, p.2 ≠ q.1 := by
  rcases hmark with rfl | rfl <;> decide

theorem Escape.append_inj {c d : Char} {e f xs ys : List Char} (hc : Escape mark c e)
    (hd : Escape mark d f) (h : e ++ xs = f ++ ys) : c = d ∧ xs = ys := by
  obtain ⟨hnamed, hapart⟩ := letters_distinct hmark
  have hwidths : ∀ p ∈ codeWidths, ∀ q ∈ codeWidths, p.1 = q.1 → p.2 = q.2 := by decide
  cases hc with
  | plain hslash hend =>
      cases hd with
      | plain _ _ => exact List.cons.inj h
      | named _ => exact absurd (List.cons.inj h).1 hslash
      | code _ _ => exact absurd (List.cons.inj h).1 hslash
  | @named letter hletter =>
      cases hd with
      | plain hslash _ => exact absurd (List.cons.inj h).1.symm hslash
      | @named letter' hletter' =>
          obtain ⟨hsame, hrest⟩ := List.cons.inj (List.cons.inj h).2
          exact ⟨hnamed _ hletter _ hletter' hsame, hrest⟩
      | @code letter' width hletter' _ =>
          exact absurd (List.cons.inj (List.cons.inj h).2).1 (hapart _ hletter _ hletter')
  | @code letter width hletter hwidth =>
      cases hd with
      | plain hslash _ => exact absurd (List.cons.inj h).1.symm hslash
      | @named letter' hletter' =>
          exact absurd (List.cons.inj (List.cons.inj h).2).1.symm (hapart _ hletter' _ hletter)
      | @code letter' width' hletter' hwidth' =>
          obtain ⟨hsame, hrest⟩ := List.cons.inj (List.cons.inj h).2
          obtain rfl : width = width' := hwidths _ hletter _ hletter' hsame
          have hlength : (hexDigits width c.toNat).length = (hexDigits width d.toNat).length := by
            rw [length_hexDigits, length_hexDigits]
          obtain ⟨hdigits, hxs⟩ := List.append_inj hrest hlength
          exact ⟨Char.toNat_inj.1 (hexDigits_inj hwidth hwidth' hdigits), hxs⟩

theorem Escape.newline_not_mem {c : Char} {e : List Char} (h : Escape mark c e) : '\n' ∉ e := by
  cases h with
  | plain _ hend => simpa using hend.symm
  | @named letter hletter =>
      have hletters : ∀ p ∈ namedEscapes mark, p.2 ≠ '\n' := by
        rcases hmark with rfl | rfl <;> decide
      simpa using (hletters _ hletter).symm
  | @code letter width hletter _ =>
      have hletters : ∀ p ∈ codeWidths, p.1 ≠ '\n' := by decide
      simpa [newline_not_mem_hexDigits] using (hletters _ hletter).symm

theorem flatMap_escapeChar_inj {cs ds : List Char}
    (h : cs.flatMap (escapeChar mark) = ds.flatMap (escapeChar mark)) : cs = ds := by
  have hne : ∀ c, escapeChar mark c ≠ [] := by
    intro c hempty
    have hescape := escape_escapeChar mark c
    rw [hempty] at hescape
    contradiction
  induction cs generalizing ds with
  | nil =>
      cases ds with
      | nil => rfl
      | cons d ds => simp [hne] at h
  | cons c cs ih =>
      cases ds with
      | nil => simp [hne] at h
      | cons d ds =>
          rw [List.flatMap_cons, List.flatMap_cons] at h
          obtain ⟨rfl, hrest⟩ :=
            (escape_escapeChar mark c).append_inj hmark (escape_escapeChar mark d) h
          rw [ih hrest]

end Marks

/-! ## Whole texts -/

theorem quoteMark_cases (cs : List Char) : quoteMark cs = '\'' ∨ quoteMark cs = '"' := by
  unfold quoteMark
  split
  · exact .inr rfl
  · exact .inl rfl

/-- The mark in front of a quoted text tells which marks were chosen. -/
theorem quoteChars_inj {cs ds : List Char} (h : quoteChars cs = quoteChars ds) : cs = ds := by
  obtain ⟨hmark, hrest⟩ : quoteMark cs = quoteMark ds ∧
      cs.flatMap (escapeChar (quoteMark cs)) ++ [quoteMark cs] =
        ds.flatMap (escapeChar (quoteMark ds)) ++ [quoteMark ds] := by
    simpa [quoteChars] using h
  rw [← hmark] at hrest
  exact flatMap_escapeChar_inj (quoteMark_cases cs) (List.append_cancel_right hrest)

theorem quote_inj {s t : String} (h : quote s = quote t) : s = t := by
  apply String.toList_inj.1
  apply quoteChars_inj
  simpa [quote] using congrArg String.toList h

theorem newline_not_mem_quote (s : String) : '\n' ∉ (quote s).toList := by
  have hmark := quoteMark_cases s.toList
  have hend : '\n' ≠ quoteMark s.toList := by
    rcases hmark with h | h <;> rw [h] <;> decide
  have hbody : '\n' ∉ s.toList.flatMap (escapeChar (quoteMark s.toList)) := by
    intro hmem
    obtain ⟨c, -, hc⟩ := List.mem_flatMap.1 hmem
    exact (escape_escapeChar _ c).newline_not_mem hmark hc
  simp [quote, quoteChars, hend, hbody]

end SexprAsm.Text
