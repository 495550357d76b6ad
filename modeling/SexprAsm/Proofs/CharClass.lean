import SexprAsm.Text.Blank
import SexprAsm.Text.Uppercase
import Mathlib.Data.List.Basic

/-!
# Classes of characters

The classes that the scanner tells apart, as ranges of code points. Digits, letters, blanks and the
three punctuation marks exclude each other, so the order of the scanner's tests does not matter for
what it accepts. The capitals of ASCII letters are ASCII letters.
-/

namespace SexprAsm.Text

theorem isUpper_iff_toNat (c : Char) : c.isUpper = true ↔ 65 ≤ c.toNat ∧ c.toNat ≤ 90 := by
  change decide ('A'.val ≤ c.val ∧ c.val ≤ 'Z'.val) = true ↔ _
  simp [UInt32.le_iff_toNat_le]

theorem isAlpha_iff_toNat (c : Char) :
    c.isAlpha = true ↔
      (65 ≤ c.toNat ∧ c.toNat ≤ 90) ∨ (97 ≤ c.toNat ∧ c.toNat ≤ 122) := by
  change (c.isUpper || (decide ('a'.val ≤ c.val) && decide (c.val ≤ 'z'.val))) = true ↔ _
  rw [Bool.or_eq_true, isUpper_iff_toNat]
  simp [UInt32.le_iff_toNat_le]

theorem isAlpha_of_isUpper {c : Char} (h : c.isUpper = true) : c.isAlpha = true := by
  rw [isUpper_iff_toNat] at h
  rw [isAlpha_iff_toNat]
  omega

theorem not_isAlpha_of_isDigit {c : Char} (h : c.isDigit = true) : c.isAlpha = false := by
  have hrange : 48 ≤ c.toNat ∧ c.toNat ≤ 57 := Char.isDigit_iff_toNat.1 h
  rw [Bool.eq_false_iff, Ne, isAlpha_iff_toNat]
  omega

theorem not_isDigit_of_isAlpha {c : Char} (h : c.isAlpha = true) : c.isDigit = false := by
  rw [Bool.eq_false_iff]
  intro hdigit
  rw [not_isAlpha_of_isDigit hdigit] at h
  contradiction

theorem isBlank_iff_of_lt {c : Char} (h : c.toNat < 0x80) :
    isBlank c = true ↔ (9 ≤ c.toNat ∧ c.toNat ≤ 13) ∨ (28 ≤ c.toNat ∧ c.toNat ≤ 32) := by
  simp only [isBlank, inRanges, blankRanges, CodeRange.contains, List.any_cons, List.any_nil,
    Bool.or_eq_true, Bool.and_eq_true, decide_eq_true_eq, Bool.false_eq_true, or_false]
  omega

theorem not_isBlank_of_isDigit {c : Char} (h : c.isDigit = true) : isBlank c = false := by
  have hrange : 48 ≤ c.toNat ∧ c.toNat ≤ 57 := Char.isDigit_iff_toNat.1 h
  rw [Bool.eq_false_iff, Ne, isBlank_iff_of_lt (by omega)]
  omega

theorem not_isBlank_of_isAlpha {c : Char} (h : c.isAlpha = true) : isBlank c = false := by
  rw [isAlpha_iff_toNat] at h
  rw [Bool.eq_false_iff, Ne, isBlank_iff_of_lt (by omega)]
  omega

theorem isUpper_toUpper {c : Char} (h : c.isAlpha = true) : c.toUpper.isUpper = true := by
  rw [isAlpha_iff_toNat] at h
  rw [isUpper_iff_toNat]
  unfold Char.toUpper
  split
  · next hlower =>
      -- the code moves down by 32, which the addition does by wrapping around
      have hfirst : 97 ≤ c.val.toNat := UInt32.le_iff_toNat_le.1 hlower.1
      have hlast : c.val.toNat ≤ 122 := UInt32.le_iff_toNat_le.1 hlower.2
      have hshift : ('A'.val - 'a'.val).toNat = 2 ^ 32 - 32 := by decide
      have hcode : (c.val + ('A'.val - 'a'.val)).toNat = c.val.toNat - 32 := by
        rw [UInt32.toNat_add, hshift]
        omega
      change 65 ≤ (c.val + ('A'.val - 'a'.val)).toNat ∧ (c.val + ('A'.val - 'a'.val)).toNat ≤ 90
      omega
  · next hlower =>
      simp only [UInt32.le_iff_toNat_le] at hlower
      have hnot : ¬(97 ≤ c.toNat ∧ c.toNat ≤ 122) := hlower
      omega

theorem toUpper_eq_self {c : Char} (h : ¬(97 ≤ c.toNat ∧ c.toNat ≤ 122)) : c.toUpper = c := by
  unfold Char.toUpper
  split
  · next hlower =>
      simp only [UInt32.le_iff_toNat_le] at hlower
      exact absurd hlower h
  · rfl

theorem capitalize_of_isAlpha {c : Char} (h : c.isAlpha = true) : capitalize c = [c.toUpper] := by
  rw [isAlpha_iff_toNat] at h
  rw [capitalize, if_pos (by omega)]

theorem toList_uppercase {s : String} (h : ∀ c ∈ s.toList, c.isAlpha = true) :
    (uppercase s).toList = s.toList.map Char.toUpper := by
  rw [uppercase, String.toList_ofList, List.map_eq_flatMap]
  exact List.flatMap_congr fun c hc => capitalize_of_isAlpha (h c hc)

theorem isUpper_of_mem_uppercase {s : String} (h : ∀ c ∈ s.toList, c.isAlpha = true) {c : Char}
    (hc : c ∈ (uppercase s).toList) : c.isUpper = true := by
  rw [toList_uppercase h, List.mem_map] at hc
  obtain ⟨d, hd, rfl⟩ := hc
  exact isUpper_toUpper (h d hd)

theorem capitalize_ne_nil (c : Char) : capitalize c ≠ [] := by
  have htable : ∀ entry ∈ capitalExpansions, entry.2 ≠ [] := by decide
  unfold capitalize
  split
  · simp
  · split
    · next codes hcodes =>
        obtain ⟨before, after, hsplit, -⟩ := List.lookup_eq_some_iff.1 hcodes
        have hne : codes ≠ [] := htable (c.toNat, codes) (by simp [hsplit])
        simpa using hne
    · split <;> simp

theorem uppercase_ne_empty_of_ne {s : String} (h : s ≠ "") : uppercase s ≠ "" := by
  intro hempty
  have hnone : ∀ c ∈ s.toList, capitalize c = [] := by
    simpa [uppercase, ← String.toList_inj] using hempty
  apply h
  rw [← String.toList_eq_nil_iff]
  apply List.eq_nil_iff_forall_not_mem.2
  exact fun c hc => capitalize_ne_nil c (hnone c hc)

end SexprAsm.Text
