import SexprAsm.Text.CodeRange

/-!
# Blank characters

The characters that separate words: the scanner skips them between tokens, and they may stand
around a numeral.
-/

namespace SexprAsm.Text

def blankRanges : List CodeRange :=
  [⟨0x0009, 0x000D⟩, ⟨0x001C, 0x0020⟩, ⟨0x0085, 0x0085⟩, ⟨0x00A0, 0x00A0⟩, ⟨0x1680, 0x1680⟩,
    ⟨0x2000, 0x200A⟩, ⟨0x2028, 0x2029⟩, ⟨0x202F, 0x202F⟩, ⟨0x205F, 0x205F⟩, ⟨0x3000, 0x3000⟩]

def isBlank (c : Char) : Bool :=
  inRanges blankRanges c

/-- The information separators, which are blank between tokens but not around a numeral. -/
def isSeparatorControl (c : Char) : Bool :=
  0x1C ≤ c.toNat && c.toNat ≤ 0x1F

end SexprAsm.Text
