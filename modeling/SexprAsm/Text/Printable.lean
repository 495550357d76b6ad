import SexprAsm.Text.Printable.Table

/-!
# Printable characters

Controls, format characters, separators other than the space, private use and code points that are
not assigned are not printable: quoted text shows them by their code points.
-/

namespace SexprAsm.Text

def isPrintable (c : Char) : Bool :=
  if c.toNat < 0x80 then 0x20 ≤ c.toNat && c.toNat ≠ 0x7F else !inRanges unprintableRanges c

end SexprAsm.Text
