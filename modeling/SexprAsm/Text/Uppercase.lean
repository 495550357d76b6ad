import SexprAsm.Text.Uppercase.Table

/-!
# Upper case

The upper-case form of a text, character by character and without regard to context.
-/

namespace SexprAsm.Text

/-- The capital form of a character; a character without one stands for itself. -/
def capitalize (c : Char) : List Char :=
  if c.toNat < 0x80 then [c.toUpper]
  else match capitalExpansions.lookup c.toNat with
    | some codes => codes.map Char.ofNat
    | none => match capitalRuns.findSome? (·.find? c.toNat) with
      | some code => [Char.ofNat code]
      | none => [c]

def uppercase (s : String) : String :=
  String.ofList (s.toList.flatMap capitalize)

end SexprAsm.Text
