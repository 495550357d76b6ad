import SexprAsm.Node
import SexprAsm.Text.Newline
import SexprAsm.Text.Quoted

/-!
# Tree dumps

A tree in comment lines, one for each node in the order in which nodes begin, indented by depth.
-/

namespace SexprAsm.Node

/-- A node without its children; the text of a string is quoted. -/
def heading (n : Node) : String :=
  let shown := match n with
    | string text => Text.quote text
    | _ => n.label
  if shown = "" then n.kind.name else n.kind.name ++ ": " ++ shown

def indentation (depth : Nat) : String :=
  String.ofList (List.replicate (2 * depth) ' ')

def dumpLine (depth : Nat) (n : Node) : String :=
  ";; " ++ indentation depth ++ n.heading

mutual

def dumpLines (depth : Nat) : Node → List String
  | program forms => dumpLine depth (program forms) :: dumpLinesAll (depth + 1) forms
  | call op args => dumpLine depth (call op args) :: dumpLinesAll (depth + 1) args
  | n => [dumpLine depth n]

def dumpLinesAll (depth : Nat) : List Node → List String
  | [] => []
  | n :: ns => dumpLines depth n ++ dumpLinesAll depth ns

end

/-- The tree in comment lines between a head and a foot. -/
def dump (n : Node) : String :=
  Text.joinLines (";; BEGIN Ast Dump" :: dumpLines 0 n ++ [";; END Ast Dump"])

end SexprAsm.Node
