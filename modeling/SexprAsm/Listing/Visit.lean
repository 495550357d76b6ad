import SexprAsm.Listing.Generator

/-!
# Visits

The walk over a tree carried out step by step on the lines that there are already. Lines are only
ever added at the end. A visit that cannot go on leaves those that it has added.
-/

namespace SexprAsm

/-- Steps that add lines to a listing, up to a fault. -/
abbrev Visit := ExceptT ListingFault (StateM (List String))

/-- Adds lines as the style writes them. -/
def Style.add (style : Style) (lines : List Line) : Visit Unit :=
  modify (· ++ style.writeLines lines)

namespace Node

/-- The visit of a node, given that of its children. -/
def visitAround (style : Style) (maxDepth depth : Int) (n : Node) (inner : Visit Unit) :
    Visit Unit := do
  match n.obstacle? maxDepth depth with
  | some fault => throw fault
  | none =>
    style.add n.enterLines
    inner
    style.add n.leaveLines

mutual

/-- Visits a tree whose root stands at a depth. -/
def visit (style : Style) (maxDepth depth : Int) : Node → Visit Unit
  | program forms =>
    visitAround style maxDepth depth (program forms) (visitAll style maxDepth (depth + 1) forms)
  | call op args =>
    visitAround style maxDepth depth (call op args) (visitAll style maxDepth (depth + 1) args)
  | n => visitAround style maxDepth depth n (pure ())

def visitAll (style : Style) (maxDepth depth : Int) : List Node → Visit Unit
  | [] => pure ()
  | n :: ns => do
    visit style maxDepth depth n
    visitAll style maxDepth depth ns

end

/-- What a visit comes to, and the lines after it, given the lines before it. -/
def visitFrom (out : List String) (style : Style) (maxDepth depth : Int) (n : Node) :
    Except ListingFault Unit × List String :=
  (n.visit style maxDepth depth).run.run out

end Node

end SexprAsm
