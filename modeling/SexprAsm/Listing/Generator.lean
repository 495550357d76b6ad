import SexprAsm.Listing
import SexprAsm.Node

/-!
# Generating listings

A walk over the tree. Entering a node emits lines, then its children are walked, then leaving it
emits more: a number is pushed and an operator is applied when its node is left, so operands come
before their operator. The walk stops at the first node it cannot enter, and the lines emitted up
to there stand.
-/

namespace SexprAsm

inductive ListingFault where
  | unknownKind (node : Node)
  | nestingTooDeep (node : Node)
  deriving DecidableEq

/-- The lines of a walk, and what stopped it if it did not finish. -/
structure Emission where
  lines : List Line
  fault : Option ListingFault := none
  deriving DecidableEq

namespace Emission

/-- A walk after which another follows, unless the first was stopped. -/
def andThen (first second : Emission) : Emission :=
  match first.fault with
  | some _ => first
  | none => { second with lines := first.lines ++ second.lines }

/-- The emission between the lines of entering and of leaving a node. -/
def within (enter : List Line) (inner : Emission) (leave : List Line) : Emission :=
  (Emission.mk enter none).andThen (inner.andThen { lines := leave })

end Emission

namespace Node

/-- The lines of entering a node. -/
def enterLines : Node → List Line
  | program _ => [.comment "Begin program code", .instruction .start]
  | _ => [.blank]

/-- The lines of leaving a node. -/
def leaveLines : Node → List Line
  | program _ => [.comment "exit program", .instruction .halt]
  | call op _ => [.instruction (.apply op.text)]
  | number digits => [.instruction (.push digits)]
  | _ => [.blank]

/-- Why a node at a depth cannot be entered. Only calls count against the limit. -/
def obstacle? (maxDepth depth : Int) (n : Node) : Option ListingFault :=
  match n with
  | other => some (.unknownKind n)
  | call .. => if maxDepth < depth then some (.nestingTooDeep n) else none
  | _ => none

/-- The walk of a node, given that of its children. -/
@[macro_inline]
def walkAround (maxDepth depth : Int) (n : Node) (inner : Emission) : Emission :=
  match n.obstacle? maxDepth depth with
  | some fault => ⟨[], fault⟩
  | none => .within n.enterLines inner n.leaveLines

mutual

/-- Walks a tree whose root stands at a depth. -/
def walk (maxDepth depth : Int) : Node → Emission
  | program forms =>
    walkAround maxDepth depth (program forms) (walkAll maxDepth (depth + 1) forms)
  | call op args => walkAround maxDepth depth (call op args) (walkAll maxDepth (depth + 1) args)
  | n => walkAround maxDepth depth n { lines := [] }

def walkAll (maxDepth depth : Int) : List Node → Emission
  | [] => { lines := [] }
  | n :: ns => (walk maxDepth depth n).andThen (walkAll maxDepth depth ns)

end

/-- Nodes of every kind are walked alike: children stand one level below. -/
theorem walk_eq (maxDepth depth : Int) (n : Node) :
    walk maxDepth depth n =
      walkAround maxDepth depth n (walkAll maxDepth (depth + 1) n.children) := by
  cases n <;> simp only [walk, children, walkAll]

end Node

/-- The same fault, with another node to blame for nesting too deep. -/
def ListingFault.blame (root : Node) : ListingFault → ListingFault
  | .nestingTooDeep _ => .nestingTooDeep root
  | fault => fault

namespace Node

/-- The listing of a tree. Where the limit lets a call through and the ceiling does not, the root
is to blame. -/
def listing (style : Style) (maxDepth : Int) (root : Node) : Except ListingFault String :=
  let emission := root.walk (min maxDepth nestingCeiling) 0
  match emission.fault with
  | none => .ok (style.write emission.lines)
  | some fault => .error (if maxDepth ≤ nestingCeiling then fault else fault.blame root)

end Node

end SexprAsm
