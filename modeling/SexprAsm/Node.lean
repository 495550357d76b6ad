/-!
# Trees

The trees between source and listing: a program is a list of forms, and a form is a literal or a
call of an operator on arguments.
-/

namespace SexprAsm

/-- The name a call applies: any text but the empty one. -/
structure Operator where
  text : String
  ne_empty : text ≠ ""
  deriving DecidableEq

def Operator.ofText? (text : String) : Option Operator :=
  if h : text ≠ "" then some ⟨text, h⟩ else none

theorem Operator.ofText?_text (op : Operator) : ofText? op.text = some op := by
  simp [ofText?, op.ne_empty]

inductive Node where
  | program (forms : List Node)
  | call (operator : Operator) (arguments : List Node)
  | number (digits : String)
  | string (text : String)
  /-- A node of a kind that nothing is known about. -/
  | other

namespace Node

/-- The kinds of nodes, without their contents. -/
inductive Kind where
  | program
  | call
  | number
  | string
  | other
  deriving DecidableEq

def Kind.name : Kind → String
  | program => "Program"
  | call => "Call"
  | number => "NumberLiteral"
  | string => "StringLiteral"
  | other => "ASTNode"

def kind : Node → Kind
  | program _ => .program
  | call .. => .call
  | number _ => .number
  | string _ => .string
  | other => .other

def children : Node → List Node
  | program forms => forms
  | call _ arguments => arguments
  | _ => []

/-- The text a node carries of its own. -/
def label : Node → String
  | call op _ => op.text
  | number digits => digits
  | string text => text
  | _ => ""

mutual

/-- Whether two trees have the same kinds and texts throughout. -/
def same : Node → Node → Bool
  | program fs, program gs => sameAll fs gs
  | call op xs, call op' ys => op = op' && sameAll xs ys
  | number s, number t => s = t
  | string s, string t => s = t
  | other, other => true
  | _, _ => false

def sameAll : List Node → List Node → Bool
  | [], [] => true
  | x :: xs, y :: ys => same x y && sameAll xs ys
  | _, _ => false

end

mutual

theorem same_refl : ∀ n : Node, same n n = true
  | program fs => by simp [same, sameAll_refl fs]
  | call _ xs => by simp [same, sameAll_refl xs]
  | number _ => by simp [same]
  | string _ => by simp [same]
  | other => by simp [same]

theorem sameAll_refl : ∀ ns : List Node, sameAll ns ns = true
  | [] => by simp [sameAll]
  | n :: ns => by simp [sameAll, same_refl n, sameAll_refl ns]

end

mutual

theorem eq_of_same : ∀ {a b : Node}, same a b = true → a = b
  | program _, b, h => by
    cases b <;> simp [same] at h
    simp [eq_of_sameAll h]
  | call _ _, b, h => by
    cases b <;> simp [same] at h
    simp [h.1, eq_of_sameAll h.2]
  | number _, b, h => by
    cases b <;> simp_all [same]
  | string _, b, h => by
    cases b <;> simp_all [same]
  | other, b, h => by
    cases b <;> simp_all [same]

theorem eq_of_sameAll : ∀ {xs ys : List Node}, sameAll xs ys = true → xs = ys
  | [], ys, h => by
    cases ys <;> simp_all [sameAll]
  | x :: xs, ys, h => by
    cases ys with
    | nil => simp [sameAll] at h
    | cons y ys =>
      simp [sameAll] at h
      rw [eq_of_same h.1, eq_of_sameAll h.2]

end

theorem same_iff {a b : Node} : same a b = true ↔ a = b :=
  ⟨eq_of_same, fun h => h ▸ same_refl a⟩

instance : DecidableEq Node := fun _ _ => decidable_of_iff _ same_iff

/-- Calls nest at most this deep whatever limit is asked for. -/
def nestingCeiling : Int := 1000

end Node

/-- Calls nest this deep unless another limit is asked for. -/
def defaultMaxDepth : Int := 256

end SexprAsm
