import SexprAsm.Node.Reader

/-!
# Reading trees piece by piece

A tree reader goes through a token list in pieces of the caller's choice: a token, a form, the rest
of a call, or all forms to the end. It keeps its place between them, also after a piece that cannot
be read, and the limit on nesting may be changed on the way.
-/

namespace SexprAsm

/-- A token list, a place in it, and the limit that calls are held to. -/
structure TreeReader where
  cursor : Cursor Token
  maxDepth : Int := defaultMaxDepth

namespace TreeReader

def ofTokens (ts : List Token) (maxDepth : Int) : TreeReader :=
  { cursor := { items := ts }, maxDepth }

def atEnd (r : TreeReader) : Bool :=
  r.cursor.atEnd

/-- Reads a piece from the place on. -/
def read {α : Type} (r : TreeReader) (piece : List Token → Reading Token ReadFault α) :
    Except ReadFault α × TreeReader :=
  let (outcome, cursor) := r.cursor.run piece
  (outcome, { r with cursor })

def token (r : TreeReader) : Except ReadFault Token × TreeReader :=
  r.read Token.next

/-- Reads a form that stands at a depth, or the parenthesis that closes the call around it. -/
def form (r : TreeReader) (depth : Int) : Except ReadFault (Option Node) × TreeReader :=
  r.read (Node.readForm r.maxDepth depth {})

/-- Reads a call at a depth, of which `opener` has been read already. -/
def call (r : TreeReader) (opener : Token) (depth : Int) :
    Except ReadFault (Option Node) × TreeReader :=
  r.read (Node.readCall r.maxDepth depth opener)

/-- Reads all forms from the place on. -/
def program (r : TreeReader) : Except ReadFault Node × TreeReader :=
  r.read (Node.readProgram r.maxDepth)

def setMaxDepth (r : TreeReader) (maxDepth : Int) : TreeReader :=
  { r with maxDepth }

end TreeReader

end SexprAsm
