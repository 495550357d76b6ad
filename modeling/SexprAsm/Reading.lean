/-!
# Reading from a list

A reader takes items off the front of a list. It reports a value or a fault, and in both cases
what it has left unread. A cursor keeps the whole list and a position in it, and runs readers from
there.
-/

namespace SexprAsm

/-- What reading from the front of a list came to, and the items left unread. -/
structure Reading (ι ε α : Type) where
  outcome : Except ε α
  rest : List ι

namespace Reading

variable {ι ε α β : Type}

def map (f : α → β) (r : Reading ι ε α) : Reading ι ε β :=
  ⟨r.outcome.map f, r.rest⟩

def mapFault {δ : Type} (f : ε → δ) (r : Reading ι ε α) : Reading ι δ α :=
  ⟨r.outcome.mapError f, r.rest⟩

end Reading

/-- A position in a list; it may lie past the end. -/
structure Cursor (ι : Type) where
  items : List ι
  pos : Nat := 0

namespace Cursor

variable {ι ε α : Type}

def atEnd (c : Cursor ι) : Bool :=
  c.items.length ≤ c.pos

def seek (c : Cursor ι) (pos : Nat) : Cursor ι :=
  { c with pos }

/-- The items from the position on. -/
def rest (c : Cursor ι) : List ι :=
  c.items.drop c.pos

/-- Reads from the position on and moves past what was read, also when reading fails. -/
def run (c : Cursor ι) (read : List ι → Reading ι ε α) : Except ε α × Cursor ι :=
  let r := read c.rest
  (r.outcome, c.seek (c.pos + (c.rest.length - r.rest.length)))

end Cursor

end SexprAsm
