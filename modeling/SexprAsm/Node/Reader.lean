import SexprAsm.Node
import SexprAsm.Reading
import SexprAsm.Token

/-!
# Reading trees

Builds trees from tokens. A form in progress is the stack of the calls that are open, innermost
first. Each token extends the stack, completes the form or is a fault, so reading goes through the
tokens once. Every fault says which token it is about, and leaves the tokens after that one
unread.
-/

namespace SexprAsm

inductive ReadFault where
  | unexpectedEnd
  | nestingTooDeep (opener : Option Token)
  | missingOperator (found : Token)
  | unknownToken (found : Token)
  | unmatchedClose (found : Token)
  /-- A call whose operator has no text; found when the call is closed. -/
  | emptyOperator
  deriving DecidableEq

/-- A call whose closing parenthesis has not been read. -/
structure OpenCall where
  operator : String
  /-- The arguments read so far, the latest first. -/
  arguments : List Node := []

/-- A form in progress. -/
structure OpenForm where
  /-- The open calls, innermost first. -/
  calls : List OpenCall := []
  /-- A parenthesis was opened and its operator comes next. -/
  awaitsOperator : Bool := false

/-- What a form in progress comes to with the next token. -/
inductive Progress where
  | more (form : OpenForm)
  | form (node : Node)
  /-- A closing parenthesis with no call open. -/
  | close
  | fault (f : ReadFault)

namespace OpenForm

/-- Gives a complete form to the innermost open call. -/
def deliver (node : Node) : List OpenCall → Progress
  | [] => .form node
  | call :: outer => .more { calls := { call with arguments := node :: call.arguments } :: outer }

/-- Closes the innermost open call. -/
def close : List OpenCall → Progress
  | [] => .close
  | call :: outer =>
    match Operator.ofText? call.operator with
    | some op => deliver (.call op call.arguments.reverse) outer
    | none => .fault .emptyOperator

/-- Takes one token. `depth` is the depth at which the form stands, and a call is as deep as the
number of calls around it and itself, counted from there. -/
def advance (maxDepth depth : Int) (form : OpenForm) (t : Token) : Progress :=
  if form.awaitsOperator then
    match t.kind with
    | .ident => .more { calls := { operator := t.text } :: form.calls }
    | _ => .fault (.missingOperator t)
  else
    match t.kind with
    | .number => deliver (.number t.text) form.calls
    | .string => deliver (.string t.text) form.calls
    | .rparen => close form.calls
    | .ident => .fault (.unknownToken t)
    | .lparen =>
      if maxDepth < depth + form.calls.length + 1 then .fault (.nestingTooDeep (some t))
      else .more { form with awaitsOperator := true }

end OpenForm

namespace Node

/-- Reads on from a form in progress to its end. Nothing is the result of a closing parenthesis
that belongs to a call further out. -/
def readForm (maxDepth depth : Int) (form : OpenForm) :
    List Token → Reading Token ReadFault (Option Node)
  | [] => ⟨.error .unexpectedEnd, []⟩
  | t :: ts =>
    match form.advance maxDepth depth t with
    | .more form => readForm maxDepth depth form ts
    | .form node => ⟨.ok (some node), ts⟩
    | .close => ⟨.ok none, ts⟩
    | .fault f => ⟨.error f, ts⟩

/-- Reads a call at the given depth, of which `opener` has been read already. -/
def readCall (maxDepth depth : Int) (opener : Token) (ts : List Token) :
    Reading Token ReadFault (Option Node) :=
  if maxDepth < depth then ⟨.error (.nestingTooDeep (some opener)), ts⟩
  else readForm maxDepth (depth - 1) { awaitsOperator := true } ts

/-- Reads forms to the end of the tokens. -/
def readForms (maxDepth : Int) (form : OpenForm) : List Token → Reading Token ReadFault (List Node)
  | [] =>
    if form.calls.isEmpty && !form.awaitsOperator then ⟨.ok [], []⟩
    else ⟨.error .unexpectedEnd, []⟩
  | t :: ts =>
    match form.advance maxDepth 0 t with
    | .more form => readForms maxDepth form ts
    | .form node => (readForms maxDepth {} ts).map (node :: ·)
    | .close => ⟨.error (.unmatchedClose t), ts⟩
    | .fault f => ⟨.error f, ts⟩

end Node

/-- The same fault without the parenthesis that goes too deep. -/
def ReadFault.withoutOpener : ReadFault → ReadFault
  | .nestingTooDeep _ => .nestingTooDeep none
  | f => f

namespace Node

/-- Reads a program. A call that the limit lets through and the ceiling does not is a fault that
names no token. -/
def readProgram (maxDepth : Int) (ts : List Token) : Reading Token ReadFault Node :=
  let forms := readForms (min maxDepth nestingCeiling) {} ts
  let forms := if maxDepth ≤ nestingCeiling then forms else forms.mapFault .withoutOpener
  forms.map .program

/-- The program that the tokens spell. -/
def ofTokens (maxDepth : Int) (ts : List Token) : Except ReadFault Node :=
  (readProgram maxDepth ts).outcome

end Node

/-- Reads one token. -/
def Token.next : List Token → Reading Token ReadFault Token
  | [] => ⟨.error .unexpectedEnd, []⟩
  | t :: ts => ⟨.ok t, ts⟩

end SexprAsm
