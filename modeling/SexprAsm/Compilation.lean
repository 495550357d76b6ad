import SexprAsm.Diagnostic
import SexprAsm.Log
import SexprAsm.Node.Dump

/-!
# Compilation

The three phases in a row: source text to tokens, tokens to a tree, the tree to a listing. The
first fault ends it. What each phase came to is kept, so that it can be logged.
-/

namespace SexprAsm

def version : String := "0.1.0"

def defaultTarget : Profile := .zee

/-- A source to try the compiler on. -/
def demoSource : String := "(print (add 2 (subtract 4 2)))"

structure CompileOptions where
  style : Style := {}
  maxDepth : Int := defaultMaxDepth
  deriving DecidableEq

/-- The options for a target of that name. -/
def CompileOptions.ofTarget (target : String) (keepBlankLines : Bool) (maxDepth : Int) :
    CompileOptions :=
  { style := { profile := .ofName target, keepBlankLines }, maxDepth }

inductive Fault where
  | scan (f : ScanFault)
  | read (f : ReadFault)
  | listing (f : ListingFault)
  deriving DecidableEq

def Fault.diagnostic? : Fault → Option Diagnostic
  | .scan f => some f.diagnostic
  | .read f => f.diagnostic?
  | .listing f => some f.diagnostic

/-- How far a compilation came. -/
structure Compilation where
  tokens : Option (List Token)
  tree : Option Node
  outcome : Except Fault String

namespace Compilation

def run (options : CompileOptions) (source : String) : Compilation :=
  match tokenize source with
  | .error f => ⟨none, none, .error (.scan f)⟩
  | .ok ts =>
    match Node.ofTokens options.maxDepth ts with
    | .error f => ⟨some ts, none, .error (.read f)⟩
    | .ok tree =>
      ⟨some ts, some tree, (tree.listing options.style options.maxDepth).mapError .listing⟩

/-- The name under which a compilation logs. -/
def origin : String := "zee_compiler"

/-- What the phases that succeeded have to show. -/
def debugRecords (c : Compilation) : List Record :=
  (c.tokens.map fun ts => ⟨origin, .debug, "tokens:\n" ++ Token.dump ts⟩).toList ++
    (c.tree.map fun n => ⟨origin, .debug, "ast:\n" ++ n.dump⟩).toList

/-- The record of the failure, if there was one. -/
def failureRecords (origin : String) (c : Compilation) : List Record :=
  match c.outcome with
  | .ok _ => []
  | .error f => (f.diagnostic?.map fun d => ⟨origin, .error, d.describe⟩).toList

def records (c : Compilation) : List Record :=
  c.debugRecords ++ c.failureRecords origin

end Compilation

/-- The listing of a source text. -/
def compile (options : CompileOptions) (source : String) : Except Fault String :=
  (Compilation.run options source).outcome

end SexprAsm
