import SexprAsm.Listing.Generator
import SexprAsm.Node.Reader
import SexprAsm.Token.Scanner

/-!
# Diagnostics

What is said to a person when a source cannot be compiled: the phase that gave up, what is wrong
and where. The faults of the three phases are causes, and each has one diagnostic.
-/

namespace SexprAsm

inductive Phase where
  | compile
  | lex
  | parse
  | codegen
  deriving DecidableEq

def Phase.name : Phase → String
  | compile => "compile"
  | lex => "lex"
  | parse => "parse"
  | codegen => "codegen"

/-- Where something is wrong, and thereby in which phase. -/
inductive Place where
  | nowhere
  /-- A position in the source and the text there, if any is to be shown. -/
  | source (pos : Int) (text : String)
  | token (token : Option Token)
  | node (node : Option Node)
  deriving DecidableEq

structure Diagnostic where
  detail : String
  place : Place
  deriving DecidableEq

namespace Diagnostic

def phase (d : Diagnostic) : Phase :=
  match d.place with
  | .nowhere => .compile
  | .source .. => .lex
  | .token _ => .parse
  | .node _ => .codegen

/-- The phase and the detail, without the place. -/
def describe (d : Diagnostic) : String :=
  d.phase.name ++ " error: " ++ d.detail

/-- The full text, with the place. -/
def message (d : Diagnostic) : String :=
  match d.place with
  | .nowhere => d.detail
  | .source pos text =>
    "Lex error at offset " ++ toString pos ++ ": " ++ d.detail ++
      (if text = "" then "" else " (" ++ Text.quote text ++ ")")
  | .token none => "Parse error: " ++ d.detail
  | .token (some t) =>
    "Parse error: " ++ d.detail ++ " (got " ++ t.kind.name ++ " = " ++ Text.quote t.text ++ ")"
  | .node none => "Code generation error: " ++ d.detail
  | .node (some n) => "Code generation error: " ++ d.detail ++ " (" ++ n.kind.name ++ ")"

end Diagnostic

def ScanFault.diagnostic (f : ScanFault) : Diagnostic :=
  match f.cause with
  | .illegalCharacter c => ⟨"illegal character", .source f.pos (String.singleton c)⟩
  | .unexpectedEnd => ⟨"unexpected end of input", .source f.pos ""⟩

/-- The message about a call without an operator, which is no fault of any phase. -/
def emptyOperatorMessage : String :=
  "Call requires a non-empty operator"

/-- An empty operator has no diagnostic: no source text leads to one. -/
def ReadFault.diagnostic? : ReadFault → Option Diagnostic
  | .unexpectedEnd => some ⟨"unexpected end of tokens", .token none⟩
  | .nestingTooDeep opener => some ⟨"nesting too deep", .token opener⟩
  | .missingOperator t => some ⟨"missing operator", .token (some t)⟩
  | .unknownToken t => some ⟨"unknown token", .token (some t)⟩
  | .unmatchedClose t => some ⟨"unmatched close paren", .token (some t)⟩
  | .emptyOperator => none

def ListingFault.diagnostic : ListingFault → Diagnostic
  | .unknownKind n => ⟨"unknown node kind", .node (some n)⟩
  | .nestingTooDeep n => ⟨"nesting too deep", .node (some n)⟩

end SexprAsm
