import SexprAsm.Text.Newline
import SexprAsm.Text.Quoted

/-!
# Tokens

The words of the source language: parentheses, identifiers, numbers and strings.
-/

namespace SexprAsm

inductive Token.Kind where
  | lparen
  | rparen
  | ident
  | number
  | string
  deriving DecidableEq

namespace Token.Kind

def name : Kind → String
  | lparen => "LPAREN"
  | rparen => "RPAREN"
  | ident => "IDENT"
  | number => "NUMBER"
  | string => "STRING"

/-- What stands for a kind in lists of kinds: its only spelling if it has one, else its name. -/
def symbol : Kind → String
  | lparen => "("
  | rparen => ")"
  | kind => kind.name

def all : List Kind :=
  [lparen, rparen, ident, number, string]

end Token.Kind

/-- A token and its text. The text of a string token is what stands between its quotes. -/
structure Token where
  kind : Token.Kind
  text : String
  deriving DecidableEq

namespace Token

def lparen : Token := ⟨.lparen, "("⟩

def rparen : Token := ⟨.rparen, ")"⟩

/-- The token as a term, its text quoted. -/
def display (t : Token) : String :=
  "Token(" ++ t.kind.name ++ ", " ++ Text.quote t.text ++ ")"

def dumpLine (t : Token) : String :=
  ";; " ++ t.kind.name ++ ":" ++ t.text

/-- The tokens in comment lines, one for each, between a head and a foot. -/
def dump (ts : List Token) : String :=
  Text.joinLines
    (";; BEGIN Token List Dump" :: ts.map dumpLine ++ [";; END Token List Dump"])

end Token

end SexprAsm
