import SexprAsm.Text.Newline
import SexprAsm.Text.Uppercase

/-!
# Listings

A listing is a sequence of lines: instructions of the stack machine, comments, and blank places
where nothing is emitted. A profile says how a target writes instructions and whether it takes
comments; a style adds whether blank places are kept.
-/

namespace SexprAsm

inductive Instruction where
  | start
  | halt
  | push (digits : String)
  /-- Applies an operator to the values on the stack. -/
  | apply (operator : String)
  deriving DecidableEq

/-- The mnemonic of an operator is its upper-case form. -/
def Instruction.text : Instruction → String
  | start => "START"
  | halt => "HALT"
  | push digits => "PUSH #" ++ digits
  | apply operator => Text.uppercase operator

inductive Line where
  | comment (text : String)
  | instruction (i : Instruction)
  | blank
  deriving DecidableEq

/-- How a target writes its listings. -/
structure Profile where
  name : String
  /-- What stands before each instruction. -/
  indent : String
  comments : Bool
  description : String
  deriving DecidableEq

namespace Profile

def zee : Profile :=
  { name := "zee", indent := "\t\t", comments := true, description := "Zee VM textual assembly" }

def bare : Profile :=
  { name := "bare", indent := "", comments := false,
    description := "Unindented mnemonics, no comment lines" }

def all : List Profile :=
  [zee, bare]

def find? (name : String) : Option Profile :=
  all.find? (·.name = name)

/-- The profile of that name; unknown names stand for the first profile. -/
def ofName (name : String) : Profile :=
  (find? name).getD zee

end Profile

structure Style where
  profile : Profile := .zee
  keepBlankLines : Bool := false
  deriving DecidableEq

namespace Style

/-- A line as it is written, if the style has it. -/
def writeLine (style : Style) : Line → Option String
  | .comment text => if style.profile.comments then some (";; " ++ text) else none
  | .instruction i => some (style.profile.indent ++ i.text)
  | .blank => if style.keepBlankLines then some "" else none

def writeLines (style : Style) (lines : List Line) : List String :=
  lines.filterMap style.writeLine

/-- The whole listing; its last line is ended too. -/
def write (style : Style) (lines : List Line) : String :=
  Text.joinLines (style.writeLines lines) ++ "\n"

/-- Lines that are written already; where there are none, a blank line if the style keeps them. -/
def emit (style : Style) (lines : List String) : List String :=
  if lines.isEmpty then style.writeLines [.blank] else lines

end Style

end SexprAsm
