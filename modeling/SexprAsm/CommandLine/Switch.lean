/-!
# Switches

The options of the command, with their spellings.
-/

namespace SexprAsm.CommandLine

/-- The name by which the command calls itself. -/
def commandName : String := "zeecc"

inductive Switch where
  | help
  | expr
  | output
  | target
  | maxDepth
  | keepBlankLines
  | tokens
  | ast
  | verbose
  | quiet
  | logFile
  | version
  deriving DecidableEq

namespace Switch

def all : List Switch :=
  [help, expr, output, target, maxDepth, keepBlankLines, tokens, ast, verbose, quiet, logFile,
    version]

def spellings : Switch → List String
  | help => ["-h", "--help"]
  | expr => ["-e", "--expr"]
  | output => ["-o", "--output"]
  | target => ["--target"]
  | maxDepth => ["--max-depth"]
  | keepBlankLines => ["--keep-blank-lines"]
  | tokens => ["--tokens"]
  | ast => ["--ast"]
  | verbose => ["--verbose", "-v"]
  | quiet => ["--quiet", "-q"]
  | logFile => ["--log-file"]
  | version => ["--version"]

def takesValue : Switch → Bool
  | expr | output | target | maxDepth | logFile => true
  | _ => false

/-- All spellings of a switch together. -/
def title (s : Switch) : String :=
  "/".intercalate s.spellings

/-- Every spelling with its switch. -/
def table : List (String × Switch) :=
  all.flatMap fun s => s.spellings.map (·, s)

def ofSpelling? (spelling : String) : Option Switch :=
  table.lookup spelling

/-- The switch of a single dash and a letter. -/
def ofLetter? (c : Char) : Option Switch :=
  ofSpelling? (String.ofList ['-', c])

end Switch

end SexprAsm.CommandLine
