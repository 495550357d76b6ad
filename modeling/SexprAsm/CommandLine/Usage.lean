import SexprAsm.CommandLine.Switch
import SexprAsm.Listing
import SexprAsm.Text.Quoted

/-!
# Usage

What the command says about its arguments, when asked and when they are wrong.
-/

namespace SexprAsm.CommandLine

def usageLines : List String :=
  ["usage: zeecc [-h] [-e EXPR] [-o OUTPUT] [--target \x7bzee,bare\x7d]",
    "             [--max-depth MAX_DEPTH] [--keep-blank-lines] [--tokens] [--ast]",
    "             [--verbose] [--quiet] [--log-file LOG_FILE] [--version]",
    "             [input]"]

def helpLines : List String :=
  ["",
    "Compile S-expressions to Zee VM assembly",
    "",
    "positional arguments:",
    "  input                 Input source file",
    "",
    "options:",
    "  -h, --help            show this help message and exit",
    "  -e EXPR, --expr EXPR  Compile this source string instead of a file",
    "  -o OUTPUT, --output OUTPUT",
    "                        Output file (default: stdout)",
    "  --target \x7bzee,bare\x7d   Output profile (default: zee)",
    "  --max-depth MAX_DEPTH",
    "                        Maximum nesting depth (default: 256)",
    "  --keep-blank-lines    Emit a blank line for every empty emission",
    "  --tokens              Dump token stream and exit (debug)",
    "  --ast                 Dump AST and exit (debug)",
    "  --verbose, -v         Log compilation details to stderr",
    "  --quiet, -q           Suppress all logging except errors",
    "  --log-file LOG_FILE   Write a debug log to this file",
    "  --version             show program's version number and exit",
    "",
    "Targets: zee, bare"]

/-- The lines, each ended. -/
def endedLines (lines : List String) : String :=
  String.join (lines.map (· ++ "\n"))

def usage : String :=
  endedLines usageLines

def help : String :=
  endedLines (usageLines ++ helpLines)

/-- What is wrong with the arguments. -/
inductive UsageFault where
  | ambiguous (argument : String) (candidates : List String)
  | missingValue (s : Switch)
  | unwantedValue (s : Switch) (value : String)
  | notInteger (s : Switch) (value : String)
  | notTarget (s : Switch) (value : String)
  | unrecognized (arguments : List String)
  deriving DecidableEq

namespace UsageFault

def detail : UsageFault → String
  | ambiguous argument candidates =>
    "ambiguous option: " ++ argument ++ " could match " ++ ", ".intercalate candidates
  | missingValue s => about s "expected one argument"
  | unwantedValue s value => about s ("ignored explicit argument " ++ Text.quote value)
  | notInteger s value => about s ("invalid int value: " ++ Text.quote value)
  | notTarget s value =>
    about s ("invalid choice: " ++ Text.quote value ++ " (choose from " ++
      ", ".intercalate (Profile.all.map fun p => Text.quote p.name) ++ ")")
  | unrecognized arguments => "unrecognized arguments: " ++ " ".intercalate arguments
where
  about (s : Switch) (text : String) : String :=
    "argument " ++ s.title ++ ": " ++ text

def message (f : UsageFault) : String :=
  usage ++ commandName ++ ": error: " ++ f.detail ++ "\n"

end UsageFault

end SexprAsm.CommandLine
