import SexprAsm.CommandLine.Arguments
import SexprAsm.CommandLine.Host
import SexprAsm.Compilation
import SexprAsm.Text.Utf8

/-!
# Running the command

One run of the command: settings from the arguments, the log file, the source, the dump or the
listing, and what is said on the way. The log file is opened before anything else and every record
goes to it when it is made. The console shows the records of its level and above.
-/

namespace SexprAsm.CommandLine

/-- Why a run broke off without an exit code. -/
inductive Breakdown where
  | host (f : HostFault)
  | encoding (f : Text.Utf8.Fault)
  /-- There is no target to write for. -/
  | noTarget
  deriving DecidableEq

def Breakdown.message : Breakdown → String
  | host f => f.message
  | encoding f => f.message
  | noTarget => "unhashable type: 'list'"

inductive Ending where
  | exit (code : Nat)
  | breakdown (b : Breakdown)
  deriving DecidableEq

/-- What a run leaves besides files. -/
structure Report where
  ending : Ending
  stdout : String := ""
  stderr : String := ""
  deriving DecidableEq

def Interruption.report : Interruption → Report
  | help => { ending := .exit 0, stdout := CommandLine.help }
  | version =>
    { ending := .exit 0, stdout := commandName ++ " " ++ SexprAsm.version ++ "\n" }
  | fault f => { ending := .exit 2, stderr := f.message }

namespace Settings

/-- An option with an empty value counts as not given. -/
def given (value : Option String) : Option String :=
  value.filter (· ≠ "")

def consoleLevel (s : Settings) : Level :=
  if s.quiet then .error else if s.verbose then .debug else .warning

/-- The limit that calls are held to. Without one the first call is already too deep. -/
def depthLimit (s : Settings) : Int :=
  s.maxDepth.getD 0

def compileOptions (s : Settings) (target : Profile) : CompileOptions :=
  { style := { profile := target, keepBlankLines := s.keepBlankLines }, maxDepth := s.depthLimit }

/-- What the source is called in the log. -/
def sourceName (s : Settings) : String :=
  if s.expr.isSome then "<expr>" else (given s.input).getD "<demo>"

def record (level : Level) (message : String) : Record :=
  { origin := commandName, level, message }

/-- What the settings make of a source: a dump for the console, a listing, or an exit code. -/
inductive Product where
  | dump (text : String)
  | listing (text : String)
  | failed (code : Nat)
  deriving DecidableEq

/-- What is wrong with the compiler or its settings, rather than with the source. -/
def internalFault? (s : Settings) : Fault → Option String
  | .read .emptyOperator => some emptyOperatorMessage
  | .read (.nestingTooDeep _) =>
    if s.maxDepth.isNone then some "'>' not supported between instances of 'int' and 'list'"
    else none
  | _ => none

/-- A fault in the log, and the exit code that goes with it. -/
def failure (s : Settings) (f : Fault) : List Record × Product :=
  match s.internalFault? f with
  | some text => ([record .error ("Internal compiler error: " ++ text)], .failed 2)
  | none =>
    ((f.diagnostic?.map fun d => record .error d.describe).toList, .failed 1)

/-- The records and the product of a source. -/
def process (s : Settings) (target : Profile) (source : String) : List Record × Product :=
  if s.tokens then
    match tokenize source with
    | .ok ts => ([], .dump (Token.dump ts))
    | .error f => s.failure (.scan f)
  else if s.ast then
    match tokenize source with
    | .error f => s.failure (.scan f)
    | .ok ts =>
      match Node.ofTokens s.depthLimit ts with
      | .ok tree => ([], .dump tree.dump)
      | .error f => s.failure (.read f)
  else
    let c := Compilation.run (s.compileOptions target) source
    match c.outcome with
    | .ok text => (c.debugRecords, .listing text)
    | .error f =>
      let (records, product) := s.failure f
      (c.debugRecords ++ records, product)

variable {m : Type → Type} [Monad m]

/-- Appends to the log file, which goes by its path from the root. -/
def appendLog (host : Host m) (path : Path) (octets : List UInt8) :
    m (Except HostFault Unit) := do
  let working ← host.workingDirectory
  host.appendFile (path.absolute (Path.ofText working)).text octets

/-- Opens the log file, making the directories that it lies in. -/
def openLog (s : Settings) (host : Host m) : m (Except HostFault Unit) := do
  match given s.logFile with
  | none => return .ok ()
  | some text =>
    let path := Path.ofText text
    match ← host.makeDirectories path.root path.parent.segments.reverse with
    | .error f => return .error f
    | .ok () => appendLog host path []

/-- Appends records to the log file. The result is what the console shows of them. -/
def log (s : Settings) (host : Host m) (records : List Record) : m String := do
  match given s.logFile with
  | none => pure ()
  | some text =>
    let now ← host.now
    let lines := String.join (records.map (·.fileLine now))
    discard <| appendLog host (Path.ofText text) (Text.Utf8.encode lines.toList)
  return String.join ((records.filter (·.reaches s.consoleLevel)).map (·.consoleLine))

/-- The source: the one on the command line, else the input file, else the demonstration. -/
def readSource (s : Settings) (host : Host m) : m (Except Breakdown Source) :=
  match s.expr, given s.input with
  | some source, _ => return .ok source
  | none, none => return .ok { text := demoSource }
  | none, some path => do
    match ← host.readFile path with
    | .error f => return .error (.host f)
    | .ok octets =>
      match Text.Utf8.decode octets with
      | .error f => return .error (.encoding f)
      | .ok cs => return .ok { text := String.ofList (Text.unifyNewlines cs) }

/-- Writes a listing to the output file or else to the console, where it follows its source. -/
def deliver (s : Settings) (host : Host m) (source : Source) (listing stderr : String) :
    m Report := do
  let count := record .info ("Generated " ++ toString (Text.countNewlines listing) ++ " lines")
  match given s.output with
  | none =>
    let more ← s.log host [count]
    return { ending := .exit 0, stdout := ";; Input code: " ++ source.shown ++ "\n" ++ listing,
             stderr := stderr ++ more }
  | some path =>
    match ← host.writeFile path (Text.Utf8.encode listing.toList) with
    | .error f => return { ending := .breakdown (.host f), stderr }
    | .ok () =>
      let more ← s.log host [record .info ("Output: " ++ path), count]
      return { ending := .exit 0, stderr := stderr ++ more }

/-- The run once the source is read. -/
def runOn (s : Settings) (host : Host m) (source : Source) : m Report := do
  let input := record .info ("Input:  " ++ s.sourceName)
  match s.target with
  | none =>
    let stderr ← s.log host [input]
    return { ending := .breakdown .noTarget, stderr }
  | some target =>
    let opening := record .info ("Target: " ++ target.name ++ " - " ++ target.description)
    let (records, product) := s.process target source.text
    let stderr ← s.log host (input :: opening :: records)
    match product with
    | .dump text => return { ending := .exit 0, stdout := text ++ "\n", stderr }
    | .failed code => return { ending := .exit code, stderr }
    | .listing text => s.deliver host source text stderr

/-- The run once the log file is open. A file that cannot be read is a matter for the log, but a
path that is none, or a file that is no text, breaks the run off. -/
def runOpened (s : Settings) (host : Host m) : m Report := do
  match ← s.readSource host with
  | .ok source => s.runOn host source
  | .error (.host f) =>
    if f.cause = .nullInPath then return { ending := .breakdown (.host f) }
    else
      let stderr ← s.log host [record .error ("Error reading " ++ f.path ++ ": " ++ f.message)]
      return { ending := .exit 1, stderr }
  | .error b => return { ending := .breakdown b }

end Settings

/-- One run of the command. -/
def run {m : Type → Type} [Monad m] (host : Host m) (arguments : List String) : m Report :=
  match Settings.ofArguments arguments with
  | .error i => return i.report
  | .ok s => do
    match ← s.openLog host with
    | .error f => return { ending := .breakdown (.host f) }
    | .ok () => s.runOpened host

end SexprAsm.CommandLine
