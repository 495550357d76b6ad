import SexprAsm.CommandLine.Usage
import SexprAsm.Node
import SexprAsm.Text.Numeral

/-!
# Arguments

From the arguments of the command to its settings. First every argument is classed by itself: an
abbreviation of several switches is refused there, before anything is done. Then the arguments are
taken from left to right. Those that fit nowhere are gathered and refused at the end.
-/

namespace SexprAsm.CommandLine

/-- A source text, and how it is shown to the person who gave it. -/
structure Source where
  text : String
  shown : String := text
  deriving DecidableEq

/-- A source that was asked for without a text is empty, and shown as an empty list. -/
def Source.missing : Source :=
  { text := "", shown := "[]" }

structure Settings where
  input : Option String := none
  expr : Option Source := none
  output : Option String := none
  /-- The target, unless its switch was left without a value. -/
  target : Option Profile := some .zee
  /-- The limit on nesting, unless its switch was left without a value. -/
  maxDepth : Option Int := some defaultMaxDepth
  keepBlankLines : Bool := false
  tokens : Bool := false
  ast : Bool := false
  verbose : Bool := false
  quiet : Bool := false
  logFile : Option String := none
  deriving DecidableEq

/-- Why the arguments do not lead to a run. -/
inductive Interruption where
  | help
  | version
  | fault (f : UsageFault)
  deriving DecidableEq

/-- An argument by itself. -/
inductive Word where
  | plain (text : String)
  /-- The two dashes after which everything is plain. -/
  | separator
  | switch (s : Switch) (short : Bool) (value : Option String)
  /-- It looks like a switch and is none. -/
  | unknown (text : String)
  deriving DecidableEq

namespace Word

/-- A dash and a decimal number, which may have a fraction. -/
def isNegativeNumber (cs : List Char) : Bool :=
  match cs with
  | '-' :: cs =>
    let isDigit c := (Text.digitValue? c).isSome
    let cs := if cs.getLast? = some '\n' then cs.dropLast else cs
    match cs.dropWhile isDigit with
    | [] => !cs.isEmpty
    | '.' :: fraction => !fraction.isEmpty && fraction.all isDigit
    | _ => false
  | _ => false

/-- An argument that is no switch, nor the beginning of one. -/
def ofOther (argument : String) : Word :=
  let cs := argument.toList
  if isNegativeNumber cs || cs.contains ' ' then plain argument else unknown argument

/-- The text before the first equals sign, and the text after it if there is one. -/
def splitValue (cs : List Char) : String × Option String :=
  let name := cs.takeWhile (· ≠ '=')
  (String.ofList name, (cs.dropWhile (· ≠ '=')).tail?.map String.ofList)

/-- A long switch may be cut short as long as it remains one of a kind. -/
def ofLong (argument : String) : Except UsageFault Word :=
  let (name, value) := splitValue argument.toList
  match Switch.table.filter fun (spelling, _) => name.toList.isPrefixOf spelling.toList with
  | [] => .ok (ofOther argument)
  | [(_, s)] => .ok (switch s false value)
  | candidates => .error (.ambiguous argument (candidates.map (·.1)))

/-- The argument of a single dash: a letter, with its value or with more letters attached. -/
def ofShort (argument : String) : Word :=
  match argument.toList with
  | _ :: c :: attached =>
    match Switch.ofLetter? c with
    | some s => switch s true (some (String.ofList attached))
    | none => ofOther argument
  | _ => plain argument

def classify (argument : String) : Except UsageFault Word :=
  let (name, value) := splitValue argument.toList
  match Switch.ofSpelling? argument, Switch.ofSpelling? name with
  | some s, _ => .ok (switch s false none)
  | none, some s => .ok (switch s (name.toList.length = 2) value)
  | none, none =>
    match argument.toList with
    | '-' :: '-' :: _ => ofLong argument
    | '-' :: _ => .ok (ofShort argument)
    | _ => .ok (plain argument)

def classifyAll : List String → Except UsageFault (List Word)
  | [] => .ok []
  | argument :: arguments =>
    if argument = "--" then .ok (separator :: arguments.map plain)
    else do return (← classify argument) :: (← classifyAll arguments)

end Word

/-- What an argument with a switch asks for. -/
structure Request where
  /-- The switches without a value, in order. -/
  flags : List Switch := []
  /-- The switch at the end that takes a value, and the value if it is attached. -/
  valued : Option (Switch × Option String) := none

namespace Request

/-- Reads the characters after a letter: more letters, up to one that takes the rest as value. -/
def ofCluster (s : Switch) : List Char → Except UsageFault Request
  | [] => .ok (if s.takesValue then { valued := some (s, none) } else { flags := [s] })
  | c :: cs =>
    if s.takesValue then .ok { valued := some (s, some (String.ofList (c :: cs))) }
    else match Switch.ofLetter? c with
      | none => .error (.unwantedValue s (String.ofList (c :: cs)))
      | some s' => (ofCluster s' cs).map fun r => { r with flags := s :: r.flags }

def ofSwitch (s : Switch) (short : Bool) : Option String → Except UsageFault Request
  | none => ofCluster s []
  | some value =>
    if s.takesValue then .ok { valued := some (s, some value) }
    else if short && value ≠ "" then ofCluster s value.toList
    else .error (.unwantedValue s value)

end Request

namespace Settings

def raise (settings : Settings) : Switch → Except Interruption Settings
  | .help => .error .help
  | .version => .error .version
  | .keepBlankLines => .ok { settings with keepBlankLines := true }
  | .tokens => .ok { settings with tokens := true }
  | .ast => .ok { settings with ast := true }
  | .verbose => .ok { settings with verbose := true }
  | .quiet => .ok { settings with quiet := true }
  | _ => .ok settings

def raiseAll (settings : Settings) : List Switch → Except Interruption Settings
  | [] => .ok settings
  | s :: switches => do (← settings.raise s).raiseAll switches

/-- Leaves a switch without a value, also if it had one before. -/
def clear (settings : Settings) : Switch → Settings
  | .expr => { settings with expr := some .missing }
  | .output => { settings with output := none }
  | .logFile => { settings with logFile := none }
  | .target => { settings with target := none }
  | .maxDepth => { settings with maxDepth := none }
  | _ => settings

/-- Gives a switch its value. Two dashes are no value: they are dropped as a separator is. -/
def assign (settings : Settings) (s : Switch) (value : String) : Except UsageFault Settings :=
  if value = "--" then .ok (settings.clear s)
  else match s with
  | .expr => .ok { settings with expr := some { text := value } }
  | .output => .ok { settings with output := some value }
  | .logFile => .ok { settings with logFile := some value }
  | .target =>
    match Profile.find? value with
    | some profile => .ok { settings with target := some profile }
    | none => .error (.notTarget s value)
  | .maxDepth =>
    match Text.integer? value with
    | some n => .ok { settings with maxDepth := some n }
    | none => .error (.notInteger s value)
  | _ => .ok settings

end Settings

/-- The arguments taken so far. -/
structure Draft where
  settings : Settings := {}
  /-- The last argument was taken as the input. -/
  inputJustTaken : Bool := false
  unrecognized : List String := []

namespace Draft

def refuse (d : Draft) (text : String) : Draft :=
  { d with unrecognized := d.unrecognized ++ [text], inputJustTaken := false }

/-- The first plain argument is the input. -/
def takePlain (d : Draft) (text : String) : Draft :=
  match d.settings.input with
  | none => { d with settings := { d.settings with input := some text }, inputJustTaken := true }
  | some _ => d.refuse text

/-- The separator goes with the input: before it, or right after it. -/
def takeSeparator (d : Draft) : Draft :=
  if d.settings.input.isNone || d.inputJustTaken then { d with inputJustTaken := false }
  else d.refuse "--"

/-- Raises the flags in order and then assigns the value. -/
def serve (d : Draft) (flags : List Switch) (valued : Option (Switch × String)) :
    Except Interruption Draft := do
  let settings ← d.settings.raiseAll flags
  let settings ← match valued with
    | none => .ok settings
    | some (s, value) => (settings.assign s value).mapError .fault
  return { d with settings, inputJustTaken := false }

/-- Takes the arguments from left to right. A value that is not attached to its switch is the next
argument, which must be a plain one. -/
def takeWords (d : Draft) : List Word → Except Interruption Draft
  | [] => .ok d
  | .plain text :: words => (d.takePlain text).takeWords words
  | .separator :: words => d.takeSeparator.takeWords words
  | .unknown text :: words => (d.refuse text).takeWords words
  | .switch s short value :: words =>
    match Request.ofSwitch s short value, words with
    | .error f, _ => .error (.fault f)
    | .ok ⟨flags, none⟩, words => do (← d.serve flags none).takeWords words
    | .ok ⟨flags, some (s, some value)⟩, words => do
      (← d.serve flags (some (s, value))).takeWords words
    | .ok ⟨flags, some (s, none)⟩, .plain value :: words => do
      (← d.serve flags (some (s, value))).takeWords words
    | .ok ⟨_, some (s, none)⟩, _ => .error (.fault (.missingValue s))

end Draft

def Settings.ofArguments (arguments : List String) : Except Interruption Settings :=
  match Word.classifyAll arguments with
  | .error f => .error (.fault f)
  | .ok words => do
    let d ← ({} : Draft).takeWords words
    if d.unrecognized.isEmpty then .ok d.settings
    else .error (.fault (.unrecognized d.unrecognized))

end SexprAsm.CommandLine
