import SexprAsm.CommandLine.Host

/-!
# File trees

The files and directories of a machine, as a value. It is a host for commands: paths lead from the
working directory or from the root. What has not been put into the tree is not there, except for
the working directory and the directories that it lies in.
-/

namespace SexprAsm.CommandLine

/-- The names that lead from the root to a place in the tree. -/
abbrev Location := List String

namespace Location

/-- One step of a path: an empty step and a single dot stay, two dots go up as far as the root, and
a name goes down. -/
def step (l : Location) (name : String) : Except HostCause Location :=
  if name = "" ∨ name = "." then .ok l
  else if name = ".." then .ok l.dropLast
  else if name.utf8ByteSize > 255 then .error .nameTooLong
  else .ok (l ++ [name])

end Location

inductive Entry where
  | file (octets : List UInt8)
  | directory
  /-- A file that stays empty whatever is written to it. -/
  | sink
  deriving DecidableEq

structure FileTree where
  working : Location := []
  entries : List (Location × Entry) := []
  deriving DecidableEq

namespace FileTree

/-- The directories at the root of a system. -/
def systemDirectories : List String :=
  ["bin", "boot", "dev", "etc", "home", "lib", "media", "mnt", "opt", "proc", "root", "run", "sbin",
    "srv", "sys", "tmp", "usr", "var"]

/-- A system with an empty working directory. -/
def system (working : Location) : FileTree :=
  { working
    entries := systemDirectories.map (fun name => ([name], .directory)) ++
      [(["dev", "null"], .sink)] }

def find? (t : FileTree) (l : Location) : Option Entry :=
  if l.isPrefixOf t.working then some .directory else t.entries.lookup l

/-- Puts an entry in the place of the one that is there, or after all others. -/
def insert (t : FileTree) (l : Location) (entry : Entry) : FileTree :=
  { t with
    entries :=
      if t.entries.any (·.1 = l) then
        t.entries.map fun (k, e) => if k = l then (k, entry) else (k, e)
      else t.entries ++ [(l, entry)] }

/-- Where the steps of a path lead from a location. Each step needs a directory to start from. -/
def follow (t : FileTree) : Location → List String → Except HostCause Location
  | l, [] => .ok l
  | l, name :: names =>
    match t.find? l with
    | none => .error .notFound
    | some .directory =>
      match Location.step l name with
      | .error cause => .error cause
      | .ok l => t.follow l names
    | some _ => .error .notDirectory

/-- Where a path starts. -/
def start (t : FileTree) (path : String) : Location :=
  if (Path.ofText path).root = "" then t.working else []

def resolve (t : FileTree) (path : String) : Except HostCause Location :=
  match pathObstacle? path with
  | some cause => .error cause
  | none => t.follow (t.start path) (pathSteps path)

/-- Where a file of that path is or would be. The directory that it lies in is looked up first. A
path that ends in a slash is one of a directory. -/
def fileToWrite (t : FileTree) (path : String) : Except HostCause Location :=
  match pathObstacle? path with
  | some cause => .error cause
  | none => do
    let bare := String.ofList (path.toList.reverse.dropWhile (· = '/')).reverse
    let steps := pathSteps bare
    let parent ← t.follow (t.start path) (steps.dropLast ++ ["."])
    if bare ≠ path then .error .isDirectory
    else
      let l ← Location.step parent (steps.getLastD "")
      if t.find? l = some .directory then .error .isDirectory else .ok l

def readFile (t : FileTree) (path : String) : Except HostCause (List UInt8) :=
  match t.resolve path with
  | .error cause => .error cause
  | .ok l =>
    match t.find? l with
    | none => .error .notFound
    | some .directory => .error .isDirectory
    | some (.file octets) => .ok octets
    | some .sink => .ok []

/-- The octets of the file at a location, none if there is no file. -/
def octetsAt (t : FileTree) (l : Location) : List UInt8 :=
  match t.find? l with
  | some (.file octets) => octets
  | _ => []

/-- Gives the file at a location its octets. -/
def store (t : FileTree) (l : Location) (octets : List UInt8) : FileTree :=
  if t.find? l = some .sink then t else t.insert l (.file octets)

def writeFile (t : FileTree) (path : String) (octets : List UInt8) :
    Except HostCause FileTree :=
  (t.fileToWrite path).map fun l => t.store l octets

def appendFile (t : FileTree) (path : String) (octets : List UInt8) :
    Except HostCause FileTree :=
  (t.fileToWrite path).map fun l => t.store l (t.octetsAt l ++ octets)

def makeDirectory (t : FileTree) (path : String) : Except HostCause FileTree :=
  match t.resolve path with
  | .error cause => .error cause
  | .ok l =>
    match t.find? l with
    | some _ => .error .alreadyExists
    | none => .ok (t.insert l .directory)

def isDirectory (t : FileTree) (path : String) : Bool :=
  match t.resolve path with
  | .error _ => false
  | .ok l => t.find? l = some .directory

/-- Changes the tree, or leaves it and says which path was refused. -/
def attempt (path : String) (change : FileTree → Except HostCause FileTree) :
    StateM FileTree (Except HostFault Unit) := fun t =>
  match change t with
  | .ok t' => (.ok (), t')
  | .error cause => (.error ⟨cause, path⟩, t)

/-- The host whose disk is a file tree and whose clock stands still. -/
def host (now : String) : Host (StateM FileTree) where
  readFile path := fun t => ((t.readFile path).mapError (⟨·, path⟩), t)
  writeFile path octets := attempt path (·.writeFile path octets)
  appendFile path octets := attempt path (·.appendFile path octets)
  makeDirectory path := attempt path (·.makeDirectory path)
  isDirectory path := fun t => (t.isDirectory path, t)
  workingDirectory := fun t => (Path.text ⟨"/", t.working⟩, t)
  now := fun t => (now, t)

end FileTree

end SexprAsm.CommandLine
