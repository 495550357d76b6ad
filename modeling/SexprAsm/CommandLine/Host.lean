import SexprAsm.CommandLine.Path
import SexprAsm.Text.Quoted

/-!
# The host

What a command needs from the machine that it runs on: files, directories and the time. The
command is written over this interface, so the same steps run on a disk and on a file tree that is
a plain value.
-/

namespace SexprAsm.CommandLine

inductive HostCause where
  | notFound
  | alreadyExists
  | notDirectory
  | isDirectory
  | nameTooLong
  /-- The path holds the character with code zero, which ends every path. -/
  | nullInPath
  | other (code : Nat) (text : String)
  deriving DecidableEq

namespace HostCause

def code : HostCause → Nat
  | notFound => 2
  | alreadyExists => 17
  | notDirectory => 20
  | isDirectory => 21
  | nameTooLong => 36
  | nullInPath => 22
  | other code _ => code

def text : HostCause → String
  | notFound => "No such file or directory"
  | alreadyExists => "File exists"
  | notDirectory => "Not a directory"
  | isDirectory => "Is a directory"
  | nameTooLong => "File name too long"
  | nullInPath => "embedded null byte"
  | other _ text => text

end HostCause

/-- Why the host refused a path. -/
structure HostFault where
  cause : HostCause
  path : String
  deriving DecidableEq

/-- The number, the text and the path; a path that is none is not shown. -/
def HostFault.message (f : HostFault) : String :=
  if f.cause = .nullInPath then f.cause.text
  else "[Errno " ++ toString f.cause.code ++ "] " ++ f.cause.text ++ ": " ++ Text.quote f.path

/-- What is wrong with a path before any directory is looked into. -/
def pathObstacle? (path : String) : Option HostCause :=
  if path.toList.contains '\x00' then some .nullInPath
  else if path = "" then some .notFound
  else if path.utf8ByteSize > 4095 then some .nameTooLong
  else none

structure Host (m : Type → Type) where
  readFile : String → m (Except HostFault (List UInt8))
  /-- Makes the file if there is none, and replaces what was in it. -/
  writeFile : String → List UInt8 → m (Except HostFault Unit)
  /-- Makes the file if there is none, and keeps what was in it. -/
  appendFile : String → List UInt8 → m (Except HostFault Unit)
  makeDirectory : String → m (Except HostFault Unit)
  isDirectory : String → m Bool
  /-- The path of the directory that other paths start from. -/
  workingDirectory : m String
  /-- The time, as it is written in logs. -/
  now : m String

namespace Host

variable {m : Type → Type} [Monad m]

/-- Makes a directory unless it is there already. A path at which nothing can be made because
there is nothing to make it in is left to `onMissing`. -/
def ensureDirectory (host : Host m) (path : String)
    (onMissing : HostFault → m (Except HostFault Unit)) : m (Except HostFault Unit) := do
  match ← host.makeDirectory path with
  | .ok () => return .ok ()
  | .error fault =>
    if fault.cause = .notFound then onMissing fault
    else if ← host.isDirectory path then return .ok ()
    else return .error fault

/-- Makes a directory and those that it lies in, as far as they are missing. The segments of its
path are given from the last to the first. -/
def makeDirectories (host : Host m) (root : String) : List String → m (Except HostFault Unit)
  | [] => host.ensureDirectory (Path.text ⟨root, []⟩) fun fault => return .error fault
  | segment :: outer =>
    let path := Path.text ⟨root, (segment :: outer).reverse⟩
    host.ensureDirectory path fun _ => do
      match ← host.makeDirectories root outer with
      | .ok () => host.ensureDirectory path fun fault => return .error fault
      | .error fault => return .error fault

end Host

end SexprAsm.CommandLine
