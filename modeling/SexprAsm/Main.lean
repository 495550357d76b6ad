import SexprAsm.CommandLine.Run
import Std.Time.Format
import Std.Time.Zoned

/-!
# The command

Runs the command on the disk and the console.
-/

namespace SexprAsm.CommandLine

/-- The number of an error, which some operations report negated. -/
def errorNumber (code : UInt32) : Nat :=
  if code < 0x80000000 then code.toNat else (-code).toNat

def HostCause.ofNumber (details : String) : Nat → HostCause
  | 2 => .notFound
  | 17 => .alreadyExists
  | 20 => .notDirectory
  | 21 => .isDirectory
  | 36 => .nameTooLong
  | n => .other n details

def HostCause.ofError : IO.Error → HostCause
  | .noFileOrDirectory .. => .notFound
  | .alreadyExists .. => .alreadyExists
  | .inappropriateType _ code details
  | .permissionDenied _ code details
  | .invalidArgument _ code details
  | .resourceExhausted _ code details
  | .otherError code details => .ofNumber details (errorNumber code)
  | e => .other 0 (toString e)

def attempt {α : Type} (path : String) (act : IO α) : IO (Except HostFault α) := do
  match pathObstacle? path with
  | some cause => return .error ⟨cause, path⟩
  | none =>
    try return .ok (← act)
    catch e => return .error ⟨.ofError e, path⟩

/-- A directory is what holds an entry for itself. -/
def isDirectory (path : String) : IO Bool := do
  match ← attempt path (IO.FS.createDir (path ++ "/.")) with
  | .error f => return f.cause = .alreadyExists
  | .ok () => return true

def disk : Host IO where
  readFile path := attempt path (return (← IO.FS.readBinFile path).toList)
  writeFile path octets := attempt path (IO.FS.writeBinFile path octets.toByteArray)
  appendFile path octets :=
    attempt path (IO.FS.withFile path .append fun h => h.write octets.toByteArray)
  makeDirectory path := attempt path (IO.FS.createDir path)
  isDirectory := isDirectory
  workingDirectory := return (← IO.currentDir).toString
  now := return (← Std.Time.PlainDateTime.now).format "uuuu-MM-dd HH:mm:ss,SSS"

end SexprAsm.CommandLine

def main (arguments : List String) : IO UInt32 := do
  let report ← SexprAsm.CommandLine.run SexprAsm.CommandLine.disk arguments
  IO.print report.stdout
  IO.eprint report.stderr
  match report.ending with
  | .exit code => return code.toUInt32
  | .breakdown b =>
    IO.eprintln b.message
    return 1
