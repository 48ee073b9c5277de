import Lexis.Command

/-!
The command at the shell: arguments and file in, two streams and a status out.
-/

set_option autoImplicit false
set_option relaxedAutoImplicit false

namespace Lexis.Command

def ReadFailure.ofSystem : IO.Error → ReadFailure
  | .noFileOrDirectory .. => .missing
  | .permissionDenied .. => .system "Permission denied" 13
  | .inappropriateType _ code reason | .resourceExhausted _ code reason
  | .invalidArgument _ code reason | .noSuchThing _ code reason => .system reason code.toNat
  | .otherError code reason | .hardwareFault code reason => .system reason code.toNat
  | error => .system (toString error) 0

def readSource (file : String) : IO (Except ReadFailure String) := do
  try
    let bytes ← IO.FS.readBinFile file
    return decode bytes
  catch error =>
    return .error (ReadFailure.ofSystem error)

def usage : String :=
  "usage: [-v|--verbose]... [-q|--quiet] tokens [-k|--keep-going] FILE\n" ++
    "       [-v|--verbose]... [-q|--quiet] check FILE\n"

end Lexis.Command

open Lexis.Command in
def main (args : List String) : IO UInt32 := do
  match Invocation.ofArguments? args with
  | none =>
    IO.eprint usage
    return misuse.toUInt32
  | some invocation =>
    let outcome := invocation.execute (← readSource invocation.file)
    IO.eprint outcome.messages
    IO.print outcome.output
    return outcome.status.toUInt32
