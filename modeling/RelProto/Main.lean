import RelProto.Run
import RelProto.Sqlite.Files

/-! The command line program. Of all databases only those in memory can be reached from here. -/
namespace RelProto

/-- The system error behind a failed file operation. -/
def OsFault.ofError : IO.Error → OsFault
  | .noFileOrDirectory _ code _ | .interrupted _ code _ | .alreadyExists _ code _
  | .permissionDenied _ code _ | .resourceExhausted _ code _ | .inappropriateType _ code _
  | .noSuchThing _ code _ | .invalidArgument _ code _ | .otherError code _
  | .resourceBusy code _ | .resourceVanished code _ | .unsupportedOperation code _
  | .hardwareFault code _ | .unsatisfiedConstraints code _ | .illegalOperation code _
  | .protocolError code _ | .timeExpired code _ => .system code.toNat
  | .unexpectedEof | .userError _ => .system 5

/-- Computations that the program carries out. -/
abbrev Program : Type → Type := ExceptT Fault IO

namespace Program

/-- Runs a file operation, which may fail. -/
def attempt {α : Type} (operation : IO α) : Program (Except OsFault α) := do
  match ← operation.toBaseIO with
  | .ok a => return .ok a
  | .error error => return .error (.ofError error)

/-- Log lines are not shown. -/
instance : MonadLift (Logged Fault) Program := ⟨fun x => ExceptT.mk (pure x.result)⟩

instance : Host Program where
  readFile path := do
    let bytes ← attempt (IO.FS.readBinFile path)
    return bytes.bind fun bytes => (String.fromUTF8? bytes).elim (.error .notUtf8) .ok
  createDirectories path :=
    if path.isEmpty then return .ok () else attempt (IO.FS.createDirAll path)
  writeFile path content := attempt (IO.FS.writeBinFile path content)
  print text := IO.print text

/-- Reads the configured database. -/
def readDatabase (config : Config) : Program Database := do
  let user := (← IO.getEnv "USER").getD ""
  let connect := (Servers.unreachable .withoutFiles user : Servers Unit).connect
  let (outcome, _) := (Run.readDatabase connect config).run (.empty, .start ())
  outcome

def run (path : String) (outputDirectory : Option String) : IO Report := do
  let result ← (Run.generate readDatabase path outputDirectory : Program Unit)
  return .ofResult "" result

end Program

end RelProto

open RelProto in
def main (arguments : List String) : IO UInt32 := do
  let report ← (Command.ofArguments arguments).report Program.run
  IO.print report.output
  IO.eprint report.errors
  return report.status.toUInt32
