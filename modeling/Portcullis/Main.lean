import Portcullis.CommandLine.Run
import Std.Time.DateTime.Timestamp
/-! The program: commands run on the files, the environment and the clock of the machine.

No transport is connected, so generation ends as it does when the endpoint cannot be
reached. The variable `WARDEN_LOG` holds the filter for notices. -/
namespace Portcullis.Machine
open CommandLine

/-- The bytes of a file of the machine. -/
def readFile (path : String) : IO (Except FileFault ByteArray) := do
  try
    return .ok (← IO.FS.readBinFile path)
  catch
    | .noFileOrDirectory .. => return .error .missing
    | e => return .error (.unreadable (toString e))

/-- The time of the machine. -/
def now : IO Instant := do
  let t ← Std.Time.Timestamp.now
  return (Instant.ofUnix? t.val.second.val.toNat t.val.nano.val.toNat).getD .epoch

/-- The filter that the environment asks for. -/
def filter : IO Notice.Filter := do
  return ((← IO.getEnv "WARDEN_LOG").bind Notice.Filter.ofText?).getD .standard

end Portcullis.Machine

open Portcullis CommandLine in
/-- Run the command that the arguments spell. -/
def main (arguments : List String) : IO UInt32 := do
  let time ← Machine.now
  let session ← run ⟨Machine.readFile, fun name => IO.getEnv name, .unconnected, time⟩ arguments
  IO.print (session.transcript (← Machine.filter) time.text)
  if let some complaint := session.complaint then IO.eprintln complaint
  return session.exitCode.toUInt32
