import Portcullis.Notice.Filter
/-! Sessions: what a command shows and how it ends.

Notices and results come in the order in which they arise. A filter decides which of the
notices are shown among the results. -/
namespace Portcullis.CommandLine

inductive Output where
  | notice (n : Notice)
  /-- Text of a result, with a line end behind it. -/
  | text (s : String)
  deriving DecidableEq, Repr

structure Session where
  output : List Output
  /-- Why the command failed, if it did. -/
  complaint : Option String
  exitCode : UInt8
  deriving DecidableEq, Repr

namespace Session

/-- A command that ended well. -/
def success (output : List Output) : Session := ⟨output, none, 0⟩

/-- A command that failed after showing something. -/
def failure (output : List Output) (f : Failure) : Session :=
  ⟨output, some ("warden: " ++ f.message), 1⟩

/-- Arguments that spell no command. -/
def usage : Session := ⟨[], none, 2⟩

/-- Show something before the rest of a session. -/
def after (output : List Output) (s : Session) : Session := {s with output := output ++ s.output}

end Session

def Output.notices (ns : List Notice) : List Output := ns.map .notice

/-- What is shown of an output at a time. -/
def Output.shown? (f : Notice.Filter) (time : String) : Output → Option String
  | .notice n => if f.admits n then some (n.line time) else none
  | .text s => some s

/-- Everything a session shows, each piece on a line of its own. -/
def Session.transcript (s : Session) (f : Notice.Filter) (time : String) : String :=
  (s.output.filterMap (Output.shown? f time)).foldl (fun sofar piece => sofar ++ piece ++ "\n") ""

end Portcullis.CommandLine
