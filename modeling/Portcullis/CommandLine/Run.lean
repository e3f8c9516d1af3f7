import Portcullis.Client
import Portcullis.Codec.Audit
import Portcullis.CommandLine.Command
import Portcullis.CommandLine.Scenario
import Portcullis.CommandLine.Session
/-! Running commands.

What a command sees of the world is a parameter: the files, the environment, the
transport to the generator and the time. A command first reads its inputs; what it does
with them is what the library does, and only the layout of results is decided here. -/
namespace Portcullis.CommandLine
open Policy

/-- Why a file cannot be read. -/
inductive FileFault where
  | missing
  /-- The file is there, but its bytes are no text. -/
  | notText
  | unreadable (reason : String)
  deriving DecidableEq, Repr

def FileFault.message : FileFault → String
  | .missing => "No such file or directory (os error 2)"
  | .notText => "stream did not contain valid UTF-8"
  | .unreadable reason => reason

/-- What a command can see. Looking at it is an effect of the monad. -/
structure World (m : Type → Type) where
  file : String → m (Except FileFault ByteArray)
  /-- The value of an environment variable, if it is set. -/
  environment : String → m (Option String)
  transport : Transport
  now : Instant

/-- The text that bytes are. -/
def textOf (bytes : ByteArray) : Except FileFault String :=
  match String.fromUTF8? bytes with
  | some s => .ok s
  | none => .error .notText

/-- The text of a file of some kind, which a command cannot do without. -/
def World.input [Monad m] (w : World m) (kind path : String) : ExceptT Failure m String := do
  match (← w.file path).bind textOf with
  | .ok s => return s
  | .error fault =>
    throw (.configuration
      ("failed to read " ++ kind ++ " file '" ++ path ++ "': " ++ fault.message))

/-- The value of the variable that settings name for the key. -/
def World.key? [Monad m] (w : World m) (s : GeneratorSettings) : m (Option String) :=
  match s.keyVariable with
  | some name => w.environment name
  | none => return none

/-! ### Layout -/

/-- A line number, right in three columns. -/
def lineNumber (n : UInt64) : String :=
  let digits := toString n.toNat
  String.ofList (List.replicate (3 - digits.length) ' ') ++ digits

def ruleLine (r : Rule) : String :=
  "  [" ++ r.id ++ "] line " ++ lineNumber r.line ++ "  " ++ r.effect.display ++ "  principal=" ++
    r.principal.display ++ "  action=" ++ r.action.display

def discardedLine (block : Discarded) : String :=
  "  discarded at line " ++ lineNumber block.line ++ ": " ++ block.reason.message

def showingLine (s : Showing) : String :=
  "  [" ++ (if s.passed then "PASS" else "FAIL") ++ "] " ++ s.name ++ "  (" ++ s.detail ++ ")"

/-! ### Commands -/

def checkDocument (document : String) : Session :=
  let r := report document
  let count := toString r.rules.length ++ " rule(s), " ++ toString r.discarded.length ++
    " discarded block(s)"
  .success (Output.notices (Notice.ofDocument document) ++
    (count :: r.rules.map ruleLine ++ r.discarded.map discardedLine).map .text)

def decideRequest (document principal action resource : String) : Session :=
  let found := rules document
  let q : Request := ⟨action, principal, resource, "cli"⟩
  .success (Output.notices (Notice.ofDocument document ++ Notice.ofDecision found q) ++
    [.text (explain found q).toJson.pretty])

/-- What is shown of a policy that became active, and what is left behind. -/
def consult (now : Instant) (g : Gatehouse Audit.Trail) (r : PolicyRecord) (q : Request) :
    List Output × Gatehouse Audit.Trail :=
  let step := g.explain (.trail Audit.sha256) (.once now) q.agentId q
  let evaluation := match step.outcome with
    | .done e => [Output.text e.toJson.pretty]
    | _ => []
  ([.text (toString r.rules.length ++ " rule(s) registered for " ++ r.agentId),
    .text (String.ofList (Text.trim r.rawText.toList)), .text ""] ++
    Output.notices step.notices ++ evaluation, step.after)

/-- Ask a generator for a policy under settings that are in order. -/
def generateWith (transport : Transport) (now : Instant) (s : Settings) (c : Client)
    (context : SourceContext) (q : Request) : Session :=
  let start : Gatehouse Audit.Trail := .opening (.empty ("cli-" ++ q.agentId))
  let step :=
    (c.generator transport s).provide (.trail Audit.sha256) start (.once now) q.agentId context
  let shown := Output.notices
    (.generationStarted q.agentId c.endpoint :: .generationRequested q.agentId c.endpoint ::
      step.notices)
  let trail (g : Gatehouse Audit.Trail) := Output.text (g.sink.snapshot now).toJson.pretty
  match step.outcome with
  | .done record =>
    let (results, after) := consult now step.after record q
    .success (shown ++ results ++ [trail after])
  | .failed f => .failure (shown ++ [trail step.after]) f
  | .broke => ⟨shown ++ [trail step.after], none, 1⟩

/-- Ask a generator for a policy. The settings are read first, then the level, and then
the client is set up. -/
def generatePolicy [Monad m] (w : World m) (settings task level : String) (roles : List String)
    (q : Request) : ExceptT Failure m Session := do
  let s ← ofExcept (Settings.parse (← w.input "config" settings))
  let level ← ofExcept (AuthenticationLevel.parse level)
  let c ← ofExcept (Client.ofSettings s.generator (← w.key? s.generator))
  return generateWith w.transport w.now s c ⟨task, level, roles⟩ q

def runScenarios (now : Instant) : Session :=
  let showings := Scenario.runAll (.once now)
  let failed := showings.countP fun s => !s.passed
  let total := toString showings.length
  let output := Output.notices (showings.flatMap Showing.notices) ++
    showings.map (.text ∘ showingLine) ++ [.text ""]
  if failed = 0 then .success (output ++ [.text ("All " ++ total ++ " scenarios passed.")])
  else ⟨output, some (toString failed ++ " of " ++ total ++ " scenario(s) failed."), 1⟩

/-- Run a command. -/
def Command.run [Monad m] (w : World m) : Command → ExceptT Failure m Session
  | .check policy => do return checkDocument (← w.input "policy" policy)
  | .evaluate policy principal action resource => do
    return decideRequest (← w.input "policy" policy) principal action resource
  | .generate settings agentId task level roles principal action resource =>
    generatePolicy w settings task level roles ⟨action, principal, resource, agentId⟩
  | .scenarios => return runScenarios w.now

/-- Run what arguments spell. -/
def run [Monad m] (w : World m) (arguments : List String) : m Session := do
  match Command.ofList? arguments with
  | none => return .usage
  | some command =>
    match ← (command.run w).run with
    | .ok session => return session
    | .error f => return .failure [] f

end Portcullis.CommandLine
