import Portcullis.Generator
/-! Scenarios: a gatehouse at work on fixed documents.

Every scenario sets up a gatehouse in front of a trail, hands in a document and checks
the decisions that follow. The last one drives two generators, one that answers and one
that does not. -/
namespace Portcullis.CommandLine

/-- How a scenario went. -/
structure Showing where
  name : String
  passed : Bool
  detail : String
  notices : List Notice
  deriving DecidableEq, Repr

/-- A decision that is expected. -/
structure Expectation where
  principal : String
  action : String
  decision : Decision
  deriving DecidableEq, Repr

/-- A document and the decisions expected under it. -/
structure Scenario where
  name : String
  document : String
  expectations : List Expectation
  deriving DecidableEq, Repr

namespace Scenario
open Audit

def clientTrade : String :=
  "
permit(
    principal in Warden::Client::\"authenticated\",
    action == Warden::Action::\"trade\",
    resource
);
"

def forbidEverything : String := "forbid(principal, action, resource);"

def actionSet : String :=
  "
permit(
    principal,
    action in [Warden::Action::\"read\", Warden::Action::\"trade\"],
    resource
);
"

/-- The scenarios with a document. -/
def all : List Scenario := [
  ⟨"1. category principal permits trade", clientTrade, [⟨"authenticated-x", "trade", .permit⟩]⟩,
  ⟨"2. other category is denied", clientTrade, [⟨"unauthenticated-y", "trade", .deny⟩]⟩,
  ⟨"3. unconstrained forbid denies everything", forbidEverything,
    [⟨"authenticated-x", "trade", .deny⟩, ⟨"anyone", "read", .deny⟩]⟩,
  ⟨"4. action set membership", actionSet,
    [⟨"anyone", "read", .permit⟩, ⟨"anyone", "transfer", .deny⟩]⟩]

/-- A gatehouse in front of a trail. -/
abbrev Post := Gatehouse Trail

/-- Where the entries of a scenario go. -/
def sink : Sink Trail := .trail sha256

/-- A post after some steps, whether all went as expected so far, and what was noticed. -/
structure Progress where
  post : Post
  asExpected : Bool
  notices : List Notice

def Progress.start (name : String) : Progress := ⟨.opening (.empty name), true, []⟩

/-- Go on with a step that should end in a certain way. -/
def Progress.take (p : Progress) (step : Step Trail α) (expected : Outcome α → Bool) : Progress :=
  ⟨step.after, p.asExpected && expected step.outcome, p.notices ++ step.notices⟩

def isDone : Outcome α → Bool
  | .done _ => true
  | _ => false

def isGenerationFailure : Outcome α → Bool
  | .failed (.generationFailed _) => true
  | _ => false

def decides (decision : Decision) : Outcome Policy.Evaluation → Bool
  | .done e => e.decision = decision
  | _ => false

/-- Decide a request that should be decided in a certain way. -/
def Progress.decide (p : Progress) (now : Moments) (agentId resource : String) (e : Expectation) :
    Progress :=
  let q : Request := ⟨e.action, e.principal, resource, agentId⟩
  p.take (p.post.explain sink now agentId q) (decides e.decision)

/-- A scenario went well when every step did and the trail is intact. -/
def Progress.passed (p : Progress) : Bool := p.asExpected && p.post.sink.isIntact sha256

/-- How many events the trail holds. -/
def Progress.events (p : Progress) : String :=
  toString p.post.sink.events.length ++ " audit event(s)"

def run (now : Moments) (s : Scenario) : Showing :=
  let agentId := "scenario-agent"
  let start := Progress.start s.name
  let registered := start.take
    (start.post.register sink now ⟨agentId, s.document, ⟨s.name, .basic, []⟩, .registered⟩) isDone
  let done := s.expectations.foldl (fun p e => p.decide now agentId "r" e) registered
  ⟨s.name, done.passed, toString s.expectations.length ++ " decision(s), " ++ done.events,
    done.notices⟩

/-! ### Generators -/

/-- A generator that permits reading and nothing else. -/
def readOnly : Generator where
  answer q := ⟨⟨0⟩, .ok
    { policy := "permit(principal, action == " ++ q.vocabulary.entityRoot ++
        "::Action::\"read\", resource);"
      rationale := "task '" ++ q.task ++ "' only needs to read"
      riskTier := .low }⟩
  timeout := .ofSeconds 1

/-- A generator that cannot be reached. -/
def offline : Generator where
  answer _ := ⟨⟨0⟩, .error (.generationFailed "generator offline")⟩
  timeout := .ofSeconds 1

/-- A generated policy stays active when a later generation fails. -/
def runGenerators (now : Moments) : Showing :=
  let name := "5. failed regeneration keeps the previous policy"
  let agentId := "agent-7"
  let start := Progress.start name
  let first := start.take
    (readOnly.provide sink start.post now agentId ⟨"summarize balances", .oauth, ["analyst"]⟩)
    isDone
  let second := first.take
    (offline.provide sink first.post now agentId ⟨"move funds", .oauth, ["analyst"]⟩)
    isGenerationFailure
  let done := [⟨"analyst", "read", .permit⟩, ⟨"analyst", "transfer", .deny⟩].foldl
    (fun p e => p.decide now agentId "account/1" e) second
  ⟨name, done.passed, done.events, done.notices⟩

/-- Run every scenario in order. -/
def runAll (now : Moments) : List Showing := all.map (run now) ++ [runGenerators now]

end Scenario

end Portcullis.CommandLine
