import Portcullis.Generator
/-! Operations: everything a caller may ask of a gatehouse, as data.

A caller hands in a policy, has one generated, has a request decided or looks at what is
registered. Every such operation is a value, so what a gatehouse goes through is a list of
them, and it can be told afterwards which operation came to what. -/
namespace Portcullis

/-- What a caller asks. -/
inductive Operation where
  | put (agentId text : String) (context : SourceContext)
  | putGenerated (agentId : String) (policy : GeneratedPolicy) (context : SourceContext)
  | requestPolicy (G : Generator) (agentId : String) (context : SourceContext)
  | explain (agentId : String) (q : Request)
  | evaluate (agentId : String) (q : Request)
  | get (agentId : String)
  | agentIds
  | size
  | isEmpty

/-- What a caller is answered. -/
inductive Answer where
  /-- The record that is active from now on. -/
  | record (r : PolicyRecord)
  | evaluation (e : Policy.Evaluation)
  | decision (d : Decision)
  | active (r : Option PolicyRecord)
  | agentIds (ids : List String)
  | size (n : Nat)
  | isEmpty (b : Bool)
  deriving DecidableEq, Repr

/-- What is to be done for a caller. -/
inductive Errand where
  /-- Look at what is registered. -/
  | look
  /-- Make a policy active. -/
  | register (s : Submission)
  /-- Put on record that an agent gets no policy. -/
  | fail (agentId reason : String)
  /-- Decide a request under an agent's policy and show some of the evaluation. -/
  | decide (agentId : String) (q : Request) (shown : Policy.Evaluation → Answer)

variable {σ α β : Type}

def Outcome.map (f : α → β) : Outcome α → Outcome β
  | .done a => .done (f a)
  | .failed failure => .failed failure
  | .broke => .broke

def Step.map (f : α → β) (s : Step σ α) : Step σ β := ⟨s.outcome.map f, s.after, s.notices⟩

/-- Answer from what is registered, which concerns no sink. -/
def Gatehouse.look (g : Gatehouse σ) (answer : Answer) : Step σ Answer := ⟨.done answer, g, []⟩

namespace Operation

/-- Do what is asked, with the clock showing these times. -/
def perform (S : Audit.Sink σ) (g : Gatehouse σ) (now : Moments) : Operation → Step σ Answer
  | put agentId text context =>
    (g.register S now ⟨agentId, text, context, .registered⟩).map .record
  | putGenerated agentId policy context =>
    (g.register S now (policy.submission agentId context)).map .record
  | requestPolicy G agentId context => (G.provide S g now agentId context).map .record
  | explain agentId q => (g.explain S now agentId q).map .evaluation
  | evaluate agentId q => (g.explain S now agentId q).map fun e => .decision e.decision
  | get agentId => g.look (.active (g.registry.get? agentId))
  | agentIds => g.look (.agentIds g.registry.agentIds)
  | size => g.look (.size g.registry.size)
  | isEmpty => g.look (.isEmpty (g.registry.size = 0))

/-- What an operation comes to. -/
def errand : Operation → Errand
  | put agentId text context => .register ⟨agentId, text, context, .registered⟩
  | putGenerated agentId ⟨text, rationale, tier⟩ context =>
    .register ⟨agentId, text, context, .generated rationale tier⟩
  | requestPolicy G agentId context =>
    match (G.answer (G.request agentId context)).within G.timeout with
    | .ok ⟨text, rationale, tier⟩ =>
      .register ⟨agentId, text, context, .generated rationale tier⟩
    | .error reason => .fail agentId reason
  | explain agentId q => .decide agentId q .evaluation
  | evaluate agentId q => .decide agentId q fun e => .decision e.decision
  | get _ | agentIds | size | isEmpty => .look

end Operation

end Portcullis
