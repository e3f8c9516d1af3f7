import Portcullis.Generator
import Portcullis.Reply
import Portcullis.Settings
/-! A generator behind an endpoint.

Every request is posted to the endpoint as JSON, with the key if there is one. How a
post gets there and what comes back is for the transport to say. -/
namespace Portcullis

/-- A request on its way. -/
structure Post where
  endpoint : String
  key : Option String
  body : String
  deriving DecidableEq, Repr

/-- What carries posts: the body of the reply, if there is one. -/
abbrev Transport := Post → Option String

/-- A transport that reaches nothing. -/
def Transport.unconnected : Transport := fun _ => none

structure Client where
  endpoint : String
  key : Option String
  deriving DecidableEq, Repr

namespace Client

/-- The client that settings describe, given the value of the variable they name for the
key. A variable that they name has to be set. -/
def ofSettings (s : GeneratorSettings) (value : Option String) : Except Failure Client :=
  match s.keyVariable, value with
  | none, _ => .ok ⟨s.endpoint, none⟩
  | some _, some key => .ok ⟨s.endpoint, some key⟩
  | some name, none =>
    .error (.configuration ("generator API key variable '" ++ name ++ "' is not set"))

/-- Ask for a policy. -/
def ask (c : Client) (transport : Transport) (q : GenerationRequest) :
    Except Failure GeneratedPolicy :=
  match transport ⟨c.endpoint, c.key, q.toJson.compact⟩ with
  | some body => Reply.read body
  | none => .error (.generationFailed "generator unreachable")

/-- The client as a generator. -/
def generator (c : Client) (transport : Transport) (s : Settings) : Generator where
  answer q := ⟨⟨0⟩, c.ask transport q⟩
  vocabulary := s.vocabulary
  timeout := s.generator.timeout

end Client

end Portcullis
