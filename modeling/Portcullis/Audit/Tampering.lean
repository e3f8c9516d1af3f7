import Portcullis.Audit.Chain
import Portcullis.Text.Capital
/-! Tampering: what someone who holds an exported chain could do to it.

An edit names the event it is about by its place; an edit past the end changes
nothing. -/
namespace Portcullis.Audit

/-- A change to one event. -/
inductive FieldEdit where
  | sequence (value : UInt64)
  | trailId (value : String)
  | prevHash (value : String)
  | thisHash (value : String)
  | entry (value : Entry)
  /-- Write the event's hash in capitals. -/
  | uppercaseHash
  /-- Recompute the event's hash from what it holds. -/
  | rehash
  deriving DecidableEq, Repr

/-- A change to a chain. -/
inductive Edit where
  | remove (place : Nat)
  /-- Keep only so many events. -/
  | truncate (place : Nat)
  /-- Put a copy of an event beside it. -/
  | duplicate (place : Nat)
  | swap (place other : Nat)
  /-- Make an event name the hash of the event before it. -/
  | relink (place : Nat)
  | field (place : Nat) (edit : FieldEdit)
  deriving DecidableEq, Repr

def FieldEdit.apply (H : Digest) (e : Event) : FieldEdit → Event
  | .sequence value => {e with sequence := value}
  | .trailId value => {e with trailId := value}
  | .prevHash value => {e with prevHash := value}
  | .thisHash value => {e with thisHash := value}
  | .entry value => {e with entry := value}
  | .uppercaseHash => {e with thisHash := Text.capitalized e.thisHash}
  | .rehash => {e with thisHash := e.hash H}

/-- The hash before the event at a place. -/
def hashBefore (events : List Event) (place : Nat) : String :=
  match place with
  | 0 => genesisHash
  | before + 1 => (events[before]?.map Event.thisHash).getD genesisHash

def Edit.apply (H : Digest) (events : List Event) : Edit → List Event
  | .remove place => events.eraseIdx place
  | .truncate place => events.take place
  | .duplicate place =>
    match events[place]? with
    | some e => events.insertIdx place e
    | none => events
  | .swap place other =>
    match events[place]?, events[other]? with
    | some a, some b => (events.set place b).set other a
    | _, _ => events
  | .relink place => events.modify place fun e => {e with prevHash := hashBefore events place}
  | .field place edit => events.modify place fun e => edit.apply H e

/-- Apply edits in order. -/
def tamper (H : Digest) (events : List Event) (edits : List Edit) : List Event :=
  edits.foldl (Edit.apply H) events

end Portcullis.Audit
