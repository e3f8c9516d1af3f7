import Portcullis.Audit.Chain
/-! Audit trails.

A trail appends; nothing else changes it. It keeps the hash it goes on from beside its
events, so that appending does not look back. What it exports is a snapshot of its events
with the hash of the last one. -/
namespace Portcullis.Audit

structure Trail where
  id : String
  events : List Event
  /-- The hash the next event goes on from. -/
  tipHash : String
  deriving DecidableEq, Repr

/-- A sealed snapshot of a trail. -/
structure Log where
  trailId : String
  events : List Event
  finalizedAt : Instant
  /-- The hash of the last event, empty if there is none. -/
  terminalHash : String
  deriving DecidableEq, Repr

/-- The hash of the last of some events. -/
def lastHash? (events : List Event) : Option String := events.getLast?.map Event.thisHash

namespace Trail

def empty (id : String) : Trail := ⟨id, [], genesisHash⟩

/-- The event that an entry becomes at the end of the trail. -/
def nextEvent (H : Digest) (t : Trail) (entry : Entry) : Event :=
  let sequence := UInt64.ofNat t.events.length
  { sequence, trailId := t.id, entry, prevHash := t.tipHash
    thisHash := hashEvent H t.id sequence entry t.tipHash }

def record (H : Digest) (t : Trail) (entry : Entry) : Trail :=
  let event := t.nextEvent H entry
  {t with events := t.events ++ [event], tipHash := event.thisHash}

/-- Append entries in order. -/
def recordAll (H : Digest) (t : Trail) (entries : List Entry) : Trail :=
  entries.foldl (record H) t

def isIntact (H : Digest) (t : Trail) : Bool := verify H t.events

/-- Take a sealed snapshot. -/
def snapshot (t : Trail) (now : Instant) : Log :=
  ⟨t.id, t.events, now, (lastHash? t.events).getD ""⟩

theorem events_record (H : Digest) (t : Trail) (entry : Entry) :
    (t.record H entry).events = t.events ++ [t.nextEvent H entry] := rfl

end Trail

end Portcullis.Audit
