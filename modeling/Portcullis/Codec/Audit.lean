import Portcullis.Audit.Trail
/-! Events and sealed logs as JSON. -/
namespace Portcullis.Audit
open Json

def Event.toJson (e : Event) : Json :=
  ofFields [("sequence", ofWord e.sequence), ("trail_id", ofString e.trailId),
    ("entry", e.entry.toJson), ("prev_hash", ofString e.prevHash),
    ("this_hash", ofString e.thisHash)]

/-- Read an event at a depth. -/
def Event.ofJsonAt? (depth : Nat) (v : Json) : Option Event := do
  let r ← v.record? ["sequence", "trail_id", "entry", "prev_hash", "this_hash"]
  return { sequence := ← r.field? "sequence" word?
           trailId := ← r.field? "trail_id" text?
           entry := ← r.field? "entry" (Entry.ofJsonAt? (depth + 1))
           prevHash := ← r.field? "prev_hash" text?
           thisHash := ← r.field? "this_hash" text? }

def Event.ofJson? : Json → Option Event := ofJsonAt? 0

def Log.toJson (l : Log) : Json :=
  ofFields [("trail_id", ofString l.trailId), ("events", .array (l.events.map Event.toJson)),
    ("finalized_at", instantToJson l.finalizedAt), ("terminal_hash", ofString l.terminalHash)]

def Log.ofJson? (v : Json) : Option Log := do
  let r ← v.record? ["trail_id", "events", "finalized_at", "terminal_hash"]
  return { trailId := ← r.field? "trail_id" text?
           events := ← r.field? "events" (list? (Event.ofJsonAt? 2))
           finalizedAt := ← r.field? "finalized_at" instantOfJson?
           terminalHash := ← r.field? "terminal_hash" text? }

end Portcullis.Audit
