import Portcullis.Audit.Trail
import Portcullis.Notice
/-! Audit sinks: where entries go.

A sink is a machine of its own kind. Handed an entry it may keep it, refuse it, or break
off, which is more than refusing: whoever was at work does not get an answer either.
Whatever uses a sink is written for every such machine. -/
namespace Portcullis.Audit

/-- What a sink does with an entry. -/
inductive Receipt where
  | kept
  | refused (failure : Failure)
  | broke
  deriving DecidableEq, Repr

/-- A sink with states `σ`. -/
structure Sink (σ : Type) where
  record : σ → Entry → Receipt × σ
  /-- What there is to notice when an entry is kept. -/
  remarks : σ → Entry → List Notice := fun _ _ => []

/-- No sink at all: every entry is taken and nothing is kept. -/
def Sink.none : Sink Unit where
  record _ _ := (.kept, ())

/-- A trail as a sink. -/
def Sink.trail (H : Digest) : Sink Trail where
  record t entry := (.kept, t.record H entry)
  remarks t entry := [.entryAppended (t.nextEvent H entry)]

/-! ### A sink with limits -/

/-- What a sink will not do. -/
structure Limits where
  /-- How many entries it holds. -/
  capacity : Option Nat
  /-- The kinds of entries it refuses. -/
  refuse : List String
  /-- The kinds of entries it breaks off at. -/
  breakAt : List String
  deriving DecidableEq, Repr

/-- A trail behind limits, and the entries that got through. -/
structure Ledger where
  accepted : List Entry
  trail : Trail
  deriving DecidableEq, Repr

def Ledger.empty (trailId : String) : Ledger := ⟨[], .empty trailId⟩

/-- Whether a sink of this capacity is full with so many entries. -/
def Limits.isFull (l : Limits) (held : Nat) : Bool :=
  match l.capacity with
  | some capacity => capacity ≤ held
  | Option.none => false

/-- A ledger that refuses what is beyond its capacity first, then the kinds it refuses,
and then breaks off at others. -/
def Sink.limited (H : Digest) (l : Limits) : Sink Ledger where
  record ledger entry :=
    let kind := entry.occurrence.kind
    if l.isFull ledger.accepted.length then
      (.refused (.auditWriteFailed "disk full"), ledger)
    else if l.refuse.contains kind then
      (.refused (.auditWriteFailed (kind ++ " refused")), ledger)
    else if l.breakAt.contains kind then (.broke, ledger)
    else (.kept, ⟨ledger.accepted ++ [entry], ledger.trail.record H entry⟩)

end Portcullis.Audit
