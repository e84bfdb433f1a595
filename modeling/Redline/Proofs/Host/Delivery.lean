import Redline.Proofs.Host.Conservation
import Redline.Proofs.Session.Arrival

/-!
# Outcomes as arrivals

What a session is given in a run of its host are the outcomes that drains deliver, in the order of
the deliveries.

A drain that nothing interrupts delivers what is in the queue as arrivals at the session, in the
order of the queue. That order is the one in which the workers happened to finish. Had they finished
in another one, the drain would leave the same host behind.
-/

namespace Redline

open Note
open scoped List

/-- An outcome as it arrives at a session: a failure arrives in words. -/
def Outcome.arrival (outcome : Outcome) : Arrival where
  generation := outcome.generation
  news :=
    match outcome.result with
    | .replied value => .reply value
    | .failed e => .failure e.display

/-- What a call delivers to a session. -/
def Action.arrival? : Action → Option Arrival
  | .reply _ generation value _ => some ⟨generation, .reply value⟩
  | .failure generation message => some ⟨generation, .failure message⟩
  | _ => none

namespace Host

variable {σ β : Type} {h : Host σ β}

/-! ## What the session is given -/

theorem deliveries_map_enqueued (outcomes : List Outcome) :
    deliveries (outcomes.map .enqueued) = [] := by
  rw [deliveries, List.filterMap_map]
  exact List.filterMap_eq_nil_iff.mpr fun _ _ ↦ rfl

/-- A step of the front end or of a worker leaves to drains what they hold, and delivers nothing. -/
theorem taken_of_apart (h : Host σ β) {move : Move σ β} (apart : move.isDrain = false) :
    (h.step move).1.taken = h.taken ∧ deliveries (h.step move).2 = [] := by
  cases move with
  | submit S text obstacle =>
    refine ⟨rfl, ?_⟩
    simp only [step, submit]
    cases (h.session.submit S (dispatcher obstacle) text h.surface h.workers).outcome <;> rfl
  | setModel model =>
    simp only [step]
    split <;> exact ⟨rfl, rfl⟩
  | addContextFile path =>
    simp only [step]
    split <;> exact ⟨rfl, rfl⟩
  | finishWorker B i =>
    refine ⟨?_, deliveries_map_enqueued _⟩
    simp only [step, finishWorker]
    split <;> rfl
  | callWake generation =>
    simp only [step, callWake]
    split <;> exact ⟨rfl, rfl⟩
  | take => exact absurd apart Bool.noConfusion
  | deliver S i => exact absurd apart Bool.noConfusion
  | clear | removeContextFile | apply => exact ⟨rfl, rfl⟩

theorem arrivals_calls (h : Host σ β) (move : Move σ β) :
    (h.calls move).filterMap Action.arrival? =
      (deliveries (h.step move).2).map Outcome.arrival := by
  cases move with
  | deliver S i =>
    rw [calls, step]
    rcases h.taken[i]? with _ | ⟨generation, _ | _⟩ <;> rfl
  | take => rfl
  | _ =>
    rw [(taken_of_apart h rfl).2]
    rfl

/-- **A run gives the session what it delivers**, in this order. -/
theorem arrivals_runCalls (h : Host σ β) (moves : List (Move σ β)) :
    (h.runCalls moves).filterMap Action.arrival? =
      (deliveries (h.run moves).2).map Outcome.arrival := by
  induction moves generalizing h with
  | nil => rfl
  | cons move moves ih =>
    rw [runCalls, List.filterMap_append, arrivals_calls, ih, ← List.map_append, ← deliveries_append]
    rfl

/-! ## A drain -/

def withReceived (h : Host σ β) (r : Received σ) : Host σ β :=
  { h with session := r.session, surface := r.surface }

theorem deliverOutcome_eq_receive (S : Surface σ) (outcome : Outcome) (h : Host σ β) :
    let r := h.session.receive S outcome.arrival h.surface
    deliverOutcome S outcome h = (r.events, h.withReceived r) := by
  obtain ⟨generation, result⟩ := outcome
  cases result <;> rfl

theorem drainMany_eq_receiveAll (S : Surface σ) (queue : List Outcome) (h : Host σ β) :
    let r := Session.receiveAll S (queue.map Outcome.arrival) h.session h.surface
    { h with queue := queue }.drainMany S queue.length =
      (r.events, { h with queue := [] }.withReceived r) := by
  induction queue generalizing h with
  | nil => rfl
  | cons outcome rest ih =>
    let r := h.session.receive S outcome.arrival h.surface
    let full : Host σ β := { h with queue := outcome :: rest }
    have hround : full.take.deliver S full.taken.length =
        (r.events, { h with queue := rest }.withReceived r) := by
      rw [take_deliver_cons (h := full) rfl, deliverOutcome_eq_receive]
    have hrest := ih (h.withReceived r)
    rw [List.length_cons, drainMany, hround]
    exact congrArg (fun more : List Event × Host σ β ↦ (r.events ++ more.1, more.2)) hrest

/-- **The order of the queue does not matter to a drain**, as long as the outcomes in it are for
different requests. It delivers as many, leaves the same host behind, and emits the same events but
for their order. -/
theorem drain_perm (S : Surface σ) {queue : List Outcome} (hperm : h.queue ~ queue)
    (hnodup : (h.queue.map Outcome.generation).Nodup) :
    let r := h.drain S
    let r' := { h with queue := queue }.drain S
    r.1 = r'.1 ∧ r.2.1 ~ r'.2.1 ∧ r.2.2 = r'.2.2 := by
  have hdifferent : ((h.queue.map Outcome.arrival).map Arrival.generation).Nodup := by
    rwa [List.map_map]
  have hdrain := fun queue ↦ drainMany_eq_receiveAll S queue h
  have hagrees := Session.receiveAll_perm S (hperm.map Outcome.arrival) hdifferent h.session
    h.surface
  refine ⟨hperm.length_eq, ?_, ?_⟩
  · simp only [drain, hdrain]
    exact hagrees.events_perm
  · simp only [drain, hdrain, withReceived, hagrees.session_eq, hagrees.surface_eq]

end Host

end Redline
