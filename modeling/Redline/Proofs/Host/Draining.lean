import Mathlib.Algebra.BigOperators.Group.List.Basic
import Mathlib.Algebra.Ring.Nat
import Mathlib.Data.List.Induction
import Redline.Proofs.Host.Delivery
import Redline.Proofs.Host.Wakeup

/-!
# Drains beside each other

A drain takes an outcome and delivers it, again and again until it finds the queue empty; then it
ends and returns how many it has delivered. Between any two of its steps the front end, workers and
other drains may step. So what is observed here is a host together with the drains under way, and a
run is any interleaving of all their steps. To the host it is a run like any other.

Each delivery belongs to one drain, which counts it. A filling of the queue is announced by the
worker that brought it about. And a single drain delivers the outcomes in the order in which they
came.
-/

namespace Redline

open Note
open scoped List

variable {σ β : Type}

/-- A host with the drains that serve it. A drain under way is known by how many outcomes it has
delivered so far. -/
structure DrainedHost (σ β : Type) where
  host : Host σ β
  /-- The drains under way that hold no outcome. -/
  ready : List Nat
  /-- The drains that hold an outcome, in the order of the outcomes taken. -/
  holding : List Nat
  /-- What the drains that have ended returned. -/
  counts : List Nat

/-- A step of a host or of one of its drains. -/
inductive DrainMove (σ β : Type)
  /-- A step of the front end or of a worker. -/
  | beside (move : Move σ β) (apart : move.isDrain = false)
  | begin
  /-- The drain at a position takes the first outcome; it ends if there is none. -/
  | pop (i : Nat)
  /-- The drain at a position delivers the outcome that it holds. -/
  | deliver (S : Surface σ) (i : Nat)

namespace DrainedHost

def start (host : Host σ β) : DrainedHost σ β := ⟨host, [], [], []⟩

/-- The host with its drains after a step, and the notes of the step. -/
def step (v : DrainedHost σ β) : DrainMove σ β → DrainedHost σ β × List Note
  | .beside move _ =>
    let (host, notes) := v.host.step move
    ({ v with host := host }, notes)
  | .begin => ({ v with ready := v.ready ++ [0] }, [])
  | .pop i =>
    match v.ready[i]? with
    | none => (v, [])
    | some count =>
      if v.host.queue.isEmpty then
        ({ v with ready := v.ready.eraseIdx i, counts := v.counts ++ [count] }, [])
      else
        let (host, notes) := v.host.step .take
        (⟨host, v.ready.eraseIdx i, v.holding ++ [count], v.counts⟩, notes)
  | .deliver S i =>
    match v.holding[i]? with
    | none => (v, [])
    | some count =>
      let (host, notes) := v.host.step (.deliver S i)
      (⟨host, v.ready ++ [count + 1], v.holding.eraseIdx i, v.counts⟩, notes)

def run (v : DrainedHost σ β) : List (DrainMove σ β) → DrainedHost σ β × List Note
  | [] => (v, [])
  | move :: moves =>
    let (v, notes) := v.step move
    let (v, more) := v.run moves
    (v, notes ++ more)

/-- How often the queue is filled, that is, goes from empty to non-empty, in a run. -/
def fillings (v : DrainedHost σ β) : List (DrainMove σ β) → Nat
  | [] => 0
  | move :: moves =>
    (if Host.Fills v.host (v.step move).1.host then 1 else 0) + (v.step move).1.fillings moves

variable {v v' : DrainedHost σ β} {notes more : List Note} {moves : List (DrainMove σ β)}

theorem run_append (v : DrainedHost σ β) (front back : List (DrainMove σ β)) :
    v.run (front ++ back) =
      (((v.run front).1.run back).1, (v.run front).2 ++ ((v.run front).1.run back).2) := by
  induction front generalizing v with
  | nil => rfl
  | cons move front ih => simp only [List.cons_append, run, ih, List.append_assoc]

/-! ## What a step does -/

theorem step_effect (v : DrainedHost σ β) (move : DrainMove σ β) :
    Host.Effect v.host (v.step move).1.host (v.step move).2 := by
  cases move with
  | beside move apart => exact v.host.step_effect move
  | begin => exact .refl v.host
  | pop i =>
    simp only [step]
    split
    · exact .refl v.host
    · split
      · exact .refl v.host
      · exact v.host.step_effect .take
  | deliver S i =>
    simp only [step]
    split
    · exact .refl v.host
    · exact v.host.step_effect (.deliver S i)

theorem run_induction {motive : DrainedHost σ β → List Note → Prop} (before : List Note)
    (moves : List (DrainMove σ β)) (hstart : motive v before)
    (hstep : ∀ v before move, motive v before →
      motive (v.step move).1 (before ++ (v.step move).2)) :
    motive (v.run moves).1 (before ++ (v.run moves).2) := by
  induction moves generalizing v before with
  | nil => rwa [run, List.append_nil]
  | cons move moves ih =>
    have hnext := ih _ (hstep _ _ move hstart)
    rwa [List.append_assoc] at hnext

/-! ## The host in a run -/

/-- The steps of the host itself in a step. -/
def hostMoves (v : DrainedHost σ β) : DrainMove σ β → List (Move σ β)
  | .beside move _ => [move]
  | .begin => []
  | .pop i =>
    match v.ready[i]? with
    | none => []
    | some _ => [.take]
  | .deliver S i =>
    match v.holding[i]? with
    | none => []
    | some _ => [.deliver S i]

def runHostMoves (v : DrainedHost σ β) : List (DrainMove σ β) → List (Move σ β)
  | [] => []
  | move :: moves => v.hostMoves move ++ (v.step move).1.runHostMoves moves

theorem step_host (v : DrainedHost σ β) (move : DrainMove σ β) :
    v.host.run (v.hostMoves move) = ((v.step move).1.host, (v.step move).2) := by
  cases move with
  | beside move apart => simp only [hostMoves, Host.run, step, List.append_nil]
  | begin => rfl
  | pop i =>
    simp only [hostMoves, step]
    cases v.ready[i]? with
    | none => rfl
    | some count =>
      cases hqueue : v.host.queue with
      | nil =>
        -- The drain ends, and taking an outcome from an empty queue does nothing.
        simp only [Host.run, Host.step, Host.take, hqueue, List.isEmpty_nil, if_true,
          List.append_nil]
      | cons outcome rest => rfl
  | deliver S i =>
    simp only [hostMoves, step]
    cases v.holding[i]? with
    | none => rfl
    | some count => simp only [Host.run, List.append_nil]

/-- **A run with drains is a run of the host.** -/
theorem run_host (v : DrainedHost σ β) (moves : List (DrainMove σ β)) :
    v.host.run (v.runHostMoves moves) = ((v.run moves).1.host, (v.run moves).2) := by
  induction moves generalizing v with
  | nil => rfl
  | cons move moves ih => rw [runHostMoves, Host.run_append, step_host, ih, run]

theorem conserved_run (hkept : v.host.Conserved notes) (moves : List (DrainMove σ β)) :
    (v.run moves).1.host.Conserved (notes ++ (v.run moves).2) := by
  have hrun := Host.conserved_run hkept (v.runHostMoves moves)
  rwa [run_host] at hrun

/-- The calls on the session that a run makes. -/
def runCalls (v : DrainedHost σ β) (moves : List (DrainMove σ β)) : List Action :=
  v.host.runCalls (v.runHostMoves moves)

theorem session_run (v : DrainedHost σ β) (moves : List (DrainMove σ β)) :
    (v.run moves).1.host.session = (v.host.session.run (v.runCalls moves)).1 ∧
      (v.runCalls moves).filterMap Action.arrival? =
        (deliveries (v.run moves).2).map Outcome.arrival := by
  have hsession := v.host.session_run (v.runHostMoves moves)
  have harrivals := v.host.arrivals_runCalls (v.runHostMoves moves)
  rw [run_host] at hsession harrivals
  exact ⟨hsession, harrivals⟩

/-! ## What drains count -/

theorem taken_of_take {h : Host σ β} (hqueue : h.queue ≠ []) :
    (h.step .take).1.taken.length = h.taken.length + 1 := by
  obtain ⟨outcome, rest, hqueue⟩ := List.exists_cons_of_ne_nil hqueue
  simp only [Host.step, Host.take, hqueue, List.length_append, List.length_singleton]

theorem taken_of_deliver {h : Host σ β} {i : Nat} (S : Surface σ) (hi : i < h.taken.length) :
    (h.step (.deliver S i)).1.taken = h.taken.eraseIdx i ∧
      (deliveries (h.step (.deliver S i)).2).length = 1 := by
  obtain ⟨session, surface, -, heq, -⟩ :=
    Host.deliverOutcome_eq S h.taken[i] { h with taken := h.taken.eraseIdx i }
  rw [Host.step, Host.deliver, List.getElem?_eq_getElem hi]
  exact ⟨congrArg Host.taken heq, rfl⟩

/-- Each outcome in the hands of drains is with one of them, and each delivery was counted by one.
-/
structure Counted (v : DrainedHost σ β) (notes : List Note) : Prop where
  /-- The drains that hold an outcome are as many as the outcomes taken. -/
  length_holding : v.holding.length = v.host.taken.length
  /-- All that was counted are the deliveries. -/
  sum_counts : v.counts.sum + (v.ready.sum + v.holding.sum) = (deliveries notes).length

theorem counted_start (host : Host σ β) (htaken : host.taken = []) : (start host).Counted [] where
  length_holding := (congrArg List.length htaken).symm
  sum_counts := rfl

theorem sum_eraseIdx {counts : List Nat} {i count : Nat} (h : counts[i]? = some count) :
    counts.sum = (counts.eraseIdx i).sum + count := by
  rw [(Host.perm_eraseIdx h).sum_eq, List.sum_append, List.sum_singleton]

/-- **Every step keeps the counts.** -/
theorem Counted.step (hcounted : v.Counted notes) (move : DrainMove σ β) :
    (v.step move).1.Counted (notes ++ (v.step move).2) := by
  obtain ⟨hlength, hsum⟩ := hcounted
  cases move with
  | beside move apart =>
    obtain ⟨htaken, hnone⟩ := Host.taken_of_apart v.host apart
    refine ⟨hlength.trans (congrArg List.length htaken.symm), ?_⟩
    rw [deliveries_append, DrainedHost.step, hnone, List.append_nil]
    exact hsum
  | begin =>
    refine ⟨hlength, ?_⟩
    simp only [DrainedHost.step, List.sum_append, List.sum_singleton, Nat.add_zero, List.append_nil]
    exact hsum
  | pop i =>
    simp only [DrainedHost.step]
    split
    · rw [List.append_nil]
      exact ⟨hlength, hsum⟩
    next count hready =>
      have hrest := sum_eraseIdx hready
      split
      · refine ⟨hlength, ?_⟩
        simp only [List.sum_append, List.sum_singleton, List.append_nil]
        omega
      next hqueue =>
        have htaken := taken_of_take (mt List.isEmpty_iff.mpr hqueue)
        refine ⟨?_, ?_⟩
        · simp only [List.length_append, List.length_singleton, htaken, hlength]
        · simp only [Host.step, List.sum_append, List.sum_singleton, List.append_nil]
          omega
  | deliver S i =>
    simp only [DrainedHost.step]
    split
    · rw [List.append_nil]
      exact ⟨hlength, hsum⟩
    next count hholding =>
      have hi : i < v.holding.length := (List.getElem?_eq_some_iff.mp hholding).1
      have hrest := sum_eraseIdx hholding
      obtain ⟨htaken, hone⟩ := taken_of_deliver S (hlength ▸ hi)
      refine ⟨?_, ?_⟩
      · rw [htaken, List.length_eraseIdx_of_lt hi, List.length_eraseIdx_of_lt (hlength ▸ hi),
          hlength]
      · rw [deliveries_append, List.length_append, hone]
        simp only [List.sum_append, List.sum_singleton]
        omega

theorem counted_run (hcounted : v.Counted notes) (moves : List (DrainMove σ β)) :
    (v.run moves).1.Counted (notes ++ (v.run moves).2) :=
  run_induction notes moves hcounted fun _ _ move hcounted ↦ hcounted.step move

/-! ## A single drain -/

/-- Never in a run are two drains under way. -/
def OneAtATime (v : DrainedHost σ β) (moves : List (DrainMove σ β)) : Prop :=
  ∀ front, front <+: moves → (v.run front).1.ready.length + (v.run front).1.holding.length ≤ 1

theorem OneAtATime.tail {move : DrainMove σ β} (hone : v.OneAtATime (move :: moves)) :
    (v.step move).1.OneAtATime moves := by
  intro front hfront
  exact hone (move :: front) (List.cons_prefix_cons.mpr ⟨rfl, hfront⟩)

/-- What came in the order in which it left still does after a run with a single drain. -/
theorem in_order_run {came gone : List Outcome} (hcounted : v.Counted notes)
    (hone : v.OneAtATime moves) (htotal : came = gone ++ (v.host.taken ++ v.host.queue)) :
    came ++ enqueues (v.run moves).2 = gone ++ deliveries (v.run moves).2 ++
      ((v.run moves).1.host.taken ++ (v.run moves).1.host.queue) := by
  induction moves generalizing v notes came gone with
  | nil =>
    simp only [run, enqueues, deliveries, List.filterMap_nil, List.append_nil]
    exact htotal
  | cons move moves ih =>
    have hle := hone [] List.nil_prefix
    have htaken : v.host.taken.length ≤ 1 :=
      hcounted.length_holding ▸ Nat.le_trans (Nat.le_add_left _ _) hle
    have hstep := (v.step_effect move).in_order_trans htaken htotal
    have hrest := ih (hcounted.step move) hone.tail hstep
    simpa only [run, enqueues_append, deliveries_append, List.append_assoc] using hrest

/-! ## Fillings of the queue -/

theorem wakesDue_run (v : DrainedHost σ β) (moves : List (DrainMove σ β)) :
    (v.run moves).1.host.wakesDue = v.host.wakesDue + v.fillings moves := by
  induction moves generalizing v with
  | nil => rfl
  | cons move moves ih =>
    calc (v.run (move :: moves)).1.host.wakesDue
      _ = (v.step move).1.host.wakesDue + (v.step move).1.fillings moves := ih _
      _ = v.host.wakesDue + v.fillings (move :: moves) := by
        rw [(v.step_effect move).wakesDue_eq, fillings, Nat.add_assoc]

/-- A step fills the queue, which does not become empty again in the run after it; and the worker
whose outcome that is has called for a wake-up since, or still has to. -/
structure Announced (v : DrainedHost σ β) (move : DrainMove σ β) (back : List (DrainMove σ β))
    (outcome : Outcome) : Prop where
  empty : v.host.queue = []
  enqueued : (v.step move).2 = [.enqueued outcome]
  /-- From then on it is not empty. -/
  nonempty : ∀ middle, middle <+: back → ((v.step move).1.run middle).1.host.queue ≠ []
  /-- The worker has called, or still has to. -/
  woken : .woken outcome.generation ∈ ((v.step move).1.run back).2 ∨
    outcome.generation ∈ ((v.step move).1.run back).1.host.alarms

variable {move last : DrainMove σ β} {back : List (DrainMove σ β)} {outcome : Outcome}

theorem run_concat (v : DrainedHost σ β) (moves : List (DrainMove σ β)) (last : DrainMove σ β) :
    v.run (moves ++ [last]) =
      (((v.run moves).1.step last).1, (v.run moves).2 ++ ((v.run moves).1.step last).2) := by
  simp only [run_append, run, List.append_nil]

theorem exists_announced_now (hempty : v.host.queue = [])
    (hqueue : (v.step move).1.host.queue ≠ []) : ∃ outcome, v.Announced move [] outcome := by
  obtain ⟨outcome, hnotes, -, halarm⟩ := (v.step_effect move).alarm_of_fills ⟨hempty, hqueue⟩
  refine ⟨outcome, hempty, hnotes, fun middle hmiddle ↦ ?_, .inr halarm⟩
  rw [List.prefix_nil.mp hmiddle]
  exact hqueue

/-- What was announced stays so while the queue is not empty. -/
theorem Announced.concat (h : v.Announced move back outcome)
    (hqueue : ((v.step move).1.run (back ++ [last])).1.host.queue ≠ []) :
    v.Announced move (back ++ [last]) outcome where
  empty := h.empty
  enqueued := h.enqueued
  nonempty middle hmiddle := by
    rcases List.prefix_concat_iff.mp hmiddle with rfl | hmiddle
    · exact hqueue
    · exact h.nonempty middle hmiddle
  woken := by
    rw [run_concat]
    rcases h.woken with hwoken | halarm
    · exact .inl (List.mem_append_left _ hwoken)
    · have hlast := (step_effect ((v.step move).1.run back).1 last).woken_or_alarm halarm
      exact hlast.imp_left (List.mem_append_right _)

/-- **No wake-up is lost.** When the queue is not empty, the worker that filled it last has called
for a wake-up, or still has to. -/
theorem exists_announced (hempty : v.host.queue = []) (moves : List (DrainMove σ β))
    (hqueue : (v.run moves).1.host.queue ≠ []) :
    ∃ front move back outcome, moves = front ++ move :: back ∧
      (v.run front).1.Announced move back outcome := by
  -- By induction on the steps before the last one, which fills the queue or finds it filled.
  induction moves using List.reverseRecOn with
  | nil => exact absurd hempty hqueue
  | append_singleton moves last ih =>
    by_cases hbefore : (v.run moves).1.host.queue = []
    · rw [run_concat] at hqueue
      obtain ⟨outcome, hannounced⟩ := exists_announced_now hbefore hqueue
      exact ⟨moves, last, [], outcome, rfl, hannounced⟩
    · obtain ⟨front, move, back, outcome, rfl, hannounced⟩ := ih hbefore
      have hback : front ++ move :: back ++ [last] = front ++ move :: (back ++ [last]) := by
        rw [List.append_assoc, List.cons_append]
      rw [hback, run_append] at hqueue
      exact ⟨front, move, back ++ [last], outcome, hback, hannounced.concat hqueue⟩

/-! ## An uninterrupted drain -/

theorem eraseIdx_concat_length {α : Type} (l : List α) (a : α) :
    (l ++ [a]).eraseIdx l.length = l := by
  rw [List.eraseIdx_append_of_length_le (Nat.le_refl _), Nat.sub_self, List.eraseIdx_zero,
    List.tail_cons, List.append_nil]

theorem run_round {r : List Nat} {count : Nat} (hready : v.ready = r ++ [count])
    (hlength : v.holding.length = v.host.taken.length) (hqueue : v.host.queue ≠ [])
    (S : Surface σ) :
    (v.run [.pop r.length, .deliver S v.host.taken.length]).1 =
      { v with
        host := (v.host.take.deliver S v.host.taken.length).2
        ready := r ++ [count + 1] } := by
  have hfilled : v.host.queue.isEmpty = false := List.isEmpty_eq_false_iff.mpr hqueue
  simp only [run, DrainedHost.step, hready, List.getElem?_concat_length, eraseIdx_concat_length,
    hfilled, Bool.false_eq_true, if_false, ← hlength, Host.step]

theorem exists_run_drainMany {r : List Nat} {count n : Nat} (hready : v.ready = r ++ [count])
    (hlength : v.holding.length = v.host.taken.length) (hqueue : v.host.queue.length = n)
    (S : Surface σ) :
    ∃ moves, (v.run moves).1 =
      ⟨(v.host.drainMany S n).2, r, v.holding, v.counts ++ [count + n]⟩ := by
  induction n generalizing v count with
  | zero =>
    refine ⟨[.pop r.length], ?_⟩
    have hempty : v.host.queue.isEmpty = true :=
      List.isEmpty_iff.mpr (List.length_eq_zero_iff.mp hqueue)
    simp only [run, DrainedHost.step, hready, List.getElem?_concat_length, eraseIdx_concat_length,
      hempty, if_true, Host.drainMany, Nat.add_zero]
  | succ n ih =>
    obtain ⟨-, hdropped, htaken⟩ := Host.take_deliver S v.host
    have hne : v.host.queue ≠ [] := by
      rintro heq
      rw [heq] at hqueue
      exact absurd hqueue.symm (Nat.succ_ne_zero n)
    have hround := run_round hready hlength hne S
    let next : DrainedHost σ β := { v with
      host := (v.host.take.deliver S v.host.taken.length).2
      ready := r ++ [count + 1] }
    have hleft : next.host.queue.length = n := by
      simp only [next, hdropped, List.length_drop, hqueue, Nat.add_sub_cancel]
    obtain ⟨moves, hmoves⟩ := ih (v := next) rfl (hlength.trans (congrArg List.length htaken.symm))
      hleft
    refine ⟨[.pop r.length, .deliver S v.host.taken.length] ++ moves, ?_⟩
    rw [run_append, hround, hmoves, Nat.add_assoc, Nat.add_comm 1]
    rfl

/-- **A drain that nothing interrupts is a run**, in which one drain begins, delivers all that is in
the queue, and ends. -/
theorem exists_run_drain (hlength : v.holding.length = v.host.taken.length) (S : Surface σ) :
    ∃ moves, (v.run moves).1 =
      { v with
        host := (v.host.drain S).2.2
        counts := v.counts ++ [(v.host.drain S).1] } := by
  obtain ⟨moves, hmoves⟩ := exists_run_drainMany (v := { v with ready := v.ready ++ [0] }) rfl
    hlength rfl S
  refine ⟨.begin :: moves, ?_⟩
  rw [Nat.zero_add] at hmoves
  exact hmoves

/-! ## The theorem -/

/-- **No wake-up is lost, and a single drain keeps the order**, in every run of a host with its
drains. When the queue is not empty, the worker that filled it last has called for a wake-up since,
or still has to. The outcomes that drains have delivered, those that they hold and those in the
queue are the outcomes that were put there; no two are for one request; and as long as there is one
drain at a time, they are delivered in the order in which they came. The calls on the session make
it what it is, and what they give it are the outcomes delivered, in that order. What drains counted
are the deliveries, so that what they returned adds up to these when none is under way; and every
run can go on with a drain that nothing interrupts. Wake-ups that were called for or are still owed
are as many as the fillings of the queue, so that when no worker owes one any more there was one
call for each. -/
theorem drains_and_wakeups (options : SessionOptions) (surface : σ) (backend : β)
    (moves : List (DrainMove σ β)) :
    let v := start (.start (.ofOptions options) surface backend)
    let (after, notes) := v.run moves
    (after.host.queue ≠ [] → ∃ front move back outcome, moves = front ++ move :: back ∧
      (v.run front).1.Announced move back outcome) ∧
    (enqueues notes ~ after.host.queue ++ after.host.taken ++ deliveries notes ∧
      ((enqueues notes).map Outcome.generation).Nodup ∧
      (v.OneAtATime moves →
        enqueues notes = deliveries notes ++ (after.host.taken ++ after.host.queue))) ∧
    (after.host.session = ((Session.ofOptions options).run (v.runCalls moves)).1 ∧
      (v.runCalls moves).filterMap Action.arrival? = (deliveries notes).map Outcome.arrival) ∧
    (after.counts.sum + (after.ready.sum + after.holding.sum) = (deliveries notes).length ∧
      (after.ready = [] → after.holding = [] →
        after.counts.sum = (deliveries notes).length) ∧
      ∀ S, ∃ more, (after.run more).1 = { after with
        host := (after.host.drain S).2.2
        counts := after.counts ++ [(after.host.drain S).1] }) ∧
    (after.host.wakes + after.host.alarms.length = v.fillings moves ∧
      (after.host.alarms = [] → after.host.wakes = v.fillings moves)) := by
  let v : DrainedHost σ β := start (.start (.ofOptions options) surface backend)
  have hkept := conserved_run (v := v) (Host.conserved_start options surface backend) moves
  have hcounted := counted_run (v := v) (counted_start v.host rfl) moves
  rw [List.nil_append] at hkept hcounted
  have hstart : ([] : List Outcome) = [] ++ (v.host.taken ++ v.host.queue) := rfl
  have hwakes : (v.run moves).1.host.wakes + (v.run moves).1.host.alarms.length =
      v.fillings moves := (wakesDue_run v moves).trans (Nat.zero_add _)
  refine ⟨exists_announced rfl moves, ⟨hkept.enqueues_perm, ?_, fun hone ↦ ?_⟩,
    v.session_run moves, ⟨hcounted.sum_counts, fun hready hholding ↦ ?_,
    exists_run_drain hcounted.length_holding⟩, hwakes, fun halarms ↦ ?_⟩
  · refine List.nodup_iff_count_le_one.mpr fun g ↦ ?_
    exact Nat.le_trans (hkept.count_enqueues_le g) (List.nodup_iff_count_le_one.mp hkept.nodup g)
  · exact in_order_run (counted_start v.host rfl) hone hstart
  · rw [← hcounted.sum_counts, hready, hholding]
    rfl
  · rw [← hwakes, halarms]
    rfl

/-- A worker is overtaken between its two steps: a drain empties the queue, another worker fills it
again and calls first. Each of them calls once, and the drain returns two. -/
example :
    let S := MemoryFiles.surface
    let B : Backend Unit := ⟨fun _ ↦ .ofModel "b" "m", fun _ s ↦ (.breakdown, s)⟩
    let files : MemoryFiles := { files := [("a", "x")], focus := some "a" }
    let v : DrainedHost MemoryFiles Unit := start (.start (.ofOptions {}) files ())
    let moves : List (DrainMove MemoryFiles Unit) :=
      [.beside (.submit S "p" none) rfl, .beside .clear rfl, .beside (.submit S "q" none) rfl,
        .beside (.finishWorker B 0) rfl, .begin, .pop 0, .beside (.finishWorker B 0) rfl,
        .beside (.callWake 2) rfl, .beside (.callWake 1) rfl, .deliver S 0, .pop 0, .deliver S 0,
        .pop 0]
    let after := (v.run moves).1
    v.fillings moves = 2 ∧ after.host.wakes = 2 ∧ after.counts = [2] ∧ after.ready = [] := by
  decide +kernel

end DrainedHost

end Redline
