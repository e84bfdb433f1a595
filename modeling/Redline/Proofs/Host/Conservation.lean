import Mathlib.Data.List.Nodup
import Mathlib.Data.List.Perm.Basic
import Mathlib.Logic.ExistsUnique
import Redline.Proofs.Host.Run
import Redline.Proofs.Session.Outcomes
import Redline.Surface.Memory

/-!
# No outcome is lost or doubled

Every request that got a worker has one outcome, and that is in one place until it is delivered:
still with the worker, in the queue, or in the hands of a drain. The session waits only for a
request whose outcome is in one of the three.

Between the places outcomes are handed over whole, so that a step changes what is outstanding only
by a new request or by a delivery. A delivery ends the wait if it is the one waited for; a clearing
ends the wait, but not the work, and the outcome is stale when it comes.
-/

namespace Redline

open scoped List

namespace Note

def dispatched? : Note → Option Generation
  | .dispatched generation => some generation
  | _ => none

def enqueued? : Note → Option Outcome
  | .enqueued outcome => some outcome
  | _ => none

def delivered? : Note → Option Outcome
  | .delivered outcome => some outcome
  | _ => none

/-- The generations that got workers, in order. -/
def dispatches (notes : List Note) : List Generation := notes.filterMap dispatched?

def enqueues (notes : List Note) : List Outcome := notes.filterMap enqueued?

def deliveries (notes : List Note) : List Outcome := notes.filterMap delivered?

theorem dispatches_append (notes more : List Note) :
    dispatches (notes ++ more) = dispatches notes ++ dispatches more := List.filterMap_append

theorem enqueues_append (notes more : List Note) :
    enqueues (notes ++ more) = enqueues notes ++ enqueues more := List.filterMap_append

theorem deliveries_append (notes more : List Note) :
    deliveries (notes ++ more) = deliveries notes ++ deliveries more := List.filterMap_append

end Note

open Note

theorem Session.state_eq_awaiting {s : Session} {g : Generation} :
    s.state = .awaiting g ↔ ∃ f, s.inFlight = some f ∧ f.generation = g := by
  rw [state]
  cases s.inFlight <;> simp

/-- Who holds the outcome of a request until it is delivered. -/
inductive Holder
  /-- The request's worker has not put it into the queue yet. -/
  | worker
  /-- It is in the queue. -/
  | queue
  /-- A drain has taken it and not yet delivered it. -/
  | drain
deriving DecidableEq, Repr

namespace Host

variable {σ β : Type}

/-- The generations of the outcomes that are held. -/
def held (h : Host σ β) : Holder → List Generation
  | .worker => h.workers.map Prod.fst
  | .queue => h.queue.map Outcome.generation
  | .drain => h.taken.map Outcome.generation

/-- The generations of all outcomes that are held. -/
def outstanding (h : Host σ β) : List Generation :=
  h.held .worker ++ (h.queue ++ h.taken).map Outcome.generation

theorem outstanding_eq (h : Host σ β) :
    h.outstanding = h.held .worker ++ (h.held .queue ++ h.held .drain) := by
  rw [outstanding, List.map_append]
  rfl

theorem mem_outstanding {h : Host σ β} {g : Generation} :
    g ∈ h.outstanding ↔ ∃ p, g ∈ h.held p := by
  rw [outstanding_eq, List.mem_append, List.mem_append]
  constructor
  · rintro (hg | hg | hg)
    · exact ⟨.worker, hg⟩
    · exact ⟨.queue, hg⟩
    · exact ⟨.drain, hg⟩
  · rintro ⟨_ | _ | _, hg⟩
    · exact Or.inl hg
    · exact Or.inr (Or.inl hg)
    · exact Or.inr (Or.inr hg)

theorem existsUnique_held {h : Host σ β} {g : Generation} (hnodup : h.outstanding.Nodup)
    (hg : g ∈ h.outstanding) : ∃! p, g ∈ h.held p := by
  rw [outstanding_eq] at hnodup
  obtain ⟨-, hwaiting, hworker⟩ := List.nodup_append.mp hnodup
  obtain ⟨-, -, hqueue⟩ := List.nodup_append.mp hwaiting
  have hworkerqueue : g ∈ h.held .worker → g ∉ h.held .queue :=
    fun hw hq ↦ hworker g hw g (List.mem_append_left _ hq) rfl
  have hworkerdrain : g ∈ h.held .worker → g ∉ h.held .drain :=
    fun hw hd ↦ hworker g hw g (List.mem_append_right _ hd) rfl
  have hqueuedrain : g ∈ h.held .queue → g ∉ h.held .drain := fun hq hd ↦ hqueue g hq g hd rfl
  obtain ⟨p, hp⟩ := mem_outstanding.mp hg
  refine ⟨p, hp, fun q hq ↦ ?_⟩
  cases p <;> cases q <;> simp_all only [not_true, imp_false]

/-! ## What a step hands over -/

variable {h h' : Host σ β} {notes more : List Note}

theorem perm_eraseIdx {α : Type} {l : List α} {i : Nat} {a : α} (h : l[i]? = some a) :
    l ~ l.eraseIdx i ++ [a] := by
  obtain ⟨hi, rfl⟩ := List.getElem?_eq_some_iff.mp h
  exact (List.getElem_cons_eraseIdx_perm hi).symm.trans (List.perm_append_singleton _ _).symm

theorem Effect.workers_perm (heffect : Effect h h' notes) :
    dispatches notes ++ h.held .worker ~
      h'.held .worker ++ (enqueues notes).map Outcome.generation := by
  cases heffect with
  | dispatched session surface request f hidle hflight hf hgeneration =>
    change [h.session.lastGeneration + 1] ++ h.held .worker ~
      (h.workers ++ [(h.session.lastGeneration + 1, request)]).map Prod.fst ++ []
    rw [List.map_append, List.append_nil]
    exact List.perm_append_comm
  | enqueued i generation request backend result hworker =>
    change h.workers.map Prod.fst ~ (h.workers.eraseIdx i).map Prod.fst ++ [generation]
    have hmap := (perm_eraseIdx hworker).map Prod.fst
    rwa [List.map_append] at hmap
  | _ => exact List.Perm.of_eq (List.append_nil _).symm

/-- An outcome that is put into the queue waits there or with a drain, until it is delivered. -/
theorem Effect.waiting_perm (heffect : Effect h h' notes) :
    enqueues notes ++ (h.queue ++ h.taken) ~ h'.queue ++ h'.taken ++ deliveries notes := by
  cases heffect with
  | enqueued i generation request backend result hworker =>
    change Outcome.mk generation result :: (h.queue ++ h.taken) ~
      h.queue ++ [Outcome.mk generation result] ++ h.taken ++ []
    rw [List.append_nil, List.append_assoc]
    exact List.perm_middle.symm
  | taken outcome rest hqueue =>
    change h.queue ++ h.taken ~ rest ++ (h.taken ++ [outcome]) ++ []
    rw [hqueue, List.append_nil, ← List.append_assoc]
    exact (List.perm_append_singleton outcome (rest ++ h.taken)).symm
  | delivered i outcome session surface htaken hflight hgeneration =>
    change h.queue ++ h.taken ~ h.queue ++ h.taken.eraseIdx i ++ [outcome]
    rw [List.append_assoc]
    exact (perm_eraseIdx htaken).append_left h.queue
  | _ => exact List.Perm.of_eq (List.append_nil _).symm

theorem Effect.numbered (heffect : Effect h h' notes) :
    h.session.lastGeneration ≤ h'.session.lastGeneration ∧
      (dispatches notes = [] ∨
        dispatches notes = [h'.session.lastGeneration] ∧
          h.session.lastGeneration < h'.session.lastGeneration) := by
  cases heffect with
  | kept session surface hflight hgeneration => exact ⟨Nat.le_of_eq hgeneration.symm, Or.inl rfl⟩
  | refused session surface hidle hidle' hgeneration =>
    exact ⟨Nat.le.intro hgeneration.symm, Or.inl rfl⟩
  | dispatched session surface request f hidle hflight hf hgeneration =>
    refine ⟨Nat.le.intro hgeneration.symm, Or.inr ⟨?_, ?_⟩⟩
    · exact congrArg (fun g ↦ [g]) hgeneration.symm
    · exact Nat.lt_of_lt_of_eq (Nat.lt_succ_self _) hgeneration.symm
  | delivered i outcome session surface htaken hflight hgeneration =>
    exact ⟨Nat.le_of_eq hgeneration.symm, Or.inl rfl⟩
  | _ => exact ⟨Nat.le_refl _, Or.inl rfl⟩

/-- A step adds to what is outstanding the request that gets a worker, and takes from it the outcome
that is delivered. -/
theorem Effect.outstanding_perm (heffect : Effect h h' notes) :
    dispatches notes ++ h.outstanding ~
      h'.outstanding ++ (deliveries notes).map Outcome.generation := by
  have hwaiting : (enqueues notes).map Outcome.generation ++
      (h.queue ++ h.taken).map Outcome.generation ~
        (h'.queue ++ h'.taken).map Outcome.generation ++
          (deliveries notes).map Outcome.generation := by
    rw [← List.map_append, ← List.map_append]
    exact heffect.waiting_perm.map Outcome.generation
  calc dispatches notes ++ h.outstanding
    _ ~ h'.held .worker ++ (enqueues notes).map Outcome.generation ++
        (h.queue ++ h.taken).map Outcome.generation := by
      rw [outstanding, ← List.append_assoc]
      exact heffect.workers_perm.append_right _
    _ ~ h'.outstanding ++ (deliveries notes).map Outcome.generation := by
      rw [outstanding, List.append_assoc, List.append_assoc]
      exact hwaiting.append_left _

theorem Effect.inFlight {f : InFlight} (heffect : Effect h h' notes)
    (hf : h'.session.inFlight = some f) :
    (f.generation ∈ dispatches notes ∨ h.session.inFlight = some f) ∧
      ∀ o ∈ deliveries notes, o.generation ≠ f.generation := by
  cases heffect with
  | kept session surface hflight hgeneration => exact ⟨Or.inr (hflight ▸ hf), nofun⟩
  | cleared => exact absurd hf nofun
  | refused session surface hidle hidle' hgeneration => exact absurd (hidle'.symm.trans hf) nofun
  | dispatched session surface request f' hidle hflight hf' hgeneration =>
    obtain rfl := Option.some.inj (hflight.symm.trans hf)
    exact ⟨Or.inl (List.mem_singleton.mpr hf'), nofun⟩
  | delivered i outcome session surface htaken hflight hgeneration =>
    obtain ⟨hbefore, hne⟩ := hflight f hf
    refine ⟨Or.inr hbefore, fun o ho ↦ ?_⟩
    rw [List.mem_singleton.mp ho]
    exact hne.symm
  | _ => exact ⟨Or.inr hf, nofun⟩

/-! ## What a run keeps -/

/-- What was here and what came in is what is here now and what went out; so it is in total. -/
theorem perm_trade {α : Type} {came here gone enters stays leaves : List α}
    (htotal : came ~ here ++ gone) (hstep : enters ++ here ~ stays ++ leaves) :
    came ++ enters ~ stays ++ (gone ++ leaves) :=
  calc came ++ enters
    _ ~ here ++ gone ++ enters := htotal.append_right enters
    _ ~ enters ++ here ++ gone := by
      rw [List.append_assoc enters]
      exact List.perm_append_comm
    _ ~ stays ++ leaves ++ gone := hstep.append_right gone
    _ ~ stays ++ (gone ++ leaves) := by
      rw [List.append_assoc]
      exact List.perm_append_comm.append_left stays

/-- What is kept of the outcomes of the requests that got workers. -/
structure Conserved (h : Host σ β) (notes : List Note) : Prop where
  /-- The outcome of every request that got a worker is outstanding, or was delivered. -/
  dispatches_perm : dispatches notes ~ h.outstanding ++ (deliveries notes).map Outcome.generation
  /-- Every outcome that was put into the queue waits, or was delivered. -/
  enqueues_perm : enqueues notes ~ h.queue ++ h.taken ++ deliveries notes
  /-- The requests that got workers have growing numbers. -/
  increasing : (dispatches notes).Pairwise (· < ·)
  /-- None of them has a greater number than the latest request. -/
  le_lastGeneration : ∀ g ∈ dispatches notes, g ≤ h.session.lastGeneration
  /-- The outcome of the request under way is outstanding. -/
  awaited : ∀ f, h.session.inFlight = some f → f.generation ∈ h.outstanding

theorem conserved_start (options : SessionOptions) (surface : σ) (backend : β) :
    (start (Session.ofOptions options) surface backend).Conserved [] where
  dispatches_perm := .refl _
  enqueues_perm := .refl _
  increasing := .nil
  le_lastGeneration _ hg := absurd hg List.not_mem_nil
  awaited _ hf := absurd hf nofun

namespace Conserved

/-- **Every step keeps the outcomes.** -/
theorem effect (hkept : h.Conserved notes) (heffect : Effect h h' more) :
    h'.Conserved (notes ++ more) := by
  obtain ⟨hle, hnumbered⟩ := heffect.numbered
  refine ⟨?_, ?_, ?_, fun g hg ↦ ?_, fun f hf ↦ ?_⟩
  · rw [dispatches_append, deliveries_append, List.map_append]
    exact perm_trade hkept.dispatches_perm heffect.outstanding_perm
  · rw [enqueues_append, deliveries_append]
    exact perm_trade hkept.enqueues_perm heffect.waiting_perm
  · rw [dispatches_append]
    rcases hnumbered with hnone | ⟨hone, hlt⟩
    · rw [hnone, List.append_nil]
      exact hkept.increasing
    · rw [hone]
      refine List.pairwise_append.mpr ⟨hkept.increasing, List.pairwise_singleton _ _, ?_⟩
      intro a ha b hb
      rw [List.mem_singleton.mp hb]
      exact Nat.lt_of_le_of_lt (hkept.le_lastGeneration a ha) hlt
  · rw [dispatches_append] at hg
    rcases List.mem_append.mp hg with hg | hg
    · exact Nat.le_trans (hkept.le_lastGeneration g hg) hle
    · rcases hnumbered with hnone | ⟨hone, -⟩
      · exact absurd (hnone ▸ hg) List.not_mem_nil
      · rw [hone] at hg
        exact Nat.le_of_eq (List.mem_singleton.mp hg)
  · obtain ⟨hcame, hnot⟩ := heffect.inFlight hf
    have hmem : f.generation ∈ h'.outstanding ++ (deliveries more).map Outcome.generation := by
      refine heffect.outstanding_perm.mem_iff.mp (List.mem_append.mpr ?_)
      exact hcame.imp_right (hkept.awaited f)
    refine (List.mem_append.mp hmem).resolve_right fun hdelivered ↦ ?_
    obtain ⟨o, ho, heq⟩ := List.mem_map.mp hdelivered
    exact hnot o ho heq

theorem nodup (hkept : h.Conserved notes) : (dispatches notes).Nodup :=
  hkept.increasing.imp Nat.ne_of_lt

theorem nodup_outstanding (hkept : h.Conserved notes) : h.outstanding.Nodup :=
  (List.nodup_append.mp (hkept.dispatches_perm.nodup_iff.mp hkept.nodup)).1

theorem count_enqueues_le (hkept : h.Conserved notes) (g : Generation) :
    ((enqueues notes).map Outcome.generation).count g ≤ (dispatches notes).count g := by
  have henqueues := (hkept.enqueues_perm.map Outcome.generation).count_eq g
  have hdispatches := hkept.dispatches_perm.count_eq g
  rw [List.map_append, List.count_append] at henqueues
  rw [outstanding, List.append_assoc, List.count_append, List.count_append] at hdispatches
  rw [henqueues, hdispatches]
  exact Nat.le_add_left _ _

theorem isPending_eq_false (hkept : h.Conserved notes) (hworkers : h.workers = [])
    (hqueue : h.queue = []) (htaken : h.taken = []) : h.session.isPending = false := by
  have hnone : h.outstanding = [] := by
    rw [outstanding, held, hworkers, hqueue, htaken]
    rfl
  rw [Session.isPending]
  cases hflight : h.session.inFlight with
  | none => rfl
  | some f => exact absurd (hnone ▸ hkept.awaited f hflight) List.not_mem_nil

end Conserved

theorem conserved_run (hkept : h.Conserved notes) (moves : List (Move σ β)) :
    (h.run moves).1.Conserved (notes ++ (h.run moves).2) :=
  run_induction notes moves hkept fun _ _ _ _ hkept heffect ↦ hkept.effect heffect

/-! ## Drains -/

theorem take_deliver_cons {outcome : Outcome} {rest : List Outcome}
    (hqueue : h.queue = outcome :: rest) (S : Surface σ) :
    h.take.deliver S h.taken.length = deliverOutcome S outcome { h with queue := rest } := by
  simp only [take, hqueue, deliver, List.getElem?_concat_length,
    List.eraseIdx_append_of_length_le, Nat.le_refl, Nat.sub_self, List.eraseIdx_zero,
    List.tail_cons, List.append_nil]

theorem take_deliver (S : Surface σ) (h : Host σ β) :
    let after := (h.take.deliver S h.taken.length).2
    after.workers = h.workers ∧ after.queue = h.queue.drop 1 ∧ after.taken = h.taken := by
  cases hqueue : h.queue with
  | nil =>
    have hround : h.take.deliver S h.taken.length = ([], h) := by
      rw [take, hqueue, deliver, List.getElem?_eq_none (Nat.le_refl _)]
    rw [hround]
    exact ⟨rfl, hqueue, rfl⟩
  | cons outcome rest =>
    obtain ⟨session, surface, -, hdeliver, -⟩ :=
      deliverOutcome_eq S outcome { h with queue := rest }
    rw [take_deliver_cons hqueue, hdeliver]
    exact ⟨rfl, rfl, rfl⟩

/-- A drain is a run. It takes as many outcomes from the queue as it is to, and keeps none. -/
theorem drainMany_eq_run (S : Surface σ) (n : Nat) (h : Host σ β) :
    ∃ moves : List (Move σ β),
      let after := (h.run moves).1
      (h.drainMany S n).2 = after ∧
        after.workers = h.workers ∧ after.queue = h.queue.drop n ∧ after.taken = h.taken := by
  induction n generalizing h with
  | zero => exact ⟨[], rfl, rfl, rfl, rfl⟩
  | succ n ih =>
    obtain ⟨hworkers, hqueue, htaken⟩ := take_deliver S h
    obtain ⟨moves, heq, hworkers', hqueue', htaken'⟩ := ih (h.take.deliver S h.taken.length).2
    refine ⟨.take :: .deliver S h.taken.length :: moves, heq, hworkers'.trans hworkers, ?_,
      htaken'.trans htaken⟩
    rw [hqueue, List.drop_drop, Nat.add_comm] at hqueue'
    exact hqueue'

theorem Conserved.isPending_drain (hkept : h.Conserved notes) (S : Surface σ)
    (hworkers : h.workers = []) (htaken : h.taken = []) :
    let after := (h.drain S).2.2
    after.queue = [] ∧ after.session.isPending = false := by
  obtain ⟨moves, heq, hworkers', hqueue', htaken'⟩ := drainMany_eq_run S h.queue.length h
  rw [List.drop_length] at hqueue'
  rw [drain, heq]
  refine ⟨hqueue', ?_⟩
  exact (conserved_run hkept moves).isPending_eq_false (hworkers'.trans hworkers) hqueue'
    (htaken'.trans htaken)

/-! ## The theorem -/

/-- **No outcome is lost or doubled**, in every run of a host. The requests that got workers have
growing numbers, no more than there are submissions, and the outcome of each is outstanding or was
delivered. At most one outcome of a request is ever put into the queue. The outcome that a session
waits for is in exactly one of three places: its worker has not put it into the queue, it is in the
queue, or a drain has taken it and not yet delivered it. So when all workers have finished and no
outcome is left, or a drain has emptied the queue, the session does not wait. -/
theorem outcome_held_once (options : SessionOptions) (surface : σ) (backend : β)
    (moves : List (Move σ β)) :
    let (h, notes) := (start (Session.ofOptions options) surface backend).run moves
    ((dispatches notes).Pairwise (· < ·) ∧
      (∀ g ∈ dispatches notes, g ≤ moves.countP Move.isSubmit) ∧
        dispatches notes ~ h.outstanding ++ (deliveries notes).map Outcome.generation) ∧
    (∀ g, ((enqueues notes).map Outcome.generation).count g ≤ (dispatches notes).count g ∧
      (dispatches notes).count g ≤ 1) ∧
    (∀ g, h.session.state = .awaiting g → ∃! p, g ∈ h.held p) ∧
    (h.workers = [] → h.queue = [] → h.taken = [] → h.session.isPending = false) ∧
    ∀ S, h.workers = [] → h.taken = [] →
      (h.drain S).2.2.queue = [] ∧ (h.drain S).2.2.session.isPending = false := by
  have hkept := conserved_run (conserved_start options surface backend) moves
  have hsession := session_run (start (Session.ofOptions options) surface backend) moves
  have hlast := Session.lastGeneration_run_le (Session.ofOptions options)
    ((start (Session.ofOptions options) surface backend).runCalls moves)
  rw [List.nil_append] at hkept
  rw [countP_runCalls] at hlast
  generalize (start (Session.ofOptions options) surface backend).run moves = result
    at hkept hsession
  obtain ⟨h, notes⟩ := result
  refine ⟨⟨hkept.increasing, fun g hg ↦ ?_, hkept.dispatches_perm⟩, fun g ↦ ⟨?_, ?_⟩,
    fun g hg ↦ ?_, hkept.isPending_eq_false, fun S ↦ hkept.isPending_drain S⟩
  · calc g
      _ ≤ h.session.lastGeneration := hkept.le_lastGeneration g hg
      _ ≤ 0 + moves.countP Move.isSubmit := hsession ▸ hlast
      _ = moves.countP Move.isSubmit := Nat.zero_add _
  · exact hkept.count_enqueues_le g
  · exact List.nodup_iff_count_le_one.mp hkept.nodup g
  · obtain ⟨f, hflight, rfl⟩ := Session.state_eq_awaiting.mp hg
    exact existsUnique_held hkept.nodup_outstanding (hkept.awaited f hflight)

/-- A conversation that is cleared and taken up again: the first outcome is with a drain, while the
second, which is awaited, is already in the queue. -/
example :
    let B : Backend Unit := ⟨fun _ ↦ .ofModel "b" "m", fun _ s ↦ (.breakdown, s)⟩
    let files : MemoryFiles := { files := [("a", "x")], focus := some "a" }
    let h := ((start (Session.ofOptions {}) files ()).run [.submit MemoryFiles.surface "p" none,
      .finishWorker B 0, .take, .clear, .submit MemoryFiles.surface "q" none, .finishWorker B 0]).1
    h.session.state = .awaiting 2 ∧ h.held .worker = [] ∧ h.held .queue = [2] ∧
      h.held .drain = [1] := by
  decide +kernel

end Host

end Redline
