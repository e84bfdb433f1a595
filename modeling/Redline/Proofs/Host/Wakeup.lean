import Redline.Proofs.Host.Conservation

/-!
# Wake-ups and the order of outcomes

A worker looks whether the queue is empty while it puts its outcome there, and calls for a wake-up
only afterwards. In between, other workers and drains may do anything, so the queue may be empty
again, and filled again by another worker, before the first one calls.

Still every filling of the queue has its wake-up: one that was called for or one that a worker still
owes. And as long as no two outcomes are in the hands of drains at once, outcomes leave the host in
the order in which they came into the queue.
-/

namespace Redline

open Note

namespace Host

variable {σ β : Type} {h h' : Host σ β} {notes more : List Note} {g : Generation}

/-! ## Wake-ups -/

/-- The queue was empty and is so no more. -/
def Fills (h h' : Host σ β) : Prop := h.queue = [] ∧ h'.queue ≠ []

instance (h h' : Host σ β) : Decidable (Fills h h') := inferInstanceAs (Decidable (_ ∧ _))

def wakesDue (h : Host σ β) : Nat := h.wakes + h.alarms.length

theorem not_fills_of_queue_eq (heq : h'.queue = h.queue) : ¬Fills h h' :=
  fun hfills ↦ hfills.2 (heq.trans hfills.1)

theorem wakesDue_of_not_fills (hfills : ¬Fills h h') (hdue : h'.wakesDue = h.wakesDue) :
    h'.wakesDue = h.wakesDue + if Fills h h' then 1 else 0 := by
  rw [if_neg hfills, hdue, Nat.add_zero]

/-- **Only a filling of the queue makes a wake-up due.** -/
theorem Effect.wakesDue_eq (heffect : Effect h h' notes) :
    h'.wakesDue = h.wakesDue + if Fills h h' then 1 else 0 := by
  cases heffect with
  | enqueued i generation request backend result hworker =>
    by_cases hempty : h.queue = []
    · rw [if_pos ⟨hempty, List.append_ne_nil_of_right_ne_nil _ nofun⟩]
      simp only [wakesDue, enqueue, hempty, List.isEmpty_nil, if_true, List.length_append,
        List.length_singleton, Nat.add_assoc]
    · refine wakesDue_of_not_fills (fun hfills ↦ hempty hfills.1) ?_
      simp only [wakesDue, enqueue, List.isEmpty_eq_false_iff.mpr hempty, Bool.false_eq_true,
        if_false]
  | woken generation halarm =>
    refine wakesDue_of_not_fills (not_fills_of_queue_eq rfl) ?_
    have hlength := List.length_erase_add_one halarm
    simp only [wakesDue]
    omega
  | taken outcome rest hqueue =>
    refine wakesDue_of_not_fills (fun hfills ↦ ?_) rfl
    exact List.cons_ne_nil outcome rest (hqueue.symm.trans hfills.1)
  | _ => exact wakesDue_of_not_fills (not_fills_of_queue_eq rfl) rfl

theorem Effect.alarm_of_fills (heffect : Effect h h' notes) (hfills : Fills h h') :
    ∃ outcome, notes = [.enqueued outcome] ∧ h'.queue = [outcome] ∧
      outcome.generation ∈ h'.alarms := by
  obtain ⟨hempty, hne⟩ := hfills
  cases heffect with
  | enqueued i generation request backend result hworker =>
    refine ⟨_, rfl, ?_, ?_⟩
    · simp only [enqueue, hempty, List.nil_append]
    · simp only [enqueue, hempty, List.isEmpty_nil, if_true, List.mem_append, List.mem_singleton,
        or_true]
  | taken outcome rest hqueue => exact absurd (hqueue.symm.trans hempty) (List.cons_ne_nil _ _)
  | _ => exact absurd hempty hne

/-- A worker owes its wake-up until it calls for it. -/
theorem Effect.woken_or_alarm (heffect : Effect h h' notes) (hg : g ∈ h.alarms) :
    .woken g ∈ notes ∨ g ∈ h'.alarms := by
  cases heffect with
  | enqueued i generation request backend result hworker =>
    right
    simp only [enqueue]
    split
    · exact List.mem_append_left _ hg
    · exact hg
  | woken generation halarm =>
    by_cases heq : g = generation
    · exact .inl (heq ▸ List.mem_singleton_self _)
    · exact .inr ((List.mem_erase_of_ne heq).mpr hg)
  | _ => exact .inr hg

/-! ## The order of outcomes -/

/-- While at most one outcome is in the hands of drains, the outcomes that wait keep their order, a
new one comes after all others, and the first is delivered. -/
theorem Effect.in_order (heffect : Effect h h' notes) (hone : h.taken.length ≤ 1) :
    h.taken ++ h.queue ++ enqueues notes = deliveries notes ++ (h'.taken ++ h'.queue) := by
  cases heffect with
  | enqueued i generation request backend result hworker => exact List.append_assoc _ _ _
  | taken outcome rest hqueue =>
    change h.taken ++ h.queue ++ [] = h.taken ++ [outcome] ++ rest
    rw [hqueue, List.append_nil, List.append_assoc]
    rfl
  | delivered i outcome session surface htaken hflight hgeneration =>
    change h.taken ++ h.queue ++ [] = [outcome] ++ (h.taken.eraseIdx i ++ h.queue)
    obtain ⟨hi, rfl⟩ := List.getElem?_eq_some_iff.mp htaken
    have hlength : h.taken.length = 1 := Nat.le_antisymm hone (Nat.zero_lt_of_lt hi)
    obtain ⟨first, hfirst⟩ := List.length_eq_one_iff.mp hlength
    obtain rfl : i = 0 := by omega
    simp only [hfirst, List.append_nil, List.getElem_cons_zero, List.eraseIdx_zero, List.tail_cons,
      List.nil_append]
  | _ => exact List.append_nil _

theorem Effect.in_order_trans {came gone : List Outcome} (heffect : Effect h h' notes)
    (hone : h.taken.length ≤ 1) (htotal : came = gone ++ (h.taken ++ h.queue)) :
    came ++ enqueues notes = gone ++ deliveries notes ++ (h'.taken ++ h'.queue) :=
  calc came ++ enqueues notes
    _ = gone ++ (h.taken ++ h.queue ++ enqueues notes) := by rw [htotal, List.append_assoc]
    _ = gone ++ deliveries notes ++ (h'.taken ++ h'.queue) := by
      rw [heffect.in_order hone, List.append_assoc]

end Host

end Redline
