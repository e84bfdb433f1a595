import Mathlib.Data.List.Perm.Basic
import Redline.Proofs.Session.Run
import Redline.Surface.Memory

/-!
# The order of arrivals

The outcomes of several requests arrive in the order in which their workers happen to finish. At
most one of them is waited for; the others are stale, whether they come before that one or after it.

A stale outcome changes nothing, and no outcome makes another one awaited. So two outcomes of
different requests may change places, and with them any number.
-/

namespace Redline

open scoped List

/-! ## Arrivals -/

/-- What is heard of a request. -/
inductive News
  | reply (value : Json)
  /-- That it failed. -/
  | failure (message : String)

/-- What is delivered to a session. -/
structure Arrival where
  generation : Generation
  /-- What is heard of it. -/
  news : News

/-- What arrivals leave behind. -/
structure Received (σ : Type) where
  events : List Event
  session : Session
  surface : σ

/-- Two ends are the same but for the order of their events. -/
structure Received.Agrees {σ : Type} (r r' : Received σ) : Prop where
  session_eq : r.session = r'.session
  surface_eq : r.surface = r'.surface
  /-- The events are the same, in some order. -/
  events_perm : r.events ~ r'.events

namespace Received.Agrees

variable {σ : Type} {r r' r'' : Received σ}

theorem refl (r : Received σ) : r.Agrees r := ⟨rfl, rfl, .refl _⟩

theorem symm (h : r.Agrees r') : r'.Agrees r :=
  ⟨h.session_eq.symm, h.surface_eq.symm, h.events_perm.symm⟩

theorem trans (h : r.Agrees r') (h' : r'.Agrees r'') : r.Agrees r'' :=
  ⟨h.session_eq.trans h'.session_eq, h.surface_eq.trans h'.surface_eq,
    h.events_perm.trans h'.events_perm⟩

theorem append_left (h : r.Agrees r') (events : List Event) :
    Agrees ⟨events ++ r.events, r.session, r.surface⟩
      ⟨events ++ r'.events, r'.session, r'.surface⟩ :=
  ⟨h.session_eq, h.surface_eq, h.events_perm.append_left events⟩

end Received.Agrees

namespace Session

variable {σ : Type}

def receive (S : Surface σ) (a : Arrival) (s : Session) (surface : σ) : Received σ :=
  match a.news with
  | .reply value =>
    let (_, events, s, surface) := s.onReply S a.generation value surface
    ⟨events, s, surface⟩
  | .failure message =>
    let (_, events, s) := s.onFailure a.generation message
    ⟨events, s, surface⟩

def receiveAll (S : Surface σ) : List Arrival → Session → σ → Received σ
  | [], s, surface => ⟨[], s, surface⟩
  | a :: arrivals, s, surface =>
    let r := s.receive S a surface
    let rest := receiveAll S arrivals r.session r.surface
    ⟨r.events ++ rest.events, rest.session, rest.surface⟩

/-! ## Stale arrivals -/

/-- The outcome of the request with the generation is not waited for. -/
def Stale (s : Session) (generation : Generation) : Prop :=
  ∀ f, s.inFlight = some f → f.generation ≠ generation

variable {s : Session} {a b : Arrival}

theorem receive_of_stale (h : s.Stale a.generation) (S : Surface σ) (surface : σ) :
    s.receive S a surface = ⟨[staleEvent a.generation], s, surface⟩ := by
  rw [receive]
  cases a.news with
  | reply value => simp only [onReply_of_stale h]
  | failure message => simp only [onFailure_of_stale h]

/-- An arrival leaves a request under way only if it was under way before. -/
theorem inFlight_receive {f : InFlight} (S : Surface σ) (a : Arrival) (s : Session) (surface : σ)
    (h : (s.receive S a surface).session.inFlight = some f) : s.inFlight = some f := by
  rcases s.inFlight_or_stale a.generation with ⟨g, hg, hgeneration⟩ | hstale
  · -- The arrival is the awaited one, and then nothing is under way any more.
    have hnone : (s.receive S a surface).session.inFlight = none := by
      rw [receive, ← hgeneration]
      cases a.news with
      | reply value =>
        rcases hread : readAgain S g.active surface with ⟨live, reread, after⟩
        simp only [onReply_of_inFlight hg hread]
        exact inFlight_answered s _
      | failure message =>
        simp only [onFailure_of_inFlight hg]
        exact inFlight_answered s _
    exact absurd (h.symm.trans hnone) (Option.some_ne_none f)
  · rwa [receive_of_stale hstale] at h

theorem Stale.receive {generation : Generation} (h : s.Stale generation) (S : Surface σ)
    (a : Arrival) (surface : σ) : (s.receive S a surface).session.Stale generation :=
  fun f hf ↦ h f (inFlight_receive S a s surface hf)

/-- Of two generations one is stale. -/
theorem stale_or_stale (s : Session) {g g' : Generation} (hne : g ≠ g') :
    s.Stale g ∨ s.Stale g' := by
  rcases s.inFlight_or_stale g with ⟨f, hflight, rfl⟩ | hstale
  · right
    intro f' hf'
    obtain rfl := Option.some.inj (hflight.symm.trans hf')
    exact hne
  · exact .inl hstale

/-! ## Changing places -/

/-- A stale arrival may come before or after another one. -/
theorem agrees_of_stale (h : s.Stale a.generation) (S : Surface σ) (b : Arrival)
    (arrivals : List Arrival) (surface : σ) :
    (receiveAll S (a :: b :: arrivals) s surface).Agrees
      (receiveAll S (b :: a :: arrivals) s surface) := by
  simp only [receiveAll, receive_of_stale h, receive_of_stale (h.receive S b surface)]
  refine ⟨rfl, rfl, ?_⟩
  rw [← List.append_assoc, ← List.append_assoc]
  exact List.perm_append_comm.append_right _

/-- **Arrivals for different requests may change places.** -/
theorem receiveAll_swap (S : Surface σ) (hne : a.generation ≠ b.generation)
    (arrivals : List Arrival) (s : Session) (surface : σ) :
    (receiveAll S (a :: b :: arrivals) s surface).Agrees
      (receiveAll S (b :: a :: arrivals) s surface) := by
  rcases s.stale_or_stale hne with ha | hb
  · exact agrees_of_stale ha S b arrivals surface
  · exact (agrees_of_stale hb S a arrivals surface).symm

theorem receiveAll_perm (S : Surface σ) {arrivals others : List Arrival}
    (hperm : arrivals ~ others) (hnodup : (arrivals.map Arrival.generation).Nodup) (s : Session)
    (surface : σ) : (receiveAll S arrivals s surface).Agrees (receiveAll S others s surface) := by
  -- By induction on how one order is made from the other by exchanging neighbours.
  induction hperm generalizing s surface with
  | nil => exact .refl _
  | cons a _ ih =>
    rw [List.map_cons, List.nodup_cons] at hnodup
    let r := s.receive S a surface
    exact (ih hnodup.2 r.session r.surface).append_left r.events
  | swap a b arrivals =>
    have hne : b.generation ≠ a.generation := by
      rw [List.map_cons, List.nodup_cons, List.map_cons, List.mem_cons] at hnodup
      exact fun heq ↦ hnodup.1 (.inl heq)
    exact receiveAll_swap S hne arrivals s surface
  | trans hfirst _ ih ih' =>
    have hnodup' := (hfirst.map Arrival.generation).nodup_iff.mp hnodup
    exact (ih hnodup s surface).trans (ih' hnodup' s surface)

/-! ## The theorem -/

/-- **The order of arrivals does not matter**, for every session and every surface. Arrivals for
different requests leave the same session and the same surface behind in whatever order they are
delivered, and the same events but for their order. -/
theorem arrival_order_irrelevant (S : Surface σ) (s : Session) (surface : σ)
    (arrivals others : List Arrival) (hperm : arrivals ~ others)
    (hnodup : (arrivals.map Arrival.generation).Nodup) :
    let r := receiveAll S arrivals s surface
    let r' := receiveAll S others s surface
    r.session = r'.session ∧ r.surface = r'.surface ∧ r.events ~ r'.events := by
  have hagrees := receiveAll_perm S hperm hnodup s surface
  exact ⟨hagrees.session_eq, hagrees.surface_eq, hagrees.events_perm⟩

/-- The reply to a second prompt arrives between two stale outcomes, which may change places. -/
theorem arrival_order_irrelevant_second_prompt :
    let S := MemoryFiles.surface
    let D : Dispatcher Unit := ⟨fun _ _ state ↦ (.ok (), state)⟩
    let files : MemoryFiles := { files := [("a.py", "x\n")], focus := some "a.py" }
    let s := ((ofOptions {}).run
      [.submit S D "first" files (), .clear, .submit S D "second" files ()]).1
    let first : Arrival := ⟨1, .failure "too late"⟩
    let second : Arrival :=
      ⟨2, .reply (.object [("content", .string "as asked"), ("type", .string "explanation")])⟩
    let third : Arrival := ⟨3, .failure "unheard of"⟩
    let r := receiveAll S [first, second, third] s files
    let r' := receiveAll S [third, second, first] s files
    r.session.turns = [.userInput "second", .explanation "as asked"] ∧
      r.session = r'.session ∧ r.surface = r'.surface ∧ r.events ~ r'.events := by
  refine ⟨by decide +kernel, ?_⟩
  exact arrival_order_irrelevant _ _ _ _ _ (List.reverse_perm [_, _, _]) (by decide)

end Session

end Redline
