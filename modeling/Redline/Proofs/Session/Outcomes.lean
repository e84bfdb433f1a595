import Redline.Proofs.Session.Run

/-!
# Outcomes are taken at most once

Outcomes may be delivered at any time, in any order, twice, or for requests that never were. Which
of them are taken is decided by the records alone: a delivery is taken if its request is the latest
that was accepted and nothing has ended the wait for it. The session keeps no more of that history
than the generation of the request under way and the number of the latest request. The second is
never reset, so a generation that was taken cannot come back.
-/

namespace Redline

namespace Record

/-- A record that ends the wait for the outcome of a request: another request is accepted, the
outcome is taken, or the conversation is cleared. -/
def ends (generation : Generation) : Record → Bool
  | .asked _ accepted => accepted
  | .delivered other taken => taken && other == generation
  | .cleared => true

/-- The generation that a record says was handed to a dispatcher. -/
def asked? : Record → Option Generation
  | .asked generation _ => some generation
  | _ => none

/-- A request of the generation is the latest that was accepted, and its outcome was neither taken
nor cleared away since. -/
def Awaits (records : List Record) (generation : Generation) : Prop :=
  ∃ before after, records = before ++ .asked generation true :: after ∧
    ∀ r ∈ after, r.ends generation = false

def generations (records : List Record) : List Generation := records.filterMap asked?

/-- Exactly those deliveries were taken whose outcome was awaited. -/
def Truthful (records : List Record) : Prop :=
  ∀ before generation taken after, records = before ++ .delivered generation taken :: after →
    (taken = true ↔ Awaits before generation)

variable {records before after : List Record} {r x : Record} {g : Generation}

theorem concat_eq_append_cons (h : records ++ [r] = before ++ x :: after) :
    (r = x ∧ records = before) ∨ ∃ rest, after = rest ++ [r] ∧ records = before ++ x :: rest := by
  rcases List.eq_nil_or_concat after with rfl | ⟨rest, y, rfl⟩
  · obtain ⟨hbefore, hr⟩ := List.append_inj' h rfl
    exact Or.inl ⟨List.head_eq_of_cons_eq hr, hbefore⟩
  · rw [List.concat_eq_append, ← List.cons_append, ← List.append_assoc] at h
    obtain ⟨hrecords, hr⟩ := List.append_inj' h rfl
    rw [List.head_eq_of_cons_eq hr]
    exact Or.inr ⟨rest, List.concat_eq_append, hrecords⟩

theorem awaits_concat :
    Awaits (records ++ [r]) g ↔ r = .asked g true ∨ Awaits records g ∧ r.ends g = false := by
  constructor
  · rintro ⟨before, after, heq, hafter⟩
    rcases concat_eq_append_cons heq with ⟨hr, -⟩ | ⟨rest, rfl, hrecords⟩
    · exact Or.inl hr
    · refine Or.inr ⟨⟨before, rest, hrecords, fun x hx ↦ ?_⟩, ?_⟩
      · exact hafter x (List.mem_append_left _ hx)
      · exact hafter r (List.mem_append_right _ List.mem_cons_self)
  · rintro (rfl | ⟨⟨before, after, rfl, hafter⟩, hends⟩)
    · exact ⟨records, [], rfl, nofun⟩
    · refine ⟨before, after ++ [r], by rw [List.append_assoc, List.cons_append], fun x hx ↦ ?_⟩
      rcases List.mem_append.mp hx with hx | hx
      · exact hafter x hx
      · obtain rfl := List.mem_singleton.mp hx
        exact hends

theorem generations_append (records more : List Record) :
    generations (records ++ more) = generations records ++ generations more :=
  List.filterMap_append

theorem mem_generations_of_awaits (h : Awaits records g) : g ∈ generations records := by
  obtain ⟨before, after, rfl, -⟩ := h
  exact List.mem_filterMap.mpr
    ⟨.asked g true, List.mem_append_right _ List.mem_cons_self, rfl⟩

/-- One more record has to be true only if it is a delivery. -/
theorem Truthful.concat (h : Truthful records)
    (hr : ∀ generation taken, r = .delivered generation taken →
      (taken = true ↔ Awaits records generation)) : Truthful (records ++ [r]) := by
  intro before generation taken after heq
  rcases concat_eq_append_cons heq with ⟨hdelivered, rfl⟩ | ⟨rest, rfl, hrecords⟩
  · exact hr generation taken hdelivered
  · exact h before generation taken rest hrecords

theorem truthful_nil : Truthful [] := by
  intro before generation taken after h
  exact absurd h.symm (List.append_ne_nil_of_right_ne_nil _ (List.cons_ne_nil _ _))

end Record

open Record

namespace Session

/-- What a session knows of the records that led to it. -/
structure Tracks (s : Session) (records : List Record) : Prop where
  /-- Requests are numbered one after the other. -/
  generations_eq : generations records = List.range' 1 s.lastGeneration
  /-- The request under way is the one whose outcome is awaited. -/
  awaits_iff : ∀ g, Awaits records g ↔ ∃ f, s.inFlight = some f ∧ f.generation = g
  /-- The deliveries taken were those that were awaited. -/
  truthful : Truthful records
  /-- What was taken has a number already given away, and is awaited no more. -/
  settled : ∀ g, .delivered g true ∈ records → g ≤ s.lastGeneration ∧ ¬Awaits records g
  /-- Nothing was taken twice. -/
  count_le : ∀ g, records.count (.delivered g true) ≤ 1

variable {s s' : Session} {records more : List Record} {r : Record} {g : Generation}

theorem tracks_ofOptions (options : SessionOptions) : (ofOptions options).Tracks [] where
  generations_eq := rfl
  awaits_iff g := by
    constructor
    · intro h
      exact absurd (mem_generations_of_awaits h) List.not_mem_nil
    · rintro ⟨f, hf, -⟩
      exact absurd hf nofun
  truthful := truthful_nil
  settled g h := absurd h List.not_mem_nil
  count_le g := Nat.zero_le _

namespace Tracks

theorem not_awaits (h : s.Tracks records) (hidle : s.inFlight = none) : ¬Awaits records g := by
  rw [h.awaits_iff, hidle]
  rintro ⟨f, hf, -⟩
  exact absurd hf nofun

theorem awaits_iff_eq {f : InFlight} (h : s.Tracks records) (hf : s.inFlight = some f) :
    Awaits records g ↔ f.generation = g := by
  rw [h.awaits_iff, hf]
  constructor
  · rintro ⟨f', hf', hg⟩
    obtain rfl := Option.some.inj hf'
    exact hg
  · intro hg
    exact ⟨f, rfl, hg⟩

theorem le_lastGeneration (h : s.Tracks records) (hg : Awaits records g) :
    g ≤ s.lastGeneration := by
  have hmem := mem_generations_of_awaits hg
  rw [h.generations_eq, List.mem_range'_1, Nat.add_comm, Nat.lt_succ_iff] at hmem
  exact hmem.2

/-- A record other than that of an outcome taken. What is awaited then was awaited before, or it is
the request that is new. -/
theorem concat (h : s.Tracks records) (hnot : ∀ g, r ≠ .delivered g true)
    (hgenerations : generations (records ++ [r]) = List.range' 1 s'.lastGeneration)
    (hle : s.lastGeneration ≤ s'.lastGeneration)
    (hflight : ∀ g, Awaits (records ++ [r]) g ↔ ∃ f, s'.inFlight = some f ∧ f.generation = g)
    (hawaits : ∀ g, Awaits (records ++ [r]) g → Awaits records g ∨ s.lastGeneration < g)
    (hstale : ∀ g, r = .delivered g false → ¬Awaits records g) :
    s'.Tracks (records ++ [r]) := by
  refine ⟨hgenerations, hflight, h.truthful.concat fun g taken hr ↦ ?_, fun g hg ↦ ?_, fun g ↦ ?_⟩
  -- A delivery that was not taken was not awaited.
  · cases taken with
    | true => exact absurd hr (hnot g)
    | false =>
      exact ⟨fun hfalse ↦ absurd hfalse Bool.false_ne_true, fun hg ↦ absurd hg (hstale g hr)⟩
  · rcases List.mem_append.mp hg with hg | hg
    · obtain ⟨hlast, hsettled⟩ := h.settled g hg
      refine ⟨Nat.le_trans hlast hle, fun hawaited ↦ ?_⟩
      -- What is awaited now is what was awaited before, or it has a number not given away before.
      rcases hawaits g hawaited with hbefore | hnew
      · exact hsettled hbefore
      · exact absurd hlast (Nat.not_le.mpr hnew)
    · exact absurd (List.mem_singleton.mp hg).symm (hnot g)
  · rw [List.count_append, List.count_singleton, if_neg (by simpa using hnot g)]
    exact h.count_le g

theorem asked (h : s.Tracks records) (hidle : s.inFlight = none) {accepted : Bool}
    (hgeneration : s'.lastGeneration = s.lastGeneration + 1)
    (hflight : ∀ g, (∃ f, s'.inFlight = some f ∧ f.generation = g) ↔
      accepted = true ∧ g = s.lastGeneration + 1) :
    s'.Tracks (records ++ [.asked (s.lastGeneration + 1) accepted]) := by
  have hawaits : ∀ g, Awaits (records ++ [.asked (s.lastGeneration + 1) accepted]) g ↔
      accepted = true ∧ g = s.lastGeneration + 1 := by
    intro g
    rw [awaits_concat, Record.asked.injEq]
    constructor
    · rintro (⟨rfl, haccepted⟩ | ⟨hg, -⟩)
      · exact ⟨haccepted, rfl⟩
      · exact absurd hg (h.not_awaits hidle)
    · rintro ⟨haccepted, rfl⟩
      exact Or.inl ⟨rfl, haccepted⟩
  refine h.concat nofun ?_ ?_ (fun g ↦ ?_) (fun g hg ↦ ?_) nofun
  · rw [generations_append, h.generations_eq, hgeneration, List.range'_concat, Nat.one_mul,
      Nat.add_comm 1]
    rfl
  · rw [hgeneration]
    exact Nat.le_succ _
  · rw [hawaits, hflight]
  · obtain ⟨-, rfl⟩ := (hawaits g).mp hg
    exact Or.inr (Nat.lt_succ_self _)

theorem taken {f : InFlight} (h : s.Tracks records) (hf : s.inFlight = some f)
    (hflight : s'.inFlight = none) (hgeneration : s'.lastGeneration = s.lastGeneration) :
    s'.Tracks (records ++ [.delivered f.generation true]) := by
  have hawaited : Awaits records f.generation := (h.awaits_iff_eq hf).mpr rfl
  have hawaits : ∀ g, ¬Awaits (records ++ [.delivered f.generation true]) g := by
    intro g
    rw [awaits_concat]
    rintro (hr | ⟨hg, hends⟩)
    · exact absurd hr nofun
    · rw [(h.awaits_iff_eq hf).mp hg] at hends
      simp [ends] at hends
  refine ⟨?_, fun g ↦ ?_, ?_, fun g hg ↦ ⟨?_, hawaits g⟩, fun g ↦ ?_⟩
  · rw [generations_append, h.generations_eq, hgeneration]
    exact List.append_nil _
  · rw [hflight]
    refine ⟨fun hg ↦ absurd hg (hawaits g), ?_⟩
    rintro ⟨f', hf', -⟩
    exact absurd hf' nofun
  · refine h.truthful.concat fun g taken hr ↦ ?_
    obtain ⟨rfl, rfl⟩ := Record.delivered.inj hr
    exact ⟨fun _ ↦ hawaited, fun _ ↦ rfl⟩
  · rw [hgeneration]
    rcases List.mem_append.mp hg with hg | hg
    · exact (h.settled g hg).1
    · obtain ⟨rfl, -⟩ := Record.delivered.inj (List.mem_singleton.mp hg)
      exact h.le_lastGeneration hawaited
  · rw [List.count_append, List.count_singleton]
    by_cases hg : g = f.generation
    · subst hg
      -- It was awaited until now, so it has not been taken before.
      have hnew : Record.delivered f.generation true ∉ records :=
        fun hmem ↦ (h.settled _ hmem).2 hawaited
      rw [List.count_eq_zero_of_not_mem hnew, Nat.zero_add]
      split <;> decide
    · rw [if_neg (by simpa using fun heq ↦ hg heq.symm)]
      exact h.count_le g

theorem stale (h : s.Tracks records) (hstale : ∀ f, s.inFlight = some f → f.generation ≠ g) :
    s.Tracks (records ++ [.delivered g false]) := by
  have hnot : ¬Awaits records g := by
    rw [h.awaits_iff]
    rintro ⟨f, hf, hg⟩
    exact hstale f hf hg
  have hawaits : ∀ g', Awaits (records ++ [.delivered g false]) g' ↔ Awaits records g' := by
    intro g'
    rw [awaits_concat]
    simp [ends]
  refine h.concat nofun ?_ (Nat.le_refl _) (fun g' ↦ ?_) (fun g' hg ↦ ?_) fun g' hr ↦ ?_
  · rw [generations_append, h.generations_eq]
    exact List.append_nil _
  · rw [hawaits, h.awaits_iff]
  · exact Or.inl ((hawaits g').mp hg)
  · obtain ⟨rfl, -⟩ := Record.delivered.inj hr
    exact hnot

theorem cleared (h : s.Tracks records) : s.clear.Tracks (records ++ [.cleared]) := by
  have hawaits : ∀ g, ¬Awaits (records ++ [.cleared]) g := by
    intro g
    rw [awaits_concat]
    rintro (hr | ⟨-, hends⟩)
    · exact absurd hr nofun
    · exact absurd hends Bool.noConfusion
  refine h.concat nofun ?_ (Nat.le_refl _) (fun g ↦ ?_) (fun g hg ↦ absurd hg (hawaits g)) nofun
  · rw [generations_append, h.generations_eq]
    exact List.append_nil _
  · refine ⟨fun hg ↦ absurd hg (hawaits g), ?_⟩
    rintro ⟨f, hf, -⟩
    exact absurd hf nofun

theorem congr (h : s.Tracks records) (hflight : s'.inFlight = s.inFlight)
    (hgeneration : s'.lastGeneration = s.lastGeneration) : s'.Tracks records where
  generations_eq := by rw [hgeneration, h.generations_eq]
  awaits_iff g := by rw [hflight, h.awaits_iff]
  truthful := h.truthful
  settled g hg := by
    rw [hgeneration]
    exact h.settled g hg
  count_le := h.count_le

/-- **Every call keeps track.** -/
theorem effect (h : s.Tracks records) (heffect : Effect s s' more) :
    s'.Tracks (records ++ more) := by
  cases heffect with
  | kept hturns hflight hgeneration =>
    rw [List.append_nil]
    exact h.congr hflight hgeneration
  | unasked prompt message hidle =>
    rw [List.append_nil]
    exact h.congr rfl rfl
  | refused prompt message hidle =>
    refine h.asked hidle rfl fun g ↦ ?_
    simp [hidle]
  | accepted prompt hint active snapshot hidle =>
    refine h.asked hidle rfl fun g ↦ ?_
    simp [eq_comm]
  | taken f turn hflight houtcome =>
    exact h.taken hflight (inFlight_answered s turn) (lastGeneration_answered s turn)
  | stale generation hstale => exact h.stale hstale
  | cleared => exact h.cleared

end Tracks

theorem tracks_run (options : SessionOptions) (actions : List Action) :
    ((ofOptions options).run actions).1.Tracks ((ofOptions options).run actions).2 :=
  run_induction [] actions (tracks_ofOptions options) fun _ _ _ _ htracks heffect ↦
    htracks.effect heffect

/-! ## How many generations there are -/

theorem Effect.lastGeneration_eq (h : Effect s s' records) :
    s'.lastGeneration = s.lastGeneration + (generations records).length ∧
      (generations records).length ≤ 1 := by
  cases h with
  | kept hturns hflight hgeneration => exact ⟨hgeneration, Nat.zero_le _⟩
  | unasked prompt message hidle => exact ⟨rfl, Nat.zero_le _⟩
  | refused prompt message hidle => exact ⟨rfl, Nat.le_refl _⟩
  | accepted prompt hint active snapshot hidle => exact ⟨rfl, Nat.le_refl _⟩
  | taken f turn hflight houtcome => exact ⟨lastGeneration_answered s turn, Nat.zero_le _⟩
  | stale generation hstale => exact ⟨rfl, Nat.zero_le _⟩
  | cleared => exact ⟨rfl, Nat.zero_le _⟩

theorem generations_perform (s : Session) {action : Action} (h : action.isSubmit = false) :
    generations (s.perform action).2 = [] := by
  cases action with
  | submit S D text surface dispatcher => exact absurd h Bool.noConfusion
  | setModel model => rw [perform]; split <;> rfl
  | addContextFile path => rw [perform]; split <;> rfl
  | _ => rfl

/-- There are no more generations than submissions, so fewer than `2 ^ 64` submissions need no more
than 64-bit words. -/
theorem lastGeneration_run_le (s : Session) (actions : List Action) :
    (s.run actions).1.lastGeneration ≤ s.lastGeneration + actions.countP Action.isSubmit := by
  induction actions generalizing s with
  | nil => exact Nat.le_refl _
  | cons action actions ih =>
    obtain ⟨hlast, hle⟩ := (s.perform_effect action).lastGeneration_eq
    have hrest := ih (s.perform action).1
    rw [List.countP_cons]
    by_cases hsubmit : action.isSubmit
    · rw [if_pos hsubmit]
      calc (s.run (action :: actions)).1.lastGeneration
        _ ≤ (s.perform action).1.lastGeneration + actions.countP Action.isSubmit := hrest
        _ ≤ s.lastGeneration + 1 + actions.countP Action.isSubmit :=
          Nat.add_le_add_right (hlast ▸ Nat.add_le_add_left hle _) _
        _ = s.lastGeneration + (actions.countP Action.isSubmit + 1) := by
          rw [Nat.add_assoc, Nat.add_comm 1]
    · rw [generations_perform s (Bool.eq_false_iff.mpr hsubmit), List.length_nil,
        Nat.add_zero] at hlast
      rw [hlast] at hrest
      rwa [if_neg hsubmit, Nat.add_zero]

theorem Effect.eq_of_stale (h : Effect s s' records) (hrecords : records = [.delivered g false]) :
    s' = s := by
  cases h with
  | stale generation hstale => rfl
  | taken f turn hflight houtcome =>
    have hrecord := Record.delivered.inj (List.head_eq_of_cons_eq hrecords)
    exact absurd hrecord.2 Bool.noConfusion
  | _ => exact absurd hrecords nofun

/-- **Outcomes are taken at most once**, in every run. Requests, refused ones included, are given
growing numbers, no more than there are submissions; a delivery is taken exactly if the latest
accepted request has its number and is still waiting; a delivery that is not taken leaves the whole
session as it is; and no generation is taken twice. -/
theorem outcomes_run (options : SessionOptions) (actions : List Action) :
    let (s, records) := (ofOptions options).run actions
    ((generations records).Pairwise (· < ·) ∧
      s.lastGeneration ≤ actions.countP Action.isSubmit ∧
        ∀ g ∈ generations records, g ≤ s.lastGeneration) ∧
    (∀ before g taken after, records = before ++ .delivered g taken :: after →
      (taken = true ↔ Awaits before g)) ∧
    (∀ (t : Session) (action : Action) (g : Generation),
      (t.perform action).2 = [.delivered g false] → (t.perform action).1 = t) ∧
    ∀ g, records.count (.delivered g true) ≤ 1 := by
  have htracks := tracks_run options actions
  have hlast : ((ofOptions options).run actions).1.lastGeneration
      ≤ 0 + actions.countP Action.isSubmit := lastGeneration_run_le (ofOptions options) actions
  rw [Nat.zero_add] at hlast
  generalize (ofOptions options).run actions = result at htracks hlast
  obtain ⟨s, records⟩ := result
  refine ⟨⟨?_, ?_, ?_⟩, htracks.truthful, fun t action g ↦ (t.perform_effect action).eq_of_stale,
    htracks.count_le⟩
  · rw [htracks.generations_eq]
    exact List.pairwise_lt_range'
  · exact hlast
  · intro g hg
    rw [htracks.generations_eq, List.mem_range'_1, Nat.add_comm, Nat.lt_succ_iff] at hg
    exact hg.2

end Session

end Redline
