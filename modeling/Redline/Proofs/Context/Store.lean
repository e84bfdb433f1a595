import Mathlib.Data.List.Dedup
import Redline.Context.Store
import Redline.Proofs.Text.Path

/-!
# The store as an ordered set

A store is changed by calls that add and remove paths, and the normal forms that it tracks are meant
to be an ordered set: no path twice, each at the place of its latest addition.

An addition looks its path up by the normal form of the normal form. Where the two differ, which is
where the normal form has white space around it, the path looked for is not the path that is added.
As long as no such path is added, every tracked path is its own normal form, and this is the
invariant that makes the store a set.
-/

namespace Redline

open Redline.Text

namespace ContextStore

/-! ## Calls -/

/-- A call that changes a store. -/
inductive Call
  | add (path : String)
  | remove (path : String)
deriving DecidableEq, Repr

def perform (store : ContextStore) : Call → Bool × ContextStore
  | .add path => store.add path
  | .remove path => store.remove path

def run (store : ContextStore) (calls : List Call) : ContextStore :=
  calls.foldl (fun store c ↦ (store.perform c).2) store

/-- The normal form that a call adds, if it is an addition that succeeds. -/
def added (store : ContextStore) : Call → List String
  | .add path => if (store.add path).1 then [normalizePath path] else []
  | .remove _ => []

def additions (store : ContextStore) : List Call → List String
  | [] => []
  | c :: calls => store.added c ++ (store.perform c).2.additions calls

variable {store : ContextStore} {path : String} {calls : List Call} {c : Call}
variable {earlier : List String}

theorem contains_iff : store.contains path = true ↔ normalizePath path ∈ store.paths :=
  List.contains_iff_mem

theorem contains_eq_false_iff : store.contains path = false ↔ normalizePath path ∉ store.paths := by
  rw [← Bool.not_eq_true, contains_iff]

theorem add_cases (store : ContextStore) (path : String) :
    (store.add path = (false, store) ∧
      (isBlankText (normalizePath path) = true ∨
        normalizePath (normalizePath path) ∈ store.paths)) ∨
    (store.add path = (true, ⟨store.paths ++ [normalizePath path]⟩) ∧
      isBlankText (normalizePath path) = false ∧
        normalizePath (normalizePath path) ∉ store.paths) := by
  simp only [add]
  split
  next hrefused =>
    rw [Bool.or_eq_true, contains_iff] at hrefused
    exact .inl ⟨rfl, hrefused⟩
  next hadded =>
    rw [Bool.or_eq_true, not_or, contains_iff, Bool.not_eq_true] at hadded
    exact .inr ⟨rfl, hadded⟩

theorem contains_remove (store : ContextStore) (path : String) :
    (store.remove path).2.contains path = false := by
  rw [contains_eq_false_iff]
  intro hmem
  have hkept := (List.mem_filter.mp hmem).2
  exact bne_iff_ne.mp hkept rfl

theorem remove_sublist (store : ContextStore) (path : String) :
    (store.remove path).2.paths.Sublist store.paths := List.filter_sublist

theorem add_trim (store : ContextStore) (path : String) :
    store.add (trim path) = store.add path := by
  rw [add, normalizePath_trim, add]

theorem contains_eq_false_of_blank (h : ∀ p ∈ store.paths, isBlankText p = false)
    (hblank : isBlankText (normalizePath path) = true) : store.contains path = false :=
  contains_eq_false_iff.mpr fun hmem ↦
    absurd ((h _ hmem).symm.trans hblank) Bool.false_ne_true

theorem contains_add (store : ContextStore) (path : String) (h : (store.add path).1 = true) :
    (store.add path).2.contains path = true := by
  rcases store.add_cases path with ⟨hadd, -⟩ | ⟨hadd, -, -⟩
  · rw [hadd] at h
    exact absurd h Bool.false_ne_true
  · rw [hadd]
    exact contains_iff.mpr (List.mem_append_right _ (List.mem_singleton_self _))

theorem fst_add (hblank : isBlankText (normalizePath path) = false) (store : ContextStore) :
    (store.add path).1 = !store.contains (normalizePath path) := by
  rcases store.add_cases path with ⟨hadd, hrefused⟩ | ⟨hadd, -, hnew⟩
  · have hmem := hrefused.resolve_left (Bool.eq_false_iff.mp hblank)
    rw [hadd, contains_iff.mpr hmem, Bool.not_true]
  · rw [hadd, contains_eq_false_iff.mpr hnew, Bool.not_false]

theorem add_eq_of_blank (hblank : isBlankText (normalizePath path) = true)
    (store : ContextStore) : store.add path = (false, store) := by
  rcases store.add_cases path with ⟨hadd, -⟩ | ⟨-, hblank', -⟩
  · exact hadd
  · exact absurd (hblank'.symm.trans hblank) Bool.false_ne_true

theorem snd_add_of_refused (h : (store.add path).1 = false) : (store.add path).2 = store := by
  rcases store.add_cases path with ⟨hadd, -⟩ | ⟨hadd, -, -⟩
  · rw [hadd]
  · rw [hadd] at h
    exact absurd h Bool.noConfusion

/-! ## What is promised -/

/-- **What is promised of one call**, on the store on which it is made. An addition succeeds exactly
if the path was not tracked and is not blank; a path that is not blank is tracked afterwards, and
adding it again is refused and changes nothing. A removed path is not tracked afterwards. -/
def Kept (store : ContextStore) : Call → Prop
  | .add path =>
    ((store.add path).1 = true ↔
      store.contains path = false ∧ isBlankText (normalizePath path) = false) ∧
    (isBlankText (normalizePath path) = false →
      (store.add path).2.contains path = true ∧
        (store.add path).2.add path = (false, (store.add path).2))
  | .remove path => (store.remove path).2.contains path = false

def AllKept (store : ContextStore) : List Call → Prop
  | [] => True
  | c :: calls => store.Kept c ∧ (store.perform c).2.AllKept calls

/-- **What is promised of calls** on a new store. -/
structure Promised (calls : List Call) : Prop where
  distinct : (run {} calls).paths.Nodup
  notBlank : ∀ p ∈ (run {} calls).paths, isBlankText p = false
  /-- The tracked paths stand in the order of their latest successful additions: of the equal
  members of a list, `List.dedup` keeps the last. -/
  ordered : (run {} calls).paths.Sublist (additions {} calls).dedup
  /-- Every call keeps its promise. -/
  kept : AllKept {} calls

/-! ## One call -/

/-- A call adds a path whose normal form has no white space around it, or a blank one, or none. -/
def Call.Settled : Call → Prop
  | .add path => isBlankText (normalizePath path) = false → Trimmed (normalizePath path)
  | .remove _ => True

/-- What calls keep: every tracked path is its own normal form, and the tracked paths stand in the
order of their latest additions. -/
structure Ordered (store : ContextStore) (earlier : List String) : Prop where
  normal : ∀ p ∈ store.paths, normalizePath p = p
  /-- The tracked paths stand in the order of their latest additions. -/
  sublist : store.paths.Sublist earlier.dedup

theorem notBlank_perform (h : ∀ p ∈ store.paths, isBlankText p = false) (c : Call) :
    ∀ p ∈ (store.perform c).2.paths, isBlankText p = false := by
  intro p hp
  cases c with
  | add path =>
    rw [perform] at hp
    rcases store.add_cases path with ⟨hadd, -⟩ | ⟨hadd, hblank, -⟩
    · rw [hadd] at hp
      exact h p hp
    · rw [hadd] at hp
      rcases List.mem_append.mp hp with hp | hp
      · exact h p hp
      · obtain rfl := List.mem_singleton.mp hp
        exact hblank
  | remove path => exact h p ((store.remove_sublist path).subset hp)

/-- A path that no tracked path equals comes last in the order of the latest additions when it is
added. -/
theorem sublist_dedup_concat {tracked : List String} {p : String}
    (h : tracked.Sublist earlier.dedup) (hp : p ∉ tracked) :
    (tracked ++ [p]).Sublist (earlier ++ [p]).dedup := by
  induction earlier generalizing tracked with
  | nil =>
    obtain rfl := List.sublist_nil.mp h
    exact List.Sublist.refl _
  | cons first earlier ih =>
    by_cases hfirst : first ∈ earlier
    · rw [List.dedup_cons_of_mem hfirst] at h
      rw [List.cons_append, List.dedup_cons_of_mem (List.mem_append_left _ hfirst)]
      exact ih h hp
    · rw [List.dedup_cons_of_notMem hfirst] at h
      cases h with
      | cons _ h =>
        have hlater : (earlier ++ [p]).dedup.Sublist (first :: earlier ++ [p]).dedup := by
          rw [List.cons_append]
          by_cases hmem : first ∈ earlier ++ [p]
          · rw [List.dedup_cons_of_mem hmem]
          · rw [List.dedup_cons_of_notMem hmem]
            exact List.sublist_cons_self _ _
        exact (ih h hp).trans hlater
      | cons_cons _ h =>
        have hne : first ≠ p := fun heq ↦ hp (heq ▸ List.mem_cons_self)
        have hmem : first ∉ earlier ++ [p] := by
          rw [List.mem_append, List.mem_singleton]
          exact not_or.mpr ⟨hfirst, hne⟩
        rw [List.cons_append, List.cons_append, List.dedup_cons_of_notMem hmem]
        exact (ih h fun hmem ↦ hp (List.mem_cons_of_mem _ hmem)).cons_cons first

theorem Ordered.perform (h : store.Ordered earlier) (hc : c.Settled) :
    (store.perform c).2.Ordered (earlier ++ store.added c) := by
  cases c with
  | remove path =>
    have hsub := store.remove_sublist path
    refine ⟨fun p hp ↦ h.normal p (hsub.subset hp), ?_⟩
    rw [added, List.append_nil]
    exact hsub.trans h.sublist
  | add path =>
    rw [ContextStore.perform, added]
    rcases store.add_cases path with ⟨hadd, -⟩ | ⟨hadd, hblank, hnew⟩
    · rw [hadd, if_neg Bool.false_ne_true, List.append_nil]
      exact h
    · -- The path looked for is the path that is added, so it is not tracked yet.
      have hnormal := normalizePath_normalizePath_iff.mpr (hc hblank)
      rw [hnormal] at hnew
      rw [hadd, if_pos rfl]
      refine ⟨?_, sublist_dedup_concat h.sublist hnew⟩
      intro p hp
      rcases List.mem_append.mp hp with hp | hp
      · exact h.normal p hp
      · obtain rfl := List.mem_singleton.mp hp
        exact hnormal

theorem add_of_settled (h : (Call.add path).Settled) (store : ContextStore) :
    store.add path =
      if isBlankText (normalizePath path) = true ∨ store.contains path = true then (false, store)
      else (true, ⟨store.paths ++ [normalizePath path]⟩) := by
  rcases store.add_cases path with ⟨hadd, hrefused⟩ | ⟨hadd, hblank, hnew⟩
  · rw [hadd, if_pos]
    rcases hrefused with hblank | hmem
    · exact .inl hblank
    · by_cases hblank : isBlankText (normalizePath path) = true
      · exact .inl hblank
      · have hnormal := normalizePath_normalizePath_iff.mpr (h (Bool.eq_false_iff.mpr hblank))
        exact .inr (contains_iff.mpr (hnormal ▸ hmem))
  · have hnormal := normalizePath_normalizePath_iff.mpr (h hblank)
    rw [hadd, if_neg]
    rintro (hblank' | htracked)
    · exact absurd (hblank.symm.trans hblank') Bool.false_ne_true
    · exact hnew (hnormal.symm ▸ contains_iff.mp htracked)

theorem kept_of_settled (h : c.Settled) (store : ContextStore) : store.Kept c := by
  cases c with
  | remove path => exact store.contains_remove path
  | add path =>
    rw [Kept, add_of_settled h store]
    split
    next hrefused =>
      refine ⟨iff_of_false Bool.false_ne_true ?_, ?_⟩
      · rintro ⟨huntracked, hblank⟩
        exact hrefused.elim (Bool.eq_false_iff.mp hblank) (Bool.eq_false_iff.mp huntracked)
      · intro hblank
        have htracked := hrefused.resolve_left (Bool.eq_false_iff.mp hblank)
        exact ⟨htracked, by rw [add_of_settled h store, if_pos (.inr htracked)]⟩
    next hnew =>
      obtain ⟨hblank, huntracked⟩ := not_or.mp hnew
      have htracked : (⟨store.paths ++ [normalizePath path]⟩ : ContextStore).contains path = true :=
        contains_iff.mpr (List.mem_append_right _ (List.mem_singleton_self _))
      refine ⟨iff_of_true rfl ?_, ?_⟩
      · exact ⟨Bool.eq_false_iff.mpr huntracked, Bool.eq_false_iff.mpr hblank⟩
      · intro _
        exact ⟨htracked, by rw [add_of_settled h, if_pos (.inr htracked)]⟩

/-- On a store of normal forms, only a settled call keeps its promise. -/
theorem settled_of_kept (h : ∀ p ∈ store.paths, normalizePath p = p) (hkept : store.Kept c) :
    c.Settled := by
  cases c with
  | remove path => trivial
  | add path =>
    intro hblank
    obtain ⟨htracked, hagain⟩ := hkept.2 hblank
    rw [← normalizePath_normalizePath_iff]
    rcases store.add_cases path with ⟨hadd, -⟩ | ⟨hadd, -, hnew⟩
    · -- A refused path is tracked before the call, as it is tracked after it.
      rw [hadd, contains_iff] at htracked
      exact h _ htracked
    · -- Added again, the path is refused only for a path that was tracked since.
      rw [hadd] at hagain
      rcases (⟨store.paths ++ [normalizePath path]⟩ : ContextStore).add_cases path with
        ⟨-, hblank' | hmem⟩ | ⟨hadd', -, -⟩
      · exact absurd (hblank.symm.trans hblank') Bool.false_ne_true
      · exact List.mem_singleton.mp ((List.mem_append.mp hmem).resolve_left hnew)
      · have hanswer : true = false := congrArg Prod.fst (hadd'.symm.trans hagain)
        exact absurd hanswer Bool.false_ne_true.symm

/-! ## Calls one after another -/

theorem notBlank_run (h : ∀ p ∈ store.paths, isBlankText p = false) (calls : List Call) :
    ∀ p ∈ (store.run calls).paths, isBlankText p = false := by
  induction calls generalizing store with
  | nil => exact h
  | cons c calls ih => exact ih (notBlank_perform h c)

theorem Ordered.run (h : store.Ordered earlier) (hcalls : ∀ c ∈ calls, c.Settled) :
    (store.run calls).Ordered (earlier ++ store.additions calls) := by
  induction calls generalizing store earlier with
  | nil =>
    rw [additions, List.append_nil]
    exact h
  | cons c calls ih =>
    have hfirst := h.perform (hcalls c List.mem_cons_self)
    have hrest := ih hfirst fun c hc ↦ hcalls c (List.mem_cons_of_mem _ hc)
    rwa [List.append_assoc] at hrest

theorem Ordered.allKept_iff (h : store.Ordered earlier) :
    store.AllKept calls ↔ ∀ c ∈ calls, c.Settled := by
  induction calls generalizing store earlier with
  | nil => exact iff_of_true trivial nofun
  | cons c calls ih =>
    have hfirst : store.Kept c ↔ c.Settled :=
      ⟨settled_of_kept h.normal, fun hc ↦ kept_of_settled hc store⟩
    rw [AllKept, hfirst, List.forall_mem_cons]
    exact and_congr_right fun hc ↦ ih (h.perform hc)

/-- **The store is an ordered set** exactly as long as no path is added whose normal form has white
space around it, blank ones apart. -/
theorem promised_iff (calls : List Call) :
    Promised calls ↔ ∀ path, .add path ∈ calls → isBlankText (normalizePath path) = false →
      Trimmed (normalizePath path) := by
  have hnone : ∀ p, p ∉ ({} : ContextStore).paths := fun p ↦ List.not_mem_nil
  have hempty : Ordered {} [] := ⟨fun p hp ↦ absurd hp (hnone p), List.Sublist.refl _⟩
  have hsettled : (∀ c ∈ calls, c.Settled) ↔ ∀ path, .add path ∈ calls →
      isBlankText (normalizePath path) = false → Trimmed (normalizePath path) := by
    constructor
    · exact fun h path hmem ↦ h _ hmem
    · intro h c hmem
      cases c with
      | add path => exact h path hmem
      | remove path => trivial
  rw [← hsettled]
  constructor
  · intro h
    exact hempty.allKept_iff.mp h.kept
  · intro h
    have hordered := hempty.run h
    rw [List.nil_append] at hordered
    exact {
      distinct := (List.nodup_dedup _).sublist hordered.sublist
      notBlank := notBlank_run (fun p hp ↦ absurd hp (hnone p)) calls
      ordered := hordered.sublist
      kept := hempty.allKept_iff.mpr h }

/-- Added twice, `./ a` is tracked twice. -/
theorem not_promised_dot_blank : ¬ Promised [.add "./ a", .add "./ a"] := fun h ↦
  absurd h.distinct (by decide)

end ContextStore

end Redline
