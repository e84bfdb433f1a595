import Redline.Proofs.Session.Frame

/-!
# Tracking context files

A session looks at a path before it hands it on to its store: a path of nothing but white space is
refused with an error, so that the answer of the store, if it is asked, tells a new file from one
that is tracked already. But the store looks at the normal form of the path, which may be empty
where the path is not, and then it says no as well. The user is told that `.` is tracked already.

The store also looks a path up by the normal form of its normal form, so that a path with white
space at the beginning of its normal form may be taken for another one.
-/

namespace Redline

open Redline.Text

namespace Session

variable {s : Session} {path : String}

/-! ## What is promised -/

/-- **What the answers to tracking a path promise.** A path names a file unless its normal form is
empty. -/
structure TracksAsPromised (s : Session) (path : String) : Prop where
  /-- The answer is yes exactly if the path names a file that is not tracked. -/
  added_iff : (∃ s', s.addContextFile path = .ok (true, s')) ↔
    normalizePath path ≠ "" ∧ s.context.contains path = false
  /-- Then it is tracked. -/
  added : ∀ s', s.addContextFile path = .ok (true, s') → s'.context.contains path = true
  /-- The answer is no exactly if the file is tracked already. -/
  known_iff : (∃ s', s.addContextFile path = .ok (false, s')) ↔ s.context.contains path = true
  /-- Then nothing changes. -/
  known : ∀ s', s.addContextFile path = .ok (false, s') → s' = s
  /-- The answer is an error exactly if the path names no file. -/
  blank_iff : s.addContextFile path = .error .blankPath ↔ normalizePath path = ""
  /-- Then nothing changes either. -/
  blank : s.addContextFile path = .error .blankPath →
    (s.perform (.addContextFile path)).1 = s

/-! ## What is kept -/

theorem addContextFile_of_blank (h : isBlankText path = true) (s : Session) :
    s.addContextFile path = .error .blankPath := by
  rw [addContextFile, trimmed?, if_pos h]

theorem addContextFile_ne_ok (h : isBlankText path = true) (s : Session) (r : Bool × Session) :
    s.addContextFile path ≠ .ok r := by
  rw [addContextFile_of_blank h]
  exact nofun

theorem addContextFile_of_notBlank (h : isBlankText path = false) (s : Session) :
    s.addContextFile path =
      .ok ((s.context.add path).1, { s with context := (s.context.add path).2 }) := by
  rw [addContextFile, trimmed?, if_neg (Bool.eq_false_iff.mp h)]
  simp only [ContextStore.add_trim]

theorem addContextFile_ne_error (h : isBlankText path = false) (s : Session) (e : SessionError) :
    s.addContextFile path ≠ .error e := by
  rw [addContextFile_of_notBlank h]
  exact nofun

/-- A blank path keeps the promise, as no tracked path is blank. -/
theorem tracksAsPromised_of_blank (h : ∀ p ∈ s.context.paths, isBlankText p = false)
    (hblank : isBlankText path = true) : s.TracksAsPromised path := by
  have hnormal := normalizePath_of_blank hblank
  have huntracked : s.context.contains path = false :=
    ContextStore.contains_eq_false_of_blank h (by rw [hnormal]; rfl)
  have hanswer := addContextFile_of_blank hblank s
  have hnone : ∀ answer, ¬∃ s', s.addContextFile path = .ok (answer, s') := by
    rintro answer ⟨s', hs'⟩
    exact addContextFile_ne_ok hblank s _ hs'
  refine ⟨?_, ?_, ?_, ?_, iff_of_true hanswer hnormal, fun _ ↦ by rw [perform, hanswer]⟩
  · exact iff_of_false (hnone true) fun hnames ↦ hnames.1 hnormal
  · exact fun s' hs' ↦ absurd hs' (addContextFile_ne_ok hblank s _)
  · rw [huntracked]
    exact iff_of_false (hnone false) Bool.false_ne_true
  · exact fun s' hs' ↦ absurd hs' (addContextFile_ne_ok hblank s _)

theorem tracksAsPromised_iff_of_notBlank (h : isBlankText path = false) :
    s.TracksAsPromised path ↔ normalizePath path ≠ "" ∧
      (s.context.add path).1 = !s.context.contains path := by
  have hanswer := addContextFile_of_notBlank h s
  have hadded : ∀ answer, (∃ s', s.addContextFile path = .ok (answer, s')) ↔
      (s.context.add path).1 = answer := by
    intro answer
    rw [hanswer]
    constructor
    · rintro ⟨s', hs'⟩
      exact (Prod.mk.inj (Except.ok.inj hs')).1
    · rintro rfl
      exact ⟨_, rfl⟩
  constructor
  · intro hpromise
    have hnames : normalizePath path ≠ "" := fun hnormal ↦
      addContextFile_ne_error h s _ (hpromise.blank_iff.mpr hnormal)
    refine ⟨hnames, ?_⟩
    cases htracked : s.context.contains path with
    | true => exact (hadded false).mp (hpromise.known_iff.mpr htracked)
    | false => exact (hadded true).mp (hpromise.added_iff.mpr ⟨hnames, htracked⟩)
  · rintro ⟨hnames, hstore⟩
    refine ⟨?_, ?_, ?_, ?_, ?_, ?_⟩
    · rw [hadded, hstore, Bool.not_eq_true', and_iff_right hnames]
    · intro s' hs'
      obtain ⟨htrue, rfl⟩ := Prod.mk.inj (Except.ok.inj (hanswer.symm.trans hs'))
      dsimp only
      exact s.context.contains_add path htrue
    · rw [hadded, hstore, Bool.not_eq_false']
    · intro s' hs'
      obtain ⟨hfalse, rfl⟩ := Prod.mk.inj (Except.ok.inj (hanswer.symm.trans hs'))
      rw [ContextStore.snd_add_of_refused hfalse]
    · exact iff_of_false (addContextFile_ne_error h s _) hnames
    · exact fun herror ↦ absurd herror (addContextFile_ne_error h s _)

/-- **When tracking keeps its promise**, on a session without blank paths: the path is blank as it
is given, or its normal form is not blank and is found exactly if the path is. -/
theorem tracksAsPromised_iff (h : ∀ p ∈ s.context.paths, isBlankText p = false) (path : String) :
    s.TracksAsPromised path ↔ isBlankText path = true ∨ isBlankText (normalizePath path) = false ∧
      s.context.contains (normalizePath path) = s.context.contains path := by
  cases hblank : isBlankText path with
  | true => exact iff_of_true (tracksAsPromised_of_blank h hblank) (.inl rfl)
  | false =>
    rw [tracksAsPromised_iff_of_notBlank hblank]
    cases hnormal : isBlankText (normalizePath path) with
    | true =>
      -- The store says no although nothing blank is tracked.
      have huntracked := ContextStore.contains_eq_false_of_blank h hnormal
      rw [ContextStore.add_eq_of_blank hnormal, huntracked]
      simp
    | false =>
      have hnames : normalizePath path ≠ "" := by
        rintro hempty
        rw [hempty] at hnormal
        exact absurd hnormal (by decide)
      rw [ContextStore.fst_add hnormal, Bool.not_inj_iff]
      simp [hnames]

/-- A path that keeps the promise on a session that tracks nothing but that path is blank, or looked
up as it is tracked. -/
theorem trimmed_of_tracksAsPromised (h : isBlankText path = false)
    (hpromise : ∀ actions, ((ofOptions {}).run actions).1.TracksAsPromised path) :
    isBlankText (normalizePath path) = false ∧ Trimmed (normalizePath path) := by
  have hblank := notBlank_context {}
  have hfirst := (tracksAsPromised_iff (hblank []) path).mp (hpromise [])
  obtain ⟨hnormal, -⟩ := hfirst.resolve_left (Bool.eq_false_iff.mp h)
  have hsecond := (tracksAsPromised_iff (hblank [.addContextFile path]) path).mp (hpromise _)
  obtain ⟨-, hsame⟩ := hsecond.resolve_left (Bool.eq_false_iff.mp h)
  -- The path is tracked now, and the second lookup looks for the normal form of what is tracked.
  have hcontext : ((ofOptions {}).run [.addContextFile path]).1.context =
      ⟨[normalizePath path]⟩ := by
    have hadd : ({} : ContextStore).add path = (true, ⟨[normalizePath path]⟩) := by
      rw [ContextStore.add, if_neg]
      · rfl
      · simp [hnormal, ContextStore.contains]
    simp only [run, perform, addContextFile_of_notBlank h]
    exact congrArg Prod.snd hadd
  rw [hcontext, ContextStore.contains, ContextStore.contains] at hsame
  refine ⟨hnormal, normalizePath_normalizePath_iff.mp ?_⟩
  simpa using hsame

/-- **When tracking keeps its promise.** On a session that a run leads to, it does so for a path
that is blank as it is given, and for one whose normal form is not blank and is found in the store
exactly if the path is. On all these sessions it does so for a path that is blank, or has a normal
form that is not blank and has no white space around it. -/
theorem tracksAsPromised_run_iff (path : String) :
    (∀ (options : SessionOptions) (actions : List Action),
      let s := ((ofOptions options).run actions).1
      s.TracksAsPromised path ↔ isBlankText path = true ∨ isBlankText (normalizePath path) = false ∧
        s.context.contains (normalizePath path) = s.context.contains path) ∧
    ((∀ (options : SessionOptions) (actions : List Action),
      ((ofOptions options).run actions).1.TracksAsPromised path) ↔
        isBlankText path = true ∨
          isBlankText (normalizePath path) = false ∧ Trimmed (normalizePath path)) := by
  have hiff := fun options actions ↦
    tracksAsPromised_iff (notBlank_context options actions) path
  refine ⟨hiff, ?_, ?_⟩
  · intro hpromise
    cases hblank : isBlankText path with
    | true => exact .inl rfl
    | false => exact .inr (trimmed_of_tracksAsPromised hblank (hpromise {}))
  · rintro (hblank | ⟨hnormal, htrimmed⟩) options actions
    · exact (hiff options actions).mpr (.inl hblank)
    · refine (hiff options actions).mpr (.inr ⟨hnormal, ?_⟩)
      have hsame := normalizePath_normalizePath_iff.mpr htrimmed
      rw [ContextStore.contains, hsame, ContextStore.contains]

/-- The answer to tracking `.` is that it is tracked already. -/
theorem not_tracksAsPromised_dot : ¬(ofOptions {}).TracksAsPromised "." := fun h ↦
  addContextFile_ne_error (by decide) _ _ (h.blank_iff.mpr (by decide))

end Session

end Redline
