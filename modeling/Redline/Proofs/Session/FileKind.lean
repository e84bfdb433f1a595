import Redline.Proofs.Session.Frame
import Redline.Proofs.Session.Proposal
import Redline.Proofs.Session.Verdict
import Redline.Proofs.Text.Split

/-!
# Kinds of active files

A session may be set up with extensions, and is then asked about files of these kinds only. What is
configured is trimmed first and loses its leading dots after that, so white space behind the dots
stays; what is left of it in lower case is compared with what follows the last dot of the file name
in lower case.

An extension with a dot inside, such as `tar.gz`, is kept as it is configured. No file is of that
kind, since what follows the last dot holds no dot. Such an extension still counts as one: it is the
reason why all files are refused that are of no other kind.
-/

namespace Redline

open Redline.Text

variable {configured : List String} {path : String} {name ending cs : List Char}

/-! ## File names and endings -/

def IsSeparator (c : Char) : Prop := c = '/' ∨ c = '\\'

/-- A name is what stands behind the last separator of a path, or all of a path that has none. -/
def IsFileName (path name : List Char) : Prop :=
  (∀ c ∈ name, ¬IsSeparator c) ∧
    (path = name ∨ ∃ folder c, IsSeparator c ∧ path = folder ++ c :: name)

/-- A name consists of a stem that is not empty, a dot and an ending. -/
def EndsIn (name ending : List Char) : Prop := ∃ stem, stem ≠ [] ∧ name = stem ++ '.' :: ending

theorem separator_eq_true_iff {c : Char} : (c == '/' || c == '\\') = true ↔ IsSeparator c := by
  rw [Bool.or_eq_true, beq_iff_eq, beq_iff_eq, IsSeparator]

theorem separator_eq_false_iff {c : Char} : (c == '/' || c == '\\') = false ↔ ¬IsSeparator c := by
  rw [← separator_eq_true_iff, Bool.not_eq_true]

theorem isFileName_iff {path : List Char} : IsFileName path name ↔ fileNameOf path = name := by
  constructor
  · rintro ⟨hname, rfl | ⟨folder, c, hc, rfl⟩⟩
    · rw [fileNameOf, cutLast?_eq_none fun d hd ↦ separator_eq_false_iff.mpr (hname d hd)]
    · rw [fileNameOf, cutLast?_append folder
        (fun d hd ↦ separator_eq_false_iff.mpr (hname d hd)) (separator_eq_true_iff.mpr hc)]
  · rintro rfl
    rcases exists_last_or_none (fun c ↦ c == '/' || c == '\\') path with
      ⟨folder, c, name, rfl, hc, hname⟩ | hnone
    · rw [fileNameOf, cutLast?_append folder hname hc]
      exact ⟨fun d hd ↦ separator_eq_false_iff.mp (hname d hd),
        .inr ⟨folder, c, separator_eq_true_iff.mp hc, rfl⟩⟩
    · rw [fileNameOf, cutLast?_eq_none hnone]
      exact ⟨fun d hd ↦ separator_eq_false_iff.mp (hnone d hd), .inl rfl⟩

/-- The extension of a path is the ending of its file name behind the last dot, in lower case. -/
theorem extensionOf?_eq_some_iff {extension : String} : extensionOf? path = some extension ↔
    ∃ ending, '.' ∉ ending ∧ EndsIn (fileNameOf path.toList) ending ∧
      extension = String.ofList (ending.map asciiLower) := by
  have hdot : ∀ {cs : List Char}, '.' ∉ cs ↔ ∀ d ∈ cs, (d == '.') = false := by
    intro cs
    simp only [beq_eq_false_iff_ne, ne_eq]
    exact ⟨fun h d hd hdot ↦ h (hdot ▸ hd), fun h hmem ↦ h _ hmem rfl⟩
  rw [extensionOf?]
  generalize fileNameOf path.toList = name
  constructor
  · intro h
    rcases exists_last_or_none (· == '.') name with ⟨stem, c, ending, rfl, hc, hending⟩ | hnone
    · rw [cutLast?_append stem hending hc] at h
      obtain rfl := beq_iff_eq.mp hc
      cases stem with
      | nil => exact absurd h nofun
      | cons d stem =>
        obtain rfl := Option.some.inj h
        exact ⟨ending, hdot.mpr hending, ⟨d :: stem, List.cons_ne_nil _ _, rfl⟩, rfl⟩
    · rw [cutLast?_eq_none hnone] at h
      exact absurd h nofun
  · rintro ⟨ending, hending, ⟨stem, hstem, rfl⟩, rfl⟩
    rw [cutLast?_append stem (hdot.mp hending) (beq_self_eq_true '.')]
    dsimp only
    rw [if_neg (by rwa [List.isEmpty_iff])]

/-! ## Configured extensions -/

/-- A configured extension without the white space around it and then without leading dots. -/
def bareExtension (s : String) : List Char := (trimChars s.toList).dropWhile (· == '.')

/-- Two texts agree up to the case of the letters `A` to `Z`. -/
def SameLetters (cs ds : List Char) : Prop := cs.map asciiLower = ds.map asciiLower

instance (cs ds : List Char) : Decidable (SameLetters cs ds) := inferInstanceAs (Decidable (_ = _))

/-- Nothing is left of any configured extension. -/
def Unlimited (configured : List String) : Prop := ∀ s ∈ configured, bareExtension s = []

/-- The file name of a path ends as one of the configured extensions of which something is left. -/
def EndsAsConfigured (configured : List String) (path : String) (ending : List Char) : Prop :=
  (∃ name, IsFileName path.toList name ∧ EndsIn name ending) ∧
    ∃ s ∈ configured, bareExtension s ≠ [] ∧ SameLetters ending (bareExtension s)

theorem cleanExtension_eq (s : String) :
    cleanExtension s = String.ofList ((bareExtension s).map asciiLower) := rfl

theorem cleanExtension_eq_empty_iff {s : String} :
    cleanExtension s = "" ↔ bareExtension s = [] := by
  rw [cleanExtension_eq, ← String.toList_inj, String.toList_ofList]
  exact List.map_eq_nil_iff

theorem mem_extensions_iff {o : SessionOptions} {extension : String} :
    extension ∈ (o.withExtensions configured).extensions ↔
      ∃ s ∈ configured, bareExtension s ≠ [] ∧ cleanExtension s = extension := by
  rw [SessionOptions.withExtensions, List.mem_filter, List.mem_map, Bool.not_eq_true',
    ← Bool.not_eq_true, String.isEmpty_iff]
  constructor
  · rintro ⟨⟨s, hs, rfl⟩, hne⟩
    exact ⟨s, hs, fun h ↦ hne (cleanExtension_eq_empty_iff.mpr h), rfl⟩
  · rintro ⟨s, hs, hne, rfl⟩
    exact ⟨⟨s, hs, rfl⟩, fun h ↦ hne (cleanExtension_eq_empty_iff.mp h)⟩

theorem extensions_eq_nil_iff {o : SessionOptions} :
    (o.withExtensions configured).extensions = [] ↔ Unlimited configured := by
  simp only [List.eq_nil_iff_forall_not_mem, mem_extensions_iff]
  constructor
  · exact fun h s hs ↦ Decidable.byContradiction fun hne ↦ h _ ⟨s, hs, hne, rfl⟩
  · rintro h _ ⟨s, hs, hne, -⟩
    exact hne (h s hs)

theorem accepts_iff {o : SessionOptions} : o.accepts path = true ↔
    o.extensions = [] ∨ ∃ extension, extensionOf? path = some extension ∧
      extension ∈ o.extensions := by
  rw [SessionOptions.accepts, Bool.or_eq_true, List.isEmpty_iff]
  cases extensionOf? path with
  | none => simp only [Bool.false_eq_true, reduceCtorEq, false_and, exists_false]
  | some extension => simp only [List.contains_iff_mem, Option.some.injEq, exists_eq_left']

/-- **What the extensions admit**, for all extensions and every path. -/
theorem accepts_withExtensions_iff {o : SessionOptions} :
    (o.withExtensions configured).accepts path = true ↔
      Unlimited configured ∨ ∃ ending, '.' ∉ ending ∧ EndsAsConfigured configured path ending := by
  rw [accepts_iff, extensions_eq_nil_iff]
  refine or_congr_right ?_
  simp only [extensionOf?_eq_some_iff, mem_extensions_iff, EndsAsConfigured, isFileName_iff,
    exists_eq_left', SameLetters, cleanExtension_eq]
  constructor
  · rintro ⟨_, ⟨ending, hdot, hends, rfl⟩, s, hs, hne, hsame⟩
    exact ⟨ending, hdot, hends, s, hs, hne, (String.ofList_injective hsame).symm⟩
  · rintro ⟨ending, hdot, hends, s, hs, hne, hsame⟩
    exact ⟨_, ⟨ending, hdot, hends, rfl⟩, s, hs, hne, by rw [hsame]⟩

/-! ## The gate -/

namespace Session

variable {σ δ : Type} {S : Surface σ} {text : String} {s : Session} {surface : σ}
  {file : FileSnapshot}

/-- While no request is under way, a prompt about a file reaches the dispatcher exactly if the file
is of an accepted kind. -/
theorem handed_ne_nil_iff (D : Dispatcher δ) (dispatcher : δ) (hblank : isBlankText text = false)
    (hidle : s.inFlight = none) (hfile : (S.active surface).1 = .ok (some file)) :
    s.handed S D text surface dispatcher ≠ [] ↔ s.options.accepts file.path = true := by
  have hend := submission S D.noting text s surface (dispatcher, [])
  rw [handed]
  generalize s.submit S D.noting text surface (dispatcher, []) = r at hend
  cases hend with
  | blank hblank' => exact absurd (hblank.symm.trans hblank') Bool.false_ne_true
  | busy f _ hflight =>
    rw [hidle] at hflight
    cases hflight
  | unasked message _ _ hactive =>
    refine iff_of_false (fun hne ↦ hne rfl) fun haccepts ↦ ?_
    rw [checkActive_eq_ok_iff.mpr ⟨hfile, haccepts⟩] at hactive
    cases hactive
  | refused active _ _ _ _ d _ _ hactive _ hanswer =>
    obtain ⟨hfocus, haccepts⟩ := checkActive_eq_ok_iff.mp hactive
    obtain rfl := Option.some.inj (Except.ok.inj (hfile.symm.trans hfocus))
    obtain ⟨-, rfl⟩ := Prod.mk.inj hanswer
    exact iff_of_true (List.concat_ne_nil _ _) haccepts
  | accepted active _ _ _ d _ _ hactive _ hanswer =>
    obtain ⟨hfocus, haccepts⟩ := checkActive_eq_ok_iff.mp hactive
    obtain rfl := Option.some.inj (Except.ok.inj (hfile.symm.trans hfocus))
    obtain ⟨-, rfl⟩ := Prod.mk.inj hanswer
    exact iff_of_true (List.concat_ne_nil _ _) haccepts

/-- **The gate for kinds of files.** In every run of a session that was set up with some extensions,
a prompt about the active file reaches the dispatcher exactly if nothing is left of the extensions,
or the file name ends, behind its last dot, as one of them. -/
theorem reaches_dispatcher_iff (o : SessionOptions) (configured : List String)
    (actions : List Action) (S : Surface σ) (D : Dispatcher δ) (surface : σ) (dispatcher : δ)
    (hblank : isBlankText text = false) (hfile : (S.active surface).1 = .ok (some file)) :
    let s := ((ofOptions (o.withExtensions configured)).run actions).1
    s.isPending = false → (s.handed S D text surface dispatcher ≠ [] ↔
      Unlimited configured ∨
        ∃ ending, '.' ∉ ending ∧ EndsAsConfigured configured file.path ending) := by
  intro s hidle
  have hoptions : s.options = o.withExtensions configured := options_run _ actions
  rw [handed_ne_nil_iff D dispatcher hblank (isPending_eq_false_iff.mp hidle) hfile, hoptions,
    accepts_withExtensions_iff]

/-- A file in a folder with a dot, whose kind is spelled otherwise than it is configured, after a
prompt that could not be answered. -/
theorem reaches_dispatcher_upper_case :
    let files : MemoryFiles := { files := [("src.d/A.b.PY", "x\n")], focus := some "src.d/A.b.PY" }
    let s := ((ofOptions (({} : SessionOptions).withExtensions [" .py\t", ".."])).run
      [.submit MemoryFiles.surface .accepting "go" files (), .failure 1 "offline"]).1
    s.isPending = false ∧ isBlankText "again" = false ∧
      (MemoryFiles.surface.active files).1 = .ok (some ⟨"src.d/A.b.PY", "x\n"⟩) ∧
      s.handed MemoryFiles.surface .accepting "again" files () ≠ [] := by
  intro files s
  have hidle : s.isPending = false := by decide +kernel
  have hreaches := reaches_dispatcher_iff {} [" .py\t", ".."] _ MemoryFiles.surface .accepting files
    () (by decide : isBlankText "again" = false) rfl hidle
  refine ⟨hidle, by decide, rfl, hreaches.mpr (.inr ⟨['P', 'Y'], by decide, ?_, ?_⟩)⟩
  · exact ⟨"A.b.PY".toList, isFileName_iff.mpr (by decide), "A.b".toList, by decide, by decide⟩
  · exact ⟨" .py\t", by decide, by decide, by decide⟩

/-- A file whose name ends as configured is refused, since the ending holds a dot. -/
theorem not_reached_inner_dot :
    let files : MemoryFiles := { files := [("a.tar.gz", "x\n")], focus := some "a.tar.gz" }
    let s := ofOptions (({} : SessionOptions).withExtensions ["tar.gz"])
    s.isPending = false ∧ isBlankText "go" = false ∧
      (MemoryFiles.surface.active files).1 = .ok (some ⟨"a.tar.gz", "x\n"⟩) ∧
      ¬(s.handed MemoryFiles.surface .accepting "go" files () ≠ [] ↔
        Unlimited ["tar.gz"] ∨ ∃ ending, EndsAsConfigured ["tar.gz"] "a.tar.gz" ending) := by
  intro files s
  have hends : EndsAsConfigured ["tar.gz"] "a.tar.gz" "tar.gz".toList := by
    refine ⟨⟨"a.tar.gz".toList, isFileName_iff.mpr (by decide), ['a'], by decide, by decide⟩, ?_⟩
    exact ⟨"tar.gz", by decide, by decide, rfl⟩
  have hunasked : s.handed MemoryFiles.surface .accepting "go" files () = [] := by decide +kernel
  exact ⟨by decide, by decide, rfl, fun h ↦ h.mpr (.inr ⟨_, hends⟩) hunasked⟩

end Session

end Redline
