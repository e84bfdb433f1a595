import Redline.Proofs.FileTree.Lacking
import Redline.Proofs.Workspace.Progress

/-!
# Replacing a single file, or nothing

A file is replaced in three steps, each of which can fail: its path is checked, the directories
above it that are missing are made, and the file is written. What was made is not removed when a
later step fails, unlike in a batch. So a replacement that fails leaves the tree as it was only if
no directory was made on the way.

One kind of path passes the check although no file can have it: the check looks at what is there,
and nothing is there yet that would be in the way.
-/

namespace Redline

open FileTree Route

/-! ## What is promised -/

/-- Along a route a file has been replaced, which is now at a place, and nothing else has changed
but that the directories above it that were missing have been made. -/
structure FileTree.Replaced (before : FileTree) (route : Route) (content : String)
    (after : FileTree) (place : TreePath) : Prop where
  /-- The route leads to the file, which has the content. -/
  located : after.locate route = .ok (.file place (.text content) false)
  /-- The file is where the route led before, if it led anywhere. -/
  same : ∀ old, before.locate route = .ok old → old.path = place
  /-- Everywhere else there is what was there before, or a new directory above the file. -/
  others : ∀ p ≠ place, after.node? p = before.node? p ∨
    before.node? p = none ∧ after.node? p = some .directory ∧ p <+: place

namespace Workspace

variable {w : Workspace} {path content : String} {r : Route} {tree : FileTree} {place : Place}
  {e : WorkspaceError}

/-- **What is promised of a replacement**: the file is replaced, or nothing in the tree has changed.
-/
def ReplacedOrKept (w : Workspace) (path content : String)
    (outcome : Except SurfaceError Unit × Workspace) : Prop :=
  outcome.2 = { w with tree := outcome.2.tree } ∧
    match outcome.1 with
    | .ok () => ∃ place, w.tree.Replaced (w.route path) content outcome.2.tree place
    | .error _ => ∀ p, outcome.2.tree.node? p = w.tree.node? p

/-- A path that is accepted, although no file can have it, while a directory is lacking above it. -/
def Litters (w : Workspace) (path : String) : Prop :=
  ∃ route, w.resolveWrite path = .ok route ∧ w.tree.Lacks route ∧ ¬route.Nameable

/-! ## When a file is written -/

theorem replaced_of_writesTo (hwf : w.tree.WellFormed) (h : w.tree.WritesTo r tree place)
    (hmade : tree = (w.tree.makeParents r).2) (content : String) :
    w.tree.Replaced r content (tree.set place.path (.file (.text content))) place.path where
  located := h.locate_set
  same old hold := by
    rw [makeParents_of_locate hold] at hmade
    subst hmade
    exact congrArg Place.path (Except.ok.inj (hold.symm.trans h.locate))
  others p hne := by
    cases hp : w.tree.node? p with
    | none =>
      rcases h.new hwf hne hp with hnone | hnew
      · exact .inl hnone
      · exact .inr ⟨rfl, hnew⟩
    | some n => exact .inl (h.old hne hp)

/-- A file is written along a route that a file may have if a directory is lacking above it. -/
theorem writeText_of_lacks (hwf : w.tree.WellFormed) (hresolve : w.resolveWrite path = .ok r)
    (hlacks : w.tree.Lacks r) (hr : r.Nameable) (content : String) :
    (w.writeText path content).1 = .ok () := by
  obtain ⟨-, hadmits⟩ := of_resolveWrite hresolve
  obtain ⟨hok, place, hlocate, hbare⟩ := hlacks.locate hwf hadmits.not_up hr
  simp only [writeText, hresolve]
  generalize w.tree.makeParents r = made at hok hlocate ⊢
  obtain ⟨answer, tree⟩ := made
  obtain rfl : answer = .ok () := hok
  have hwrite : tree.writeFile r (.text content) = .ok _ :=
    writeFile_iff.mpr ⟨place, hlocate, hbare, rfl⟩
  simp only [hwrite]

theorem writeText_of_not_nameable (hresolve : w.resolveWrite path = .ok r) (hr : ¬r.Nameable)
    (content : String) : ∃ e, w.writeText path content =
      (.error e, { w with tree := (w.tree.makeParents r).2 }) := by
  obtain ⟨-, hadmits⟩ := of_resolveWrite hresolve
  simp only [writeText, hresolve]
  generalize w.tree.makeParents r = made
  obtain ⟨fault | ⟨⟩, tree⟩ := made
  · exact ⟨_, rfl⟩
  · cases hwrite : tree.writeFile r (.text content) with
    | error fault =>
      simp only [hwrite]
      exact ⟨_, rfl⟩
    | ok result =>
      obtain ⟨place, hlocate, hbare, -⟩ := writeFile_iff.mp hwrite
      exact absurd (nameable_of_locate hadmits.not_up hlocate hbare) hr

theorem replaceFile_of_error {w' : Workspace} (h : w.writeText path content = (.error e, w')) :
    w.replaceFile path content = (.error (e.toSurfaceError path), w') := by
  rw [replaceFile, h]

theorem replaceFile_of_ok {w' : Workspace} (h : w.writeText path content = (.ok (), w')) :
    w.replaceFile path content = (.ok (), w') := by
  rw [replaceFile, h]

/-! ## The promise -/

/-- **A replacement keeps its promise unless its path litters.** -/
theorem replacedOrKept_replaceFile_iff (hwf : w.tree.WellFormed) (path content : String) :
    w.ReplacedOrKept path content (w.replaceFile path content) ↔ ¬w.Litters path := by
  constructor
  · rintro ⟨-, hkept⟩ ⟨route, hresolve, hlacks, hnot⟩
    obtain ⟨e, hwrite⟩ := writeText_of_not_nameable hresolve hnot content
    obtain ⟨p, hnone, hnew⟩ := hlacks.exists_new
    rw [replaceFile_of_error hwrite] at hkept
    exact hnew ((hkept p).trans hnone)
  · intro hclean
    rcases w.writeText_cases path content with ⟨e, hwrite⟩ |
      ⟨hresolve, ⟨e, hwrite⟩ | ⟨tree, place, hparents, hlocate, hbare, hwrite⟩⟩
    · rw [replaceFile_of_error hwrite]
      exact ⟨rfl, fun _ ↦ rfl⟩
    · have hnothing : ¬w.tree.Lacks (w.route path) := by
        intro hlacks
        have hr : (w.route path).Nameable := by
          by_contra hnot
          exact hclean ⟨_, hresolve, hlacks, hnot⟩
        have hok := writeText_of_lacks hwf hresolve hlacks hr content
        rw [hwrite] at hok
        exact absurd hok nofun
      rw [replaceFile_of_error hwrite, makeParents_of_not_lacks hnothing]
      exact ⟨rfl, fun _ ↦ rfl⟩
    · have hmakes := makes_makeParents hwf (w.route path)
      rw [hparents] at hmakes
      have hwrites : w.tree.WritesTo (w.route path) tree place :=
        ⟨(of_resolveWrite hresolve).2.not_up, hmakes, hlocate, hbare⟩
      have hmade : tree = (w.tree.makeParents (w.route path)).2 := by rw [hparents]
      rw [replaceFile_of_ok hwrite]
      exact ⟨rfl, _, replaced_of_writesTo hwf hwrites hmade content⟩

/-- Directories are made for a new file, and nothing is made below a file. -/
theorem replacedOrKept_replaceFile_below :
    let w : Workspace := {
      tree := ⟨[(["ws"], .directory), (["ws", "a"], .file (.text "0"))]⟩
      root := ["ws"] }
    w.tree.WellFormed ∧
    ((w.replaceFile "d/e/x" "1").1 = .ok () ∧
      w.ReplacedOrKept "d/e/x" "1" (w.replaceFile "d/e/x" "1")) ∧
    ((w.replaceFile "a/x" "1").1.isOk = false ∧
      w.ReplacedOrKept "a/x" "1" (w.replaceFile "a/x" "1")) := by
  intro w
  have hwf : w.tree.WellFormed := by decide +kernel
  have hclean : ∀ {path : String}, (w.route path).Nameable → ¬w.Litters path := by
    rintro path hr ⟨route, hresolve, -, hnot⟩
    exact hnot ((of_resolveWrite hresolve).1 ▸ hr)
  refine ⟨hwf, ⟨?_, (replacedOrKept_replaceFile_iff hwf "d/e/x" "1").mpr (hclean ?_)⟩, ?_,
    (replacedOrKept_replaceFile_iff hwf "a/x" "1").mpr (hclean ?_)⟩
  · decide +kernel
  · exact ⟨⟨by decide +kernel, by decide +kernel⟩, by decide +kernel, "x", by decide +kernel⟩
  · decide +kernel
  · exact ⟨⟨by decide +kernel, by decide +kernel⟩, by decide +kernel, "x", by decide +kernel⟩

/-- **The promise is broken** by a path that ends with a slash: the replacement fails, and the
directory that was made for it is left behind. -/
theorem not_replacedOrKept_slash :
    let w : Workspace := { tree := ⟨[(["ws"], .directory)]⟩, root := ["ws"] }
    ¬w.ReplacedOrKept "d/x/" "1" (w.replaceFile "d/x/" "1") := by
  rintro w ⟨-, hkept⟩
  have hfails : (w.replaceFile "d/x/" "1").1.isOk = false := by decide +kernel
  have hleft : (w.replaceFile "d/x/" "1").2.tree.node? ["ws", "d"] = some .directory := by
    decide +kernel
  have hnone : w.tree.node? ["ws", "d"] = none := by decide +kernel
  cases hanswer : (w.replaceFile "d/x/" "1").1 with
  | ok =>
    rw [hanswer] at hfails
    exact absurd hfails nofun
  | error e =>
    rw [hanswer] at hkept
    exact absurd (hleft.symm.trans ((hkept _).trans hnone)) nofun

end Workspace

end Redline
