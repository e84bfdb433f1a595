import Redline.Proofs.Workspace.Anchor
import Redline.Proofs.Workspace.Restore

/-!
# Writing file by file

A write makes the directories that are missing above its route and puts the file where the route
then leads, or it fails with some of the directories made. When files are written one after another,
these files and new directories above them are all that differs from the tree before, and each of
the files holds what was written to it last. This is so whatever links there are.
-/

namespace Redline

open FileTree Route

namespace Workspace

variable {before tree : FileTree} {w : Workspace} {target : BatchTarget}
  {written : List BatchTarget} {path content : String} {r : Route} {place : Place}

/-! ## Writing one file -/

/-- How a write ends: it is refused, or it fails with some directories made above its route, or the
file is put where the route leads when they have been made. -/
theorem writeText_cases (w : Workspace) (path content : String) :
    (∃ e, w.writeText path content = (.error e, w)) ∨
    w.resolveWrite path = .ok (w.route path) ∧
      ((∃ e, w.writeText path content =
        (.error e, { w with tree := (w.tree.makeParents (w.route path)).2 })) ∨
      ∃ tree place, w.tree.makeParents (w.route path) = (.ok (), tree) ∧
        tree.locate (w.route path) = .ok place ∧ place.IsBare ∧ w.writeText path content =
          (.ok (), { w with tree := tree.set place.path (.file (.text content)) })) := by
  rw [writeText]
  cases hresolve : w.resolveWrite path with
  | error e => exact Or.inl ⟨e, rfl⟩
  | ok route =>
    obtain ⟨rfl, -⟩ := of_resolveWrite hresolve
    refine Or.inr ⟨rfl, ?_⟩
    dsimp only
    cases w.tree.makeParents (w.route path) with
    | mk result tree =>
      cases result with
      | error fault => exact Or.inl ⟨.io .createDirectories path fault, rfl⟩
      | ok =>
        cases hwrite : tree.writeFile (w.route path) (.text content) with
        | error fault => exact Or.inl ⟨.io .write path fault, by simp only [hwrite]⟩
        | ok tree' =>
          obtain ⟨place, hlocate, hbare, rfl⟩ := writeFile_iff.mp hwrite
          exact Or.inr ⟨tree, place, rfl, hlocate, hbare, by simp only [hwrite]⟩

theorem writeText_spec (w : Workspace) (path content : String) (hwf : w.tree.WellFormed) :
    (∃ e tree, w.tree.Makes (above (w.route path)) tree ∧
      w.writeText path content = (.error e, { w with tree })) ∨
    ∃ tree place, w.tree.WritesTo (w.route path) tree place ∧
      w.writeText path content =
        (.ok (), { w with tree := tree.set place.path (.file (.text content)) }) := by
  have hmakes := makes_makeParents hwf (w.route path)
  rcases w.writeText_cases path content with ⟨e, hwrite⟩ |
    ⟨hresolve, ⟨e, hwrite⟩ | ⟨tree, place, hparents, hlocate, hbare, hwrite⟩⟩
  · exact Or.inl ⟨e, w.tree, Makes.refl hwf, hwrite⟩
  · exact Or.inl ⟨e, _, hmakes, hwrite⟩
  · rw [hparents] at hmakes
    have hup := (of_resolveWrite hresolve).2.not_up
    exact Or.inr ⟨tree, place, ⟨hup, hmakes, hlocate, hbare⟩, hwrite⟩

/-! ## Progress -/

/-- The targets `written`, of which the last stands first, have been written and nothing else. -/
structure Progress (before : FileTree) (written : List BatchTarget) (tree : FileTree) : Prop where
  grown : before.Grown tree
  /-- There is a file along each route. -/
  located : ∀ t ∈ written, ∃ p content, tree.locate t.route = .ok (.file p content false)
  /-- The last target along routes that lead to the same file gives its content. -/
  latest : ∀ later t earlier, written = later ++ t :: earlier →
    (∀ u ∈ later, tree.realPath u.route ≠ tree.realPath t.route) →
      ∃ p, tree.locate t.route = .ok (.file p (.text t.edit.content) false)
  /-- Nothing else has changed, except that directories above the files have been made. -/
  unchanged : ∀ p, tree.node? p = before.node? p ∨
    (∃ t ∈ written, tree.realPath t.route = .ok p) ∨
    (before.node? p = none ∧ tree.node? p = some .directory ∧
      ∃ t ∈ written, ∃ q, tree.realPath t.route = .ok q ∧ p <+: q ∧ p ≠ q)

theorem Progress.nil (h : before.WellFormed) : Progress before [] before := by
  refine ⟨Grown.refl h, nofun, fun later t earlier heq ↦ ?_, fun _ ↦ Or.inl rfl⟩
  exact absurd (congrArg List.length heq) (by simp)

namespace Progress

variable {middle : FileTree}

theorem located_of_keeps {result : FileTree} (h : Progress before written tree)
    (hkeeps : tree.Keeps result) (ht : target ∈ written) :
    ∃ p content, result.locate target.route = .ok (.file p content false) ∧
      result.realPath target.route = tree.realPath target.route := by
  obtain ⟨p, content, hfile⟩ := h.located target ht
  obtain ⟨content', hother⟩ := hkeeps.locate_file hfile
  exact ⟨p, content', hother,
    (realPath_of_locate_file hother).trans (realPath_of_locate_file hfile).symm⟩

theorem latest_of_write {later earlier : List BatchTarget} {last : BatchTarget}
    (h : Progress before (later ++ last :: earlier) tree)
    (hwrites : tree.WritesTo target.route middle place)
    (hlater : ∀ u ∈ target :: later,
      (middle.set place.path (.file (.text content))).realPath u.route ≠
        (middle.set place.path (.file (.text content))).realPath last.route) :
    ∃ p, (middle.set place.path (.file (.text content))).locate last.route =
      .ok (.file p (.text last.edit.content) false) := by
  have hgrown : tree.Grown (middle.set place.path (.file (.text content))) := hwrites.grown
  have hset : (middle.set place.path (.file (.text content))).locate target.route =
      .ok (.file place.path (.text content) false) := hwrites.locate_set
  have hlast : last ∈ later ++ last :: earlier := List.mem_append_right _ List.mem_cons_self
  obtain ⟨-, -, -, hpath⟩ := h.located_of_keeps hgrown.keeps hlast
  obtain ⟨p, hfile⟩ := h.latest later last earlier rfl fun u hu ↦ by
    obtain ⟨-, -, -, hpathu⟩ := h.located_of_keeps hgrown.keeps (List.mem_append_left _ hu)
    rw [← hpathu, ← hpath]
    exact hlater u (List.mem_cons_of_mem _ hu)
  -- The new file is another one, or its target would be a later one for the same file.
  have hne : p ≠ place.path := by
    rintro rfl
    refine hlater target List.mem_cons_self ?_
    rw [hpath, realPath_of_locate_file hset, realPath_of_locate_file hfile]
  have hnode : tree.node? p = some (.file (.text last.edit.content)) :=
    h.grown.wellFormed.locate_stands hfile
  exact ⟨p, hgrown.keeps.locate_eq_file hgrown.wellFormed hfile (hwrites.old hne hnode)⟩

/-- What was unchanged still is, unless it is the file that is written or a directory above it. -/
theorem unchanged_of_write (h : Progress before written tree)
    (hwrites : tree.WritesTo target.route middle place) (p : TreePath) (hne : p ≠ place.path) :
    let result := middle.set place.path (.file (.text content))
    result.node? p = before.node? p ∨ (∃ t ∈ written, result.realPath t.route = .ok p) ∨
      (before.node? p = none ∧ result.node? p = some .directory ∧
        ((∃ t ∈ written, ∃ q, result.realPath t.route = .ok q ∧ p <+: q ∧ p ≠ q) ∨
          p <+: place.path)) := by
  intro result
  have hgrown : tree.Grown result := hwrites.grown
  cases hnode : tree.node? p with
  | some n =>
    have hsame : result.node? p = tree.node? p := by rw [hwrites.old hne hnode, hnode]
    rw [hsame]
    refine (h.unchanged p).imp_right (Or.imp ?_ ?_)
    · rintro ⟨t, ht, hpath⟩
      obtain ⟨-, -, -, hsamePath⟩ := h.located_of_keeps hgrown.keeps ht
      exact ⟨t, ht, hsamePath.trans hpath⟩
    · rintro ⟨hnone, hdirectory, t, ht, q, hpath, hpq⟩
      obtain ⟨-, -, -, hsamePath⟩ := h.located_of_keeps hgrown.keeps ht
      exact ⟨hnone, hdirectory, Or.inl ⟨t, ht, q, hsamePath.trans hpath, hpq⟩⟩
  | none =>
    have hnone := h.grown.node?_eq_none hnode
    rcases hwrites.new h.grown.wellFormed hne hnode with hmissing | ⟨hdirectory, hpre⟩
    · exact Or.inl (hmissing.trans hnone.symm)
    · exact Or.inr (Or.inr ⟨hnone, hdirectory, Or.inr hpre⟩)

/-- **A write goes on with the files written so far.** -/
theorem write (h : Progress before written tree)
    (hwrites : tree.WritesTo target.route middle place) :
    Progress before (target :: written)
      (middle.set place.path (.file (.text target.edit.content))) := by
  have hgrown : tree.Grown (middle.set place.path (.file (.text target.edit.content))) :=
    hwrites.grown
  have hset : (middle.set place.path (.file (.text target.edit.content))).locate target.route =
      .ok (.file place.path (.text target.edit.content) false) := hwrites.locate_set
  have hpath := realPath_of_locate_file hset
  refine ⟨h.grown.comp hgrown, fun t ht ↦ ?_, fun later t earlier heq hlater ↦ ?_, fun p ↦ ?_⟩
  · rcases List.mem_cons.mp ht with rfl | ht
    · exact ⟨_, _, hset⟩
    · obtain ⟨p, content, hother, -⟩ := h.located_of_keeps hgrown.keeps ht
      exact ⟨p, content, hother⟩
  · cases later with
    | nil =>
      obtain ⟨rfl, -⟩ := List.cons.inj heq
      exact ⟨_, hset⟩
    | cons u later =>
      obtain ⟨rfl, rfl⟩ := List.cons.inj heq
      exact h.latest_of_write hwrites hlater
  · by_cases hne : p = place.path
    · exact Or.inr (Or.inl ⟨target, List.mem_cons_self, by rw [hpath, hne]⟩)
    · refine (h.unchanged_of_write hwrites p hne).imp_right (Or.imp ?_ ?_)
      · rintro ⟨t, ht, hsame⟩
        exact ⟨t, List.mem_cons_of_mem _ ht, hsame⟩
      · rintro ⟨hnone, hdirectory, ⟨t, ht, hbelow⟩ | hpre⟩
        · exact ⟨hnone, hdirectory, t, List.mem_cons_of_mem _ ht, hbelow⟩
        · exact ⟨hnone, hdirectory, target, List.mem_cons_self, _, hpath, hpre, hne⟩

end Progress

namespace Restorable

theorem makes {result : FileTree} (h : Restorable before written tree) (hwf : before.WellFormed)
    (hclear : before.Clear target.route) (hmakes : tree.Makes (above target.route) result) :
    Restorable before (target :: written) result := by
  have hmono : Restorable before (target :: written) tree :=
    Touched.mono h (List.subset_cons_self _ _) (List.subset_append_right _ _)
  exact Touched.makes hmono hwf hmakes fun m hm ↦
    ⟨hclear.above hm, (of_mem_above hm).1, List.mem_append_left _ hm⟩

theorem write {middle : FileTree} (h : Restorable before written tree) (hwf : before.WellFormed)
    (hclear : before.Clear target.route) (hwrites : tree.WritesTo target.route middle place) :
    Restorable before (target :: written) (middle.set place.path (.file (.text content))) :=
  (h.makes hwf hclear hwrites.makes).set_place hwf hclear List.mem_cons_self hwrites.locate
    hwrites.bare

end Restorable

end Workspace

end Redline
