import Redline.Proofs.FileTree.Change

/-!
# What has been touched

When several files are written into a tree, and later some of them are put back, it has to be known
at any time what may differ from the tree before: contents of files that have been written, new
files, and new directories above them. All of these stand where routes led in the tree before, and
that a route is not among the ones in question means that nothing is left of what was made along it.

A directory that cannot be removed holds something. This is new as well, and what is above it is one
of the routes that remain. So the directories that are left always belong to what remains.
-/

namespace Redline.FileTree

open Route

variable {before after result : FileTree} {files directories : List Route} {m r : Route}
  {p : TreePath} {place : Place} {content : Content}

/-! ## New directories -/

/-- Directories that are made above a clear route do not make it lead to a directory. -/
theorem Clear.isDirectory_above (hclear : before.Clear r) (hwf : before.WellFormed)
    (hgrown : before.Grown after) (hmakes : after.Makes (Route.above r) result)
    (hr : result.isDirectory r = true) : after.isDirectory r = true := by
  obtain ⟨p, hp⟩ := isDirectory_iff.mp hr
  have hlater := hgrown.comp hmakes.grown
  cases hexists : before.doesExist r with
  | true =>
    rcases doesExist_iff.mp hexists with ⟨q, hq⟩ | ⟨q, content, hq⟩
    · exact isDirectory_iff.mpr ⟨q, hgrown.keeps.locate_directory hq⟩
    · obtain ⟨content', hother⟩ := hlater.keeps.locate_file hq
      exact absurd (hp.symm.trans hother) nofun
  | false =>
    obtain ⟨hlead, -⟩ := hclear.leads_of_locate hwf hlater hexists hp (Or.inr ⟨p, rfl⟩)
    have hstands : result.node? p = some .directory := hlater.wellFormed.locate_stands hp
    cases hnode : after.node? p with
    | some n =>
      have hn := hmakes.old p n hnode
      rw [hstands] at hn
      obtain rfl := Option.some.inj hn
      obtain ⟨ys, hsplit, hys⟩ := exists_trimmed_append r
      refine isDirectory_iff.mpr ⟨p, ?_⟩
      rw [locate_of_fits (fits_of_locate hp), hsplit, walk_append_idles hys]
      exact hlead.walk hgrown hnode
    | none =>
      -- A new directory stands where a route above leads, which is not where this route leads.
      have hnone := hgrown.node?_eq_none hnode
      rcases hmakes.new p hnode with hmissing | ⟨-, m, hm, hlocate⟩
      · exact absurd (hmissing.symm.trans hstands) nofun
      · have hmlead := (hclear.above hm).leads_of_directory hwf hlater (of_mem_above hm).1
          hlocate hnone
        rw [← above_trimmed] at hm
        exact absurd rfl (hlead.above_lt hwf hm hmlead hnone).2

/-! ## Files and directories -/

/-- The tree `after` differs from `before` in files along some routes and in new directories along
others. -/
structure Touched (before : FileTree) (files directories : List Route) (after : FileTree) :
    Prop where
  grown : before.Grown after
  /-- What was there is unchanged unless it is a file to which one of the routes led. -/
  old : ∀ p, before.node? p ≠ none → after.node? p = before.node? p ∨
    ∃ r ∈ files, ∃ content, before.locate r = .ok (.file p content false)
  /-- A new file stands where one of the routes led. -/
  file : ∀ p content, before.node? p = none → after.node? p = some (.file content) →
    ∃ r ∈ files, r.Fits ∧ before.Leads r p
  /-- A new directory stands where one of the routes led. -/
  directory : ∀ p, before.node? p = none → after.node? p = some .directory →
    ∃ m ∈ directories, m.Fits ∧ before.Leads m p

namespace Touched

theorem refl (h : before.WellFormed) : before.Touched [] [] before := by
  refine ⟨Grown.refl h, fun _ _ ↦ Or.inl rfl, fun p content hp hfile ↦ ?_, fun p hp hdirectory ↦ ?_⟩
  · exact absurd (hp.symm.trans hfile) nofun
  · exact absurd (hp.symm.trans hdirectory) nofun

theorem mono {files' directories' : List Route} (h : before.Touched files directories after)
    (hfiles : files ⊆ files') (hdirectories : directories ⊆ directories') :
    before.Touched files' directories' after where
  grown := h.grown
  old p hp := by
    rcases h.old p hp with hsame | ⟨r, hr, hfile⟩
    · exact Or.inl hsame
    · exact Or.inr ⟨r, hfiles hr, hfile⟩
  file p content hp hfile := by
    obtain ⟨r, hr, hlead⟩ := h.file p content hp hfile
    exact ⟨r, hfiles hr, hlead⟩
  directory p hp hdirectory := by
    obtain ⟨m, hm, hlead⟩ := h.directory p hp hdirectory
    exact ⟨m, hdirectories hm, hlead⟩

theorem node?_eq (h : before.Touched [] [] after) (p : TreePath) :
    after.node? p = before.node? p := by
  cases hbefore : before.node? p with
  | some n =>
    rcases h.old p (by rw [hbefore]; exact nofun) with hsame | ⟨r, hr, -⟩
    · rw [hsame, hbefore]
    · exact absurd hr List.not_mem_nil
  | none =>
    cases hafter : after.node? p with
    | none => rfl
    | some n =>
      cases n with
      | directory =>
        obtain ⟨m, hm, -⟩ := h.directory p hbefore hafter
        exact absurd hm List.not_mem_nil
      | file content =>
        obtain ⟨r, hr, -⟩ := h.file p content hbefore hafter
        exact absurd hr List.not_mem_nil
      | link target => exact absurd (hbefore.symm.trans (h.grown.link p target hafter)) nofun

/-! ## Writing -/

/-- Directories made along clear routes are all that is touched besides. -/
theorem makes {chain : List Route} (h : before.Touched files directories after)
    (hwf : before.WellFormed) (hmakes : after.Makes chain result)
    (hchain : ∀ m ∈ chain, before.Clear m ∧ Clean m ∧ m ∈ directories) :
    before.Touched files directories result where
  grown := h.grown.comp hmakes.grown
  old p hp := by
    obtain ⟨n, hn⟩ := Option.ne_none_iff_exists'.mp fun hnone ↦ hp (h.grown.node?_eq_none hnone)
    rw [hmakes.old p n hn, ← hn]
    exact h.old p hp
  file p content hp hfile := by
    cases hafter : after.node? p with
    | none =>
      rcases hmakes.new p hafter with hnone | ⟨hdirectory, -⟩
      · exact absurd (hnone.symm.trans hfile) nofun
      · exact absurd (hdirectory.symm.trans hfile) nofun
    | some n =>
      obtain rfl := Option.some.inj ((hmakes.old p n hafter).symm.trans hfile)
      exact h.file p content hp hafter
  directory p hp hdirectory := by
    cases hafter : after.node? p with
    | none =>
      rcases hmakes.new p hafter with hnone | ⟨-, m, hm, hlocate⟩
      · exact absurd (hnone.symm.trans hdirectory) nofun
      · obtain ⟨hclear, hclean, hmem⟩ := hchain m hm
        exact ⟨m, hmem, fits_of_locate hlocate,
          hclear.leads_of_directory hwf (h.grown.comp hmakes.grown) hclean hlocate hp⟩
    | some n =>
      obtain rfl := Option.some.inj ((hmakes.old p n hafter).symm.trans hdirectory)
      exact h.directory p hp hafter

theorem set_place (h : before.Touched files directories after) (hwf : before.WellFormed)
    (hclear : before.Clear r) (hr : r ∈ files) (hlocate : after.locate r = .ok place)
    (hbare : place.IsBare) :
    before.Touched files directories (after.set place.path (.file content)) := by
  have hs := h.grown.wellFormed.locate_stands hlocate
  have hset : ∀ q, (after.set place.path (.file content)).node? q =
      if q = place.path then some (.file content) else after.node? q :=
    fun q ↦ node?_set (path_ne_nil (walk_of_locate hlocate) hbare)
  have hcases := hclear.cases_of_locate hwf h.grown hlocate hbare
  refine ⟨h.grown.set_place hs hbare, fun q hq ↦ ?_, fun q content' hq hfile ↦ ?_,
    fun q hq hdirectory ↦ ?_⟩
  · rw [hset]
    by_cases heq : q = place.path
    · subst heq
      rcases hcases with ⟨content', hfile⟩ | ⟨-, hnone⟩
      · exact Or.inr ⟨r, hr, content', hfile⟩
      · exact absurd hnone hq
    · rw [if_neg heq]
      exact h.old q hq
  · rw [hset] at hfile
    by_cases heq : q = place.path
    · subst heq
      rcases hcases with ⟨content', hlocated⟩ | ⟨hlead, -⟩
      · have hstands : before.node? place.path = some (.file content') :=
          hwf.locate_stands hlocated
        exact absurd (hq.symm.trans hstands) nofun
      · exact ⟨r, hr, fits_of_locate hlocate, hlead⟩
    · rw [if_neg heq] at hfile
      exact h.file q content' hq hfile
  · rw [hset] at hdirectory
    by_cases heq : q = place.path
    · rw [if_pos heq] at hdirectory
      exact absurd hdirectory nofun
    · rw [if_neg heq] at hdirectory
      exact h.directory q hq hdirectory

/-! ## Putting back -/

theorem drop_file (h : before.Touched (r :: files) directories after) (hwf : before.WellFormed)
    (hnot : ∀ p content, after.locate r ≠ .ok (.file p content false)) :
    before.Touched files directories after where
  grown := h.grown
  old p hp := by
    rcases h.old p hp with hsame | ⟨s, hs, content, hfile⟩
    · exact Or.inl hsame
    · rcases List.mem_cons.mp hs with rfl | hs
      · obtain ⟨content', hother⟩ := h.grown.keeps.locate_file hfile
        exact absurd hother (hnot p content')
      · exact Or.inr ⟨s, hs, content, hfile⟩
  file p content hp hfile := by
    obtain ⟨s, hs, hfits, hlead⟩ := h.file p content hp hfile
    rcases List.mem_cons.mp hs with rfl | hs
    · exact absurd (hlead.locate_of_file hwf h.grown hp hfile hfits) (hnot p content)
    · exact ⟨s, hs, hfits, hlead⟩
  directory := h.directory

theorem put_back (h : before.Touched (r :: files) directories after) (hwf : before.WellFormed)
    (hlocate : before.locate r = .ok (.file p content false)) :
    before.Touched files directories (after.set p (.file content)) := by
  have hstands : before.node? p = some (.file content) := hwf.locate_stands hlocate
  -- A file that was there is one still, whatever it holds by now.
  obtain ⟨content', hfile⟩ := h.grown.keeps.file p content hstands
  have hset : ∀ q, (after.set p (.file content)).node? q =
      if q = p then some (.file content) else after.node? q := by
    refine fun q ↦ node?_set ?_
    rintro rfl
    exact absurd hstands nofun
  refine ⟨h.grown.set_of_file hfile, fun q hq ↦ ?_, fun q content' hq hnew ↦ ?_, fun q hq hnew ↦ ?_⟩
  · rw [hset]
    by_cases heq : q = p
    · subst heq
      exact Or.inl (by rw [if_pos rfl, hstands])
    · rw [if_neg heq]
      rcases h.old q hq with hsame | ⟨s, hs, content', hother⟩
      · exact Or.inl hsame
      · rcases List.mem_cons.mp hs with rfl | hs
        · rw [hlocate] at hother
          exact absurd (Place.file.inj (Except.ok.inj hother)).1.symm heq
        · exact Or.inr ⟨s, hs, content', hother⟩
  · have heq : q ≠ p := by
      rintro rfl
      exact absurd (hq.symm.trans hstands) nofun
    rw [hset, if_neg heq] at hnew
    obtain ⟨s, hs, hfits, hlead⟩ := h.file q content' hq hnew
    rcases List.mem_cons.mp hs with rfl | hs
    -- A route that led to a file led to no missing place.
    · have habsent := hlead.doesExist_eq_false hwf hq
      rw [doesExist_iff.mpr (Or.inr ⟨p, content, hlocate⟩)] at habsent
      exact absurd habsent nofun
    · exact ⟨s, hs, hfits, hlead⟩
  · have heq : q ≠ p := by
      rintro rfl
      exact absurd (hq.symm.trans hstands) nofun
    rw [hset, if_neg heq] at hnew
    exact h.directory q hq hnew

theorem erase (h : before.Touched files directories after) (hnone : before.node? p = none)
    (hleaf : after.isLeaf p = true) : before.Touched files directories (after.erase p) := by
  have herase : ∀ q, (after.erase p).node? q = if q = p then none else after.node? q := by
    refine fun q ↦ node?_erase ?_
    rintro rfl
    exact absurd hnone nofun
  refine ⟨h.grown.erase hnone hleaf, fun q hq ↦ ?_, fun q content hq hnew ↦ ?_, fun q hq hnew ↦ ?_⟩
  · rw [herase, if_neg]
    · exact h.old q hq
    · rintro rfl
      exact hq hnone
  · rw [herase] at hnew
    split at hnew
    next => exact absurd hnew nofun
    next => exact h.file q content hq hnew
  · rw [herase] at hnew
    split at hnew
    next => exact absurd hnew nofun
    next => exact h.directory q hq hnew

theorem drop_directories {more : List Route} (h : before.Touched files (more ++ directories) after)
    (hwf : before.WellFormed) (hmore : ∀ m ∈ more, before.doesExist m = true) :
    before.Touched files directories after where
  grown := h.grown
  old := h.old
  file := h.file
  directory p hp hnew := by
    obtain ⟨m, hm, hfits, hlead⟩ := h.directory p hp hnew
    rcases List.mem_append.mp hm with hm | hm
    · have habsent := hlead.doesExist_eq_false hwf hp
      rw [hmore m hm] at habsent
      exact absurd habsent nofun
    · exact ⟨m, hm, hfits, hlead⟩

/-- When a new directory has been removed, none is left of its route. -/
theorem drop_removed (h : before.Touched files (m :: directories) after) (hwf : before.WellFormed)
    (hclear : before.Clear m) (hclean : Clean m) (habsent : before.doesExist m = false)
    (hremove : after.removeDirectory m = .ok result) :
    before.Touched files directories result := by
  obtain ⟨p, hentry, -, hleaf, rfl⟩ := removeDirectory_iff.mp hremove
  have hnone : before.node? p = none := by
    refine hclear.node?_of_entryOf hwf h.grown hentry ?_
    rwa [hclean.trimmed_eq]
  have herase := h.erase hnone hleaf
  refine ⟨herase.grown, herase.old, herase.file, fun q hq hnew ↦ ?_⟩
  obtain ⟨s, hs, hfits, hlead⟩ := herase.directory q hq hnew
  rcases List.mem_cons.mp hs with rfl | hs
  · -- The directory at the end of this very route is the one that is gone.
    have hlast := hclear.leads_of_entryOf hwf h.grown hentry hnone
    rw [hclean.trimmed_eq] at hlast
    obtain rfl := hlast.unique hlead hwf
    have hne : q ≠ [] := by
      rintro rfl
      exact absurd hnone nofun
    rw [node?_erase hne, if_pos rfl] at hnew
    exact absurd hnew nofun
  · exact ⟨s, hs, hfits, hlead⟩

/-- When a new directory cannot be removed, it belongs to a route that remains. -/
theorem drop_kept (h : before.Touched files (m :: directories) after) (hwf : before.WellFormed)
    (hfiles : ∀ r ∈ files, above r ⊆ directories)
    (hdirectories : ∀ s ∈ directories, above s ⊆ directories)
    (hkept : ∀ tree, after.removeDirectory m ≠ .ok tree) :
    before.Touched files directories after := by
  refine ⟨h.grown, h.old, h.file, fun p hp hnew ↦ ?_⟩
  obtain ⟨s, hs, hfits, hlead⟩ := h.directory p hp hnew
  rcases List.mem_cons.mp hs with rfl | hs
  · have hentry : after.entryOf .invalid s = .ok p := hlead.entryOf hwf h.grown hp hnew hfits
    have hleaf : ¬∀ name, after.node? (p ++ [name]) = none := by
      rw [← isLeaf_iff]
      exact fun hleaf ↦ hkept _ (removeDirectory_iff.mpr ⟨p, hentry, hnew, hleaf, rfl⟩)
    obtain ⟨name, hchild⟩ := Classical.not_forall.mp hleaf
    obtain ⟨n, hn⟩ := Option.ne_none_iff_exists'.mp hchild
    have hnone : before.node? (p ++ [name]) = none :=
      hwf.child_eq_none (by rw [hp]; exact nofun)
    -- What stands in the directory is new, so it belongs to a route below one of those that remain.
    cases n with
    | link target => exact absurd (hnone.symm.trans (h.grown.link _ target hn)) nofun
    | file content =>
      obtain ⟨r, hr, hrfits, hrlead⟩ := h.file _ content hnone hn
      obtain ⟨t, ht, htlead⟩ := hrlead.exists_above hwf hnone
      exact ⟨t, hfiles r hr ht, hrfits.above ht, htlead⟩
    | directory =>
      obtain ⟨r, hr, hrfits, hrlead⟩ := h.directory _ hnone hn
      obtain ⟨t, ht, htlead⟩ := hrlead.exists_above hwf hnone
      rcases List.mem_cons.mp hr with rfl | hr
      · have heq := hrlead.unique hlead hwf
        exact absurd (congrArg List.length heq) (by simp)
      · exact ⟨t, hdirectories r hr ht, hrfits.above ht, htlead⟩
  · exact ⟨s, hs, hfits, hlead⟩

end Touched

end Redline.FileTree
