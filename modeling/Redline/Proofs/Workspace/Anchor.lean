import Redline.Proofs.FileTree.Make
import Redline.Workspace.Batch

/-!
# Paths that may be written

A path may be written if its route neither goes up nor leads to a directory, and if the place to
which the innermost route above it leads, its *anchor*, is in the workspace. The names behind the
anchor are missing. As long as none of them is that of a link, where the route leads on is below the
anchor, and what is made or removed there is in the workspace as well.
-/

namespace Redline

open FileTree Route Text

namespace Workspace

variable {tree other : FileTree} {w : Workspace} {path : String} {m r s : Route} {a p : TreePath}
  {chain : List Route} {content : Content} {fault : Fault}

/-! ## Anchors -/

theorem anchor_of_doesExist (h : tree.doesExist r = true) :
    anchor tree (r :: chain) = tree.realPath r := by
  rw [anchor, if_pos h]

theorem anchor_of_absent (h : tree.doesExist r = false) :
    anchor tree (r :: chain) = anchor tree chain := by
  rw [anchor, h, if_neg Bool.false_ne_true]

theorem prefix_of_anchor (hwf : tree.WellFormed) (hlead : tree.Leads r p) (hfits : r.Fits)
    (h : anchor tree (r :: above r) = .ok a) : a <+: p := by
  induction hlead with
  | @here r p hwalk =>
    have hlocate : tree.locate r = .ok (.directory p) := by rwa [locate_of_fits hfits]
    have hpath : tree.realPath r = .ok p := realPath_iff.mpr ⟨hfits.no_nul, .inl hwalk⟩
    rw [anchor_of_doesExist (doesExist_iff.mpr (.inl ⟨p, hlocate⟩)), hpath] at h
    obtain rfl := Except.ok.inj h
    exact List.prefix_refl _
  | @under m xs name p hlead hm hxs hname hnone ih =>
    have hunder : tree.Leads (m ++ xs ++ [name]) (p ++ [name]) := .under hlead hm hxs hname hnone
    rw [anchor_of_absent (hunder.doesExist_eq_false hwf hnone),
      above_below hm hxs hname.not_idle] at h
    exact (ih (fits_append (fits_append hfits)) h).trans (List.prefix_append _ _)

theorem anchor_of_clean (hm : Clean m) (h : anchor tree (m :: above m) = .ok a)
    (hs : s ∈ m :: above m) (habsent : tree.doesExist s = false) :
    anchor tree (s :: above s) = .ok a := by
  induction hm with
  | root =>
    obtain rfl := List.mem_singleton.mp hs
    exact h
  | @under m xs name hm hxs hidle ih =>
    rcases List.mem_cons.mp hs with rfl | hs
    · exact h
    · have hbelow : tree.doesExist (m ++ xs ++ [name]) = false := by
        refine Bool.eq_false_iff.mpr fun hexists ↦ ?_
        exact absurd (doesExist_above hexists hs) (Bool.eq_false_iff.mp habsent)
      rw [anchor_of_absent hbelow, above_below hm hxs hidle] at h
      rw [above_below hm hxs hidle] at hs
      exact ih h hs

/-- A missing route above another has the same anchor. -/
theorem anchor_of_mem_above (h : anchor tree (r :: above r) = .ok a) (hs : s ∈ above r)
    (habsent : tree.doesExist s = false) : anchor tree (s :: above s) = .ok a := by
  have hbelow : ∀ {t : Route}, above t = above r → tree.doesExist t = false := by
    refine fun ht ↦ Bool.eq_false_iff.mpr fun hexists ↦ ?_
    rw [← ht] at hs
    exact absurd (doesExist_above hexists hs) (Bool.eq_false_iff.mp habsent)
  rw [anchor_of_absent (hbelow rfl), ← above_trimmed,
    ← anchor_of_absent (hbelow (above_trimmed r))] at h
  rw [← above_trimmed] at hs
  exact anchor_of_clean (clean_trimmed r) h (List.mem_cons_of_mem _ hs) habsent

/-! ## The workspace -/

theorem holds_below (h : w.holds a = true) (hp : a <+: p) : w.holds p = true := by
  rw [holds, List.isPrefixOf_iff_prefix] at h ⊢
  exact h.trans hp

theorem ne_of_holds {q : TreePath} (hp : w.holds p = true) (hq : w.holds q = false) : q ≠ p := by
  rintro rfl
  rw [hp] at hq
  exact absurd hq nofun

/-- A route that may be written. -/
structure Admits (w : Workspace) (r : Route) : Prop where
  not_up : ".." ∉ r
  not_directory : w.tree.isDirectory r = false
  /-- Its anchor is in the workspace. -/
  anchored : ∃ a, anchor w.tree (r :: above r) = .ok a ∧ w.holds a = true

theorem of_resolveWrite (h : w.resolveWrite path = .ok r) : r = w.route path ∧ w.Admits r := by
  simp only [resolveWrite] at h
  split at h
  next => exact absurd h nofun
  next =>
    split at h
    next => exact absurd h nofun
    next hup =>
      split at h
      next => exact absurd h nofun
      next hdirectory =>
        split at h
        next => exact absurd h nofun
        next a hanchor =>
          split at h
          next hholds =>
            obtain rfl := Except.ok.inj h
            exact ⟨rfl, fun hmem ↦ hup (List.contains_iff_mem.mpr hmem),
              Bool.eq_false_iff.mpr hdirectory, a, hanchor, hholds⟩
          next => exact absurd h nofun

namespace Admits

theorem holds_of_locate (h : w.Admits r) (hlocate : w.tree.locate r = .ok (.file p content false)) :
    w.holds p = true := by
  obtain ⟨a, hanchor, hholds⟩ := h.anchored
  rw [anchor_of_doesExist (doesExist_iff.mpr (.inr ⟨p, content, hlocate⟩)),
    realPath_of_locate_file hlocate] at hanchor
  rwa [Except.ok.inj hanchor]

theorem holds_of_leads (h : w.Admits r) (hwf : w.tree.WellFormed) (hm : m ∈ above r)
    (hfits : m.Fits) (hlead : w.tree.Leads m p) (hnone : w.tree.node? p = none) :
    w.holds p = true := by
  obtain ⟨a, hanchor, hholds⟩ := h.anchored
  have habsent := hlead.doesExist_eq_false hwf hnone
  exact holds_below hholds
    (prefix_of_anchor hwf hlead hfits (anchor_of_mem_above hanchor hm habsent))

end Admits

/-- The last name of a route that was missing stands in the workspace if the anchor of the route
does, in every tree whose frame is part of a grown one. -/
theorem holds_of_entryOf (hwf : w.tree.WellFormed) (hanchor : anchor w.tree (r :: above r) = .ok a)
    (hholds : w.holds a = true) (habsent : w.tree.doesExist r = false) (hup : ".." ∉ r)
    (hlinks : ∀ m ∈ above r, ¬w.tree.Dangling m) (hgrown : w.tree.Grown other)
    (hframe : tree.FrameIn other) (hentry : tree.entryOf fault r = .ok p) : w.holds p = true := by
  obtain ⟨hfits, m, xs, name, here, htrimmed, hclean, hxs, hname, hwalk, rfl⟩ :=
    exists_above_of_entryOf hentry
  have habove : above r = m :: above m := by
    rw [← above_trimmed, htrimmed, above_below hclean hxs hname.not_idle]
  have hmem : m ∈ above r := by
    rw [habove]
    exact List.mem_cons_self
  rw [anchor_of_absent habsent, habove] at hanchor
  rw [habove] at hlinks
  have hthere := hframe.walk_directory hwalk
  rcases leads_or_blocked hwf hclean (fun h ↦ hup ((of_mem_above hmem).2.1.subset h)) hlinks with
    ⟨q, hlead⟩ | hblocked
  · obtain ⟨rfl, -⟩ := hlead.eq_of_walk hwf hgrown hthere
    refine holds_below hholds ?_
    exact (prefix_of_anchor hwf hlead (hfits.above hmem) hanchor).trans (List.prefix_append _ _)
  · refine absurd ?_ (hblocked other hgrown here)
    rwa [locate_of_fits (hfits.above hmem)]

end Workspace

end Redline
