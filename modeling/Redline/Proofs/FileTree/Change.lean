import Redline.Proofs.FileTree.Write

/-!
# What changes do to a grown tree

A change is made where a route leads or where its last name stands. For a *clear* route, which does
not go up and passes no link that leads nowhere, this place is settled by the tree from which the
present one has grown: what is made there is made at a place to which the route led before.
-/

namespace Redline.FileTree

open Route

variable {tree other result : FileTree} {route m r xs ys : Route} {p q : TreePath} {name : String}
  {place : Place} {content : Content} {fault : Fault}

/-! ## Clear routes -/

/-- A route that does not go up, with no link on it that leads nowhere. -/
structure Clear (tree : FileTree) (route : Route) : Prop where
  not_up : ".." ∉ route
  /-- No name on it is that of a link that leads nowhere. -/
  no_dangling : ∀ m ∈ trimmed route :: above route, ¬tree.Dangling m

theorem Clear.above (h : tree.Clear r) (hm : m ∈ above r) : tree.Clear m := by
  obtain ⟨hclean, hpre, hsubset⟩ := of_mem_above hm
  refine ⟨fun hup ↦ h.not_up (hpre.subset hup), fun s hs ↦ h.no_dangling s ?_⟩
  rw [hclean.trimmed_eq] at hs
  rcases List.mem_cons.mp hs with rfl | hs
  · exact List.mem_cons_of_mem _ hm
  · exact List.mem_cons_of_mem _ (hsubset hs)

/-- A route above a clear one leads somewhere if it comes to lead to a directory. -/
theorem Clear.leads_above (h : tree.Clear r) (hwf : tree.WellFormed) (hgrown : tree.Grown other)
    (hfits : r.Fits) (hm : m ∈ Route.above r)
    (hwalk : other.walk linkLimit [] m = .ok (.directory p)) :
    tree.Leads m p ∧ other.node? p = some .directory := by
  obtain ⟨hclean, -, hsubset⟩ := of_mem_above hm
  have hlinks : ∀ s ∈ m :: Route.above m, ¬tree.Dangling s := by
    intro s hs
    refine h.no_dangling s (List.mem_cons_of_mem _ ?_)
    rcases List.mem_cons.mp hs with rfl | hs
    · exact hm
    · exact hsubset hs
  rcases leads_or_blocked hwf hclean (h.above hm).not_up hlinks with ⟨q, hq⟩ | hblocked
  · obtain ⟨rfl, hp⟩ := hq.eq_of_walk hwf hgrown hwalk
    exact ⟨hq, hp⟩
  · refine absurd ?_ (hblocked other hgrown p)
    rwa [locate_of_fits (hfits.above hm)]

/-! ## Where the last name stands -/

theorem exists_above_of_entryOf (h : tree.entryOf fault r = .ok p) :
    r.Fits ∧ ∃ m xs name here, trimmed r = m ++ xs ++ [name] ∧ Clean m ∧ xs.all isIdle = true ∧
      IsName name ∧ tree.walk linkLimit [] m = .ok (.directory here) ∧ p = here ++ [name] := by
  obtain ⟨hfits, parent, name, slashes, here, hr, hslashes, hname, hwalk, rfl⟩ :=
    exists_of_entryOf h
  obtain ⟨xs, hparent, hxs⟩ := exists_trimmed_append parent
  have hidles : slashes.all isIdle = true := by
    rw [List.all_eq_true] at hslashes ⊢
    intro slash hslash
    rw [isIdle, hslashes slash hslash, Bool.true_or]
  -- The route is clean up to its last name, with idle fields before it and slashes after it.
  have hsplit : r = trimmed parent ++ xs ++ [name] ++ slashes := by
    rw [← hparent, hr, List.append_assoc, List.singleton_append]
  have htrimmed : trimmed r = trimmed parent ++ xs ++ [name] := by
    rw [hsplit]
    exact trimmed_append (.under (clean_trimmed parent) hxs hname.not_idle) hidles
  rw [hparent, walk_append_idles hxs] at hwalk
  exact ⟨hfits, _, _, _, _, htrimmed, clean_trimmed parent, hxs, hname, hwalk, rfl⟩

/-! ## Where a clear route leads -/

theorem isName_of_walk {k : Nat} {here : TreePath} (hidle : isIdle name = false) (hup : name ≠ "..")
    (h : tree.walk k here (name :: ys) = .ok place) : IsName name := by
  refine ⟨hidle, hup, Bool.eq_false_iff.mpr fun hlong ↦ ?_⟩
  rw [walk_tooLong hidle hup hlong] at h
  exact absurd h nofun

theorem path_of_walk {k : Nat} {here : TreePath} (hname : IsName name)
    (hys : ys.all isIdle = true)
    (hlink : ∀ target, tree.node? (here ++ [name]) ≠ some (.link target))
    (h : tree.walk k here (name :: ys) = .ok place) : place.path = here ++ [name] := by
  cases hnode : tree.node? (here ++ [name]) with
  | none =>
    rw [walk_missing hname hnode] at h
    split at h
    next =>
      obtain rfl := Except.ok.inj h
      rfl
    next => exact absurd h nofun
  | some n =>
    cases n with
    | directory =>
      rw [walk_directory hname hnode, walk_all_idle hys] at h
      obtain rfl := Except.ok.inj h
      rfl
    | file content =>
      rw [walk_file hname hnode] at h
      split at h
      next =>
        obtain rfl := Except.ok.inj h
        rfl
      next => exact absurd h nofun
    | link target => exact absurd hnode (hlink target)

theorem trimmed_of_isBare {k : Nat} {here : TreePath} (h : tree.walk k here r = .ok place)
    (hbare : place.IsBare) : trimmed r = r :=
  trimmed_eq fun _ hlast ↦ not_idle_of_walk h hbare hlast

/-- If a route exists without the idle fields at its end, it does with them, unless a file is
spelled like a directory. -/
theorem doesExist_of_trimmed (hkeeps : tree.Keeps other) (h : tree.doesExist (trimmed r) = true)
    (hlocate : other.locate r = .ok place) (hplace : place.IsBare ∨ ∃ q, place = .directory q) :
    tree.doesExist r = true := by
  obtain ⟨ys, hr, hys⟩ := exists_trimmed_append r
  rcases hplace with hbare | ⟨q, rfl⟩
  · rwa [trimmed_of_isBare (walk_of_locate hlocate) hbare] at h
  · have hwalk := walk_of_locate hlocate
    rw [hr, walk_append_idles hys] at hwalk
    rcases doesExist_iff.mp h with ⟨s, hs⟩ | ⟨s, content, hs⟩
    · refine doesExist_iff.mpr (Or.inl ⟨s, ?_⟩)
      rw [locate_of_fits (fits_of_locate hlocate), hr, walk_append_idles hys]
      exact walk_of_locate hs
    · obtain ⟨content', hother⟩ := hkeeps.walk_file (walk_of_locate hs)
      rw [hwalk] at hother
      exact absurd hother nofun

namespace Clear

/-- Where a clear route that leads to nothing comes to lead was settled before. -/
theorem leads_of_locate (h : tree.Clear r) (hwf : tree.WellFormed) (hgrown : tree.Grown other)
    (habsent : tree.doesExist r = false) (hlocate : other.locate r = .ok place)
    (hplace : place.IsBare ∨ ∃ q, place = .directory q) :
    tree.Leads (trimmed r) place.path ∧ tree.node? place.path = none := by
  obtain ⟨ys, hr, hys⟩ := exists_trimmed_append r
  have hfits := fits_of_locate hlocate
  have hwalk := walk_of_locate hlocate
  have hexists : tree.doesExist (trimmed r) = true → tree.doesExist r = true :=
    fun hs ↦ doesExist_of_trimmed hgrown.keeps hs hlocate hplace
  have hclean := clean_trimmed r
  have habove := above_trimmed r
  have hdangling := h.no_dangling (trimmed r) List.mem_cons_self
  generalize trimmed r = s at hr hclean habove hdangling hexists ⊢
  subst hr
  cases hclean with
  | root =>
    refine absurd (doesExist_iff.mpr (Or.inl ⟨[], ?_⟩)) (Bool.eq_false_iff.mp habsent)
    rw [locate_of_fits hfits, List.nil_append, walk_all_idle hys]
  | @under m xs name hm hxs hidle =>
    have hne : name ≠ ".." := by
      rintro rfl
      exact h.not_up (List.mem_append_left _ (List.mem_append_right _ List.mem_cons_self))
    rw [List.append_assoc (m ++ xs), List.singleton_append] at hwalk
    obtain ⟨here, hhere⟩ := exists_walk_prefix hidle hwalk
    have hmem : m ∈ Route.above (m ++ xs ++ [name] ++ ys) := by
      rw [← habove, above_below hm hxs hidle]
      exact List.mem_cons_self
    obtain ⟨hlead, hp⟩ :=
      h.leads_above hwf hgrown hfits hmem ((walk_append_idles hxs).mp hhere)
    obtain ⟨k, hk⟩ := exists_walk_append hhere
    rw [hk other (Keeps.refl other)] at hwalk
    have hname := isName_of_walk hidle hne hwalk
    -- If something had had the last name, the route would have led to it, as it does not dangle.
    have hnone : tree.node? (here ++ [name]) = none := by
      refine Decidable.byContradiction fun hnode ↦ ?_
      obtain ⟨n, hn⟩ := Option.ne_none_iff_exists'.mp hnode
      have hbefore := (walk_append_idles hxs).mpr (hlead.walk (Grown.refl hwf) (hwf.parent hn))
      have hthere := hexists (doesExist_of_node (fits_append hfits) hbefore hname hn hdangling)
      exact absurd hthere (Bool.eq_false_iff.mp habsent)
    have hlink : ∀ target, other.node? (here ++ [name]) ≠ some (.link target) := by
      intro target htarget
      rw [hgrown.link _ _ htarget] at hnone
      exact absurd hnone nofun
    rw [path_of_walk hname hys hlink hwalk]
    exact ⟨.under hlead hm hxs hname hnone, hnone⟩

theorem exists_of_entryOf (h : tree.Clear r) (hwf : tree.WellFormed) (hgrown : tree.Grown other)
    (hentry : other.entryOf fault r = .ok p) :
    r.Fits ∧ ∃ m xs name here, trimmed r = m ++ xs ++ [name] ∧ Clean m ∧ xs.all isIdle = true ∧
      IsName name ∧ tree.Leads m here ∧ other.node? here = some .directory ∧
        p = here ++ [name] := by
  obtain ⟨hfits, m, xs, name, here, htrimmed, hclean, hxs, hname, hwalk, rfl⟩ :=
    exists_above_of_entryOf hentry
  have hmem : m ∈ Route.above r := by
    rw [← above_trimmed r, htrimmed, above_below hclean hxs hname.not_idle]
    exact List.mem_cons_self
  obtain ⟨hlead, hhere⟩ := h.leads_above hwf hgrown hfits hmem hwalk
  exact ⟨hfits, _, _, _, _, htrimmed, hclean, hxs, hname, hlead, hhere, rfl⟩

theorem leads_of_entryOf (h : tree.Clear r) (hwf : tree.WellFormed) (hgrown : tree.Grown other)
    (hentry : other.entryOf fault r = .ok p) (hnone : tree.node? p = none) :
    tree.Leads (trimmed r) p := by
  obtain ⟨-, m, xs, name, here, htrimmed, hclean, hxs, hname, hlead, -, rfl⟩ :=
    h.exists_of_entryOf hwf hgrown hentry
  rw [htrimmed]
  exact .under hlead hclean hxs hname hnone

theorem node?_of_entryOf (h : tree.Clear r) (hwf : tree.WellFormed) (hgrown : tree.Grown other)
    (hentry : other.entryOf fault r = .ok p) (habsent : tree.doesExist (trimmed r) = false) :
    tree.node? p = none := by
  obtain ⟨hfits, m, xs, name, here, htrimmed, hclean, hxs, hname, hlead, -, rfl⟩ :=
    h.exists_of_entryOf hwf hgrown hentry
  refine Decidable.byContradiction fun hnode ↦ ?_
  obtain ⟨n, hn⟩ := Option.ne_none_iff_exists'.mp hnode
  obtain ⟨ys, hr, -⟩ := exists_trimmed_append r
  have hdangling := h.no_dangling (trimmed r) List.mem_cons_self
  rw [hr] at hfits
  rw [htrimmed] at hdangling hfits habsent
  have hbefore := (walk_append_idles hxs).mpr (hlead.walk (Grown.refl hwf) (hwf.parent hn))
  have hthere := doesExist_of_node (fits_append hfits) hbefore hname hn hdangling
  exact absurd hthere (Bool.eq_false_iff.mp habsent)

theorem leads_of_directory (h : tree.Clear m) (hwf : tree.WellFormed) (hgrown : tree.Grown other)
    (hclean : Clean m) (hlocate : other.locate m = .ok (.directory p))
    (hnone : tree.node? p = none) : tree.Leads m p := by
  cases hexists : tree.doesExist m with
  | false =>
    obtain ⟨hlead, -⟩ := h.leads_of_locate hwf hgrown hexists hlocate (Or.inr ⟨p, rfl⟩)
    rwa [hclean.trimmed_eq] at hlead
  | true =>
    rcases doesExist_iff.mp hexists with ⟨q, hq⟩ | ⟨q, content, hq⟩
    · have hother := hgrown.keeps.locate_directory hq
      obtain rfl := Place.directory.inj (Except.ok.inj (hlocate.symm.trans hother))
      have hstands : tree.node? p = some .directory := hwf.locate_stands hq
      exact absurd (hnone.symm.trans hstands) nofun
    · obtain ⟨content', hother⟩ := hgrown.keeps.locate_file hq
      exact absurd (hlocate.symm.trans hother) nofun

/-- A file stands at a clear route, or the route led to its place when nothing stood there. -/
theorem cases_of_locate (h : tree.Clear r) (hwf : tree.WellFormed) (hgrown : tree.Grown other)
    (hlocate : other.locate r = .ok place) (hbare : place.IsBare) :
    (∃ content, tree.locate r = .ok (.file place.path content false)) ∨
      tree.Leads r place.path ∧ tree.node? place.path = none := by
  cases hexists : tree.doesExist r with
  | false =>
    rw [← trimmed_of_isBare (walk_of_locate hlocate) hbare]
    exact Or.inr (h.leads_of_locate hwf hgrown hexists hlocate (Or.inl hbare))
  | true =>
    rcases doesExist_iff.mp hexists with ⟨p, hp⟩ | ⟨p, content, hp⟩
    · have hother := hgrown.keeps.locate_directory hp
      rw [hlocate] at hother
      obtain rfl := Except.ok.inj hother
      exact absurd hbare id
    · obtain ⟨content', hother⟩ := hgrown.keeps.locate_file hp
      rw [hlocate] at hother
      obtain rfl := Except.ok.inj hother
      exact Or.inl ⟨content, hp⟩

end Clear

/-! ## Removing files and directories -/

theorem Leads.entryOf {n : Node} (h : tree.Leads m p) (hwf : tree.WellFormed)
    (hgrown : tree.Grown other) (hnone : tree.node? p = none) (hnode : other.node? p = some n)
    (hfits : m.Fits) : other.entryOf fault m = .ok p := by
  obtain ⟨m, xs, name, q, rfl, -, hxs, hname, hlead, rfl⟩ := h.exists_under hwf hnone
  have hwalk := hlead.walk hgrown (hgrown.wellFormed.parent hnode)
  exact entryOf_eq hfits (splitLast?_below hname.not_idle) ((walk_append_idles hxs).mpr hwalk) hname

theorem removeDirectory_iff : tree.removeDirectory r = .ok result ↔
    ∃ p, tree.entryOf .invalid r = .ok p ∧ tree.node? p = some .directory ∧
      tree.isLeaf p = true ∧ result = tree.erase p := by
  simp only [removeDirectory, bind, Except.bind]
  constructor
  · intro h
    cases hentry : tree.entryOf .invalid r with
    | error e =>
      rw [hentry] at h
      exact absurd h nofun
    | ok p =>
      simp only [hentry] at h
      split at h
      next => exact absurd h nofun
      next hnode =>
        by_cases hleaf : tree.isLeaf p = true
        · rw [if_pos hleaf] at h
          exact ⟨p, rfl, hnode, hleaf, (Except.ok.inj h).symm⟩
        · rw [if_neg hleaf] at h
          exact absurd h nofun
      next => exact absurd h nofun
  · rintro ⟨p, hentry, hnode, hleaf, rfl⟩
    simp only [hentry, hnode]
    rw [if_pos hleaf]

theorem exists_of_removeFile (h : tree.removeFile r = .ok result) :
    ∃ p, tree.entryOf .isDirectory r = .ok p ∧ tree.node? p ≠ some .directory ∧
      result = tree.erase p := by
  simp only [removeFile, bind, Except.bind] at h
  split at h
  next => exact absurd h nofun
  next p hentry =>
    split at h
    next => exact absurd h nofun
    next => exact absurd h nofun
    next n hother hnode =>
      split at h
      next => exact absurd h nofun
      next =>
        refine ⟨p, hentry, fun hdirectory ↦ ?_, (Except.ok.inj h).symm⟩
        exact hother (Option.some.inj (hnode.symm.trans hdirectory))

theorem Clear.removeFile_eq (h : tree.Clear r) (hwf : tree.WellFormed) (hgrown : tree.Grown other)
    (habsent : tree.doesExist r = false) (hlocate : other.locate r = .ok (.file p content false)) :
    other.removeFile r = .ok (other.erase p) ∧ tree.node? p = none := by
  have hbare : (Place.file p content false).IsBare := rfl
  obtain ⟨hlead, hnone⟩ := h.leads_of_locate hwf hgrown habsent hlocate (Or.inl hbare)
  rw [trimmed_of_isBare (walk_of_locate hlocate) hbare] at hlead
  have hnode : other.node? p = some (.file content) := hgrown.wellFormed.locate_stands hlocate
  have hentry : other.entryOf .isDirectory r = .ok p :=
    hlead.entryOf hwf hgrown hnone hnode (fits_of_locate hlocate)
  refine ⟨?_, hnone⟩
  simp only [removeFile, bind, Except.bind, hentry, hnode]
  rw [endsWithSlash_eq_false (walk_of_locate hlocate) hbare, if_neg Bool.false_ne_true]

theorem Clear.removeFile_ne (h : tree.Clear r) (hwf : tree.WellFormed) (hgrown : tree.Grown other)
    (habsent : tree.doesExist r = false) (hlocate : other.locate r = .ok (.directory p)) :
    other.removeFile r ≠ .ok result := by
  intro hremove
  simp only [removeFile, bind, Except.bind] at hremove
  cases hentry : other.entryOf .isDirectory r with
  | error e =>
    rw [hentry] at hremove
    exact absurd hremove nofun
  | ok q =>
    obtain ⟨hlead, hnone⟩ := h.leads_of_locate hwf hgrown habsent hlocate (Or.inr ⟨p, rfl⟩)
    have hmissing := h.node?_of_entryOf hwf hgrown hentry (hlead.doesExist_eq_false hwf hnone)
    obtain rfl := hlead.unique (h.leads_of_entryOf hwf hgrown hentry hmissing) hwf
    have hnode : other.node? q = some .directory := hgrown.wellFormed.locate_stands hlocate
    simp only [hentry, hnode] at hremove
    exact absurd hremove nofun

theorem keeps_of_removeDirectory (h : tree.removeDirectory r = .ok result) : result.Keeps tree := by
  obtain ⟨p, hentry, -, -, rfl⟩ := removeDirectory_iff.mp h
  obtain ⟨-, -, name, -, here, -, -, -, -, rfl⟩ := exists_of_entryOf hentry
  exact Keeps.of_erase (List.concat_ne_nil _ _)

end Redline.FileTree
