import Redline.Proofs.FileTree.Change

/-!
# Where directories are made

The directories above a route are made from the innermost one that is there on. A name that is in
the way ends this at once, also that of a link that leads nowhere: such a link is neither followed
nor replaced. So what is made is made where the routes led before, whatever links there are, and in
the end there is a new directory with nothing in it.
-/

namespace Redline.FileTree

open Route

variable {tree other result : FileTree} {m r xs : Route} {here p q : TreePath} {name : String}
  {place : Place} {fault : Fault} {answer : Except Fault Unit}

/-! ## Making one directory -/

theorem exists_of_entryOf_below (hm : Clean m) (hxs : xs.all isIdle = true)
    (hidle : isIdle name = false) (h : tree.entryOf fault (m ++ xs ++ [name]) = .ok p) :
    (m ++ xs ++ [name]).Fits ∧ IsName name ∧
      ∃ here, tree.walk linkLimit [] m = .ok (.directory here) ∧ p = here ++ [name] := by
  obtain ⟨hfits, m', xs', name', here, htrimmed, hm', hxs', hname, hwalk, rfl⟩ :=
    exists_above_of_entryOf h
  rw [(Clean.under hm hxs hidle).trimmed_eq] at htrimmed
  obtain ⟨hfields, hlast⟩ := List.append_inj' htrimmed rfl
  obtain rfl : name = name' := List.head_eq_of_cons_eq hlast
  obtain rfl : m = m' := by rw [← trimmed_append hm hxs, hfields, trimmed_append hm' hxs']
  exact ⟨hfits, hname, here, hwalk, rfl⟩

theorem directoryOf_of_makeDirectory (h : tree.makeDirectory r = .error .notFound) :
    tree.directoryOf r = .error .notFound := by
  simp only [makeDirectory, entryOf, bind, Except.bind] at h
  split at h
  next e hentry =>
    obtain rfl := Except.error.inj h
    split at hentry
    next e hdirectory => rw [hdirectory, Except.error.inj hentry]
    next pair hdirectory =>
      split at hentry
      next => cases hentry
      next =>
        split at hentry
        next => cases hentry
        next => split at hentry <;> cases hentry
  next p hentry => split at h <;> cases h

theorem fits_of_directoryOf (h : tree.directoryOf r = .error .notFound) : r.Fits := by
  rw [directoryOf] at h
  by_cases hnul : r.hasNul = true
  · rw [if_pos hnul] at h
    cases h
  by_cases hsize : sizeLimit ≤ r.size
  · rw [if_neg hnul, if_pos hsize] at h
    cases h
  exact ⟨Bool.eq_false_iff.mpr hnul, Nat.not_le.mp hsize⟩

theorem isDirectory_of_makeDirectory (hxs : xs.all isIdle = true) (hidle : isIdle name = false)
    (h : tree.makeDirectory (m ++ xs ++ [name]) = .error .notFound) :
    tree.isDirectory m = false := by
  have hnone := directoryOf_of_makeDirectory h
  refine Bool.eq_false_iff.mpr fun hdirectory ↦ ?_
  obtain ⟨p, hp⟩ := isDirectory_iff.mp hdirectory
  have hwalk := (walk_append_idles hxs).mpr (walk_of_locate hp)
  rw [directoryOf_eq (fits_of_directoryOf hnone) (splitLast?_below hidle) hwalk] at hnone
  exact absurd hnone nofun

theorem makeChain_of_error {chain : List Route} (h : tree.makeDirectory m = .error fault)
    (hne : fault ≠ .notFound) : tree.makeChain (m :: chain) =
      if tree.isDirectory m then (.ok (), tree) else (.error fault, tree) := by
  rw [makeChain]
  split
  next other hmake => cases h.symm.trans hmake
  next hmake => exact absurd (Except.error.inj (h.symm.trans hmake)) hne
  next e _ hmake =>
    obtain rfl := Except.error.inj (h.symm.trans hmake)
    rfl

theorem makeChain_of_isDirectory (hm : Clean m) (h : tree.isDirectory m = true)
    (chain : List Route) : tree.makeChain (m :: chain) = (.ok (), tree) := by
  obtain ⟨p, hp⟩ := isDirectory_iff.mp h
  have hwalk := walk_of_locate hp
  cases hmake : tree.makeDirectory m with
  | ok other =>
    -- The name that is missing would be the last one on the way to the directory.
    obtain ⟨q, hentry, hnone, -⟩ := exists_of_makeDirectory hmake
    obtain ⟨-, parent, name, slashes, here, rfl, -, hname, hparent, rfl⟩ := exists_of_entryOf hentry
    obtain ⟨k, hk⟩ := exists_walk_append hparent
    rw [hk tree (Keeps.refl tree), walk_missing hname hnone] at hwalk
    split at hwalk <;> exact absurd hwalk nofun
  | error e =>
    have hne : e ≠ .notFound := by
      rintro rfl
      have hnone := directoryOf_of_makeDirectory hmake
      cases hm with
      | root => exact absurd hnone nofun
      | @under m xs name hm hxs hidle =>
        obtain ⟨here, hhere⟩ := exists_walk_prefix hidle hwalk
        rw [directoryOf_eq (fits_of_locate hp) (splitLast?_below hidle) hhere] at hnone
        exact absurd hnone nofun
    rw [makeChain_of_error hmake hne, if_pos h]

/-! ## Making those above it as well -/

/-- What making the directory `m` with those above it comes to, in a tree in which there is none. -/
structure MadeChain (tree : FileTree) (m : Route) (answer : Except Fault Unit × FileTree) :
    Prop where
  /-- What is new stands where one of the routes led. -/
  new : ∀ p, tree.node? p = none → answer.2.node? p ≠ none →
    ∃ s ∈ m :: above m, s.Fits ∧ tree.Leads s p
  /-- If it succeeds there is a new directory where `m` led, with nothing in it. -/
  reached : answer.1 = .ok () → ∃ p, tree.Leads m p ∧ tree.node? p = none ∧
    answer.2.node? p = some .directory ∧ ∀ name, answer.2.node? (p ++ [name]) = none

theorem MadeChain.stopped : tree.MadeChain m (.error fault, tree) :=
  ⟨fun _ hnone hnode ↦ absurd hnone hnode, nofun⟩

/-- What is new is still so for the route one name longer, which is not reached. -/
theorem MadeChain.below (h : tree.MadeChain m (answer, other)) (hm : Clean m)
    (hxs : xs.all isIdle = true) (hidle : isIdle name = false) :
    tree.MadeChain (m ++ xs ++ [name]) (.error fault, other) := by
  refine ⟨fun p hnone hnode ↦ ?_, nofun⟩
  obtain ⟨s, hs, hlead⟩ := h.new p hnone hnode
  rw [above_below hm hxs hidle]
  exact ⟨s, List.mem_cons_of_mem _ hs, hlead⟩

theorem madeChain_of_makeDirectory (hgrown : tree.Grown other)
    (hm : Clean m) (hxs : xs.all isIdle = true) (hidle : isIdle name = false)
    (hnew : ∀ p, tree.node? p = none → other.node? p ≠ none →
      ∃ s ∈ m :: above m, s.Fits ∧ tree.Leads s p)
    (hlead : ∀ p, other.walk linkLimit [] m = .ok (.directory p) → tree.Leads m p)
    (hmake : other.makeDirectory (m ++ xs ++ [name]) = .ok result) :
    tree.MadeChain (m ++ xs ++ [name]) (.ok (), result) := by
  obtain ⟨p, hentry, hnode, rfl⟩ := exists_of_makeDirectory hmake
  obtain ⟨hfits, hname, here, hwalk, rfl⟩ := exists_of_entryOf_below hm hxs hidle hentry
  have hne : here ++ [name] ≠ [] := List.concat_ne_nil _ _
  have hnone := hgrown.node?_eq_none hnode
  have hunder : tree.Leads (m ++ xs ++ [name]) (here ++ [name]) :=
    .under (hlead here hwalk) hm hxs hname hnone
  constructor
  · intro q hq hafter
    by_cases heq : q = here ++ [name]
    · subst heq
      exact ⟨_, List.mem_cons_self, hfits, hunder⟩
    · rw [node?_set hne, if_neg heq] at hafter
      obtain ⟨s, hs, hslead⟩ := hnew q hq hafter
      rw [above_below hm hxs hidle]
      exact ⟨s, List.mem_cons_of_mem _ hs, hslead⟩
  · intro _
    refine ⟨here ++ [name], hunder, hnone, by rw [node?_set hne, if_pos rfl], fun child ↦ ?_⟩
    rw [node?_set hne, if_neg (by simp)]
    exact hgrown.wellFormed.child_eq_none (by rw [hnode]; exact nofun)

/-- A route does not lead to a directory if it is one name longer than a route to an empty one. -/
theorem isDirectory_of_leaf (hxs : xs.all isIdle = true) (hidle : isIdle name = false)
    (hup : name ≠ "..") (hwalk : tree.walk linkLimit [] m = .ok (.directory p))
    (hleaf : ∀ child, tree.node? (p ++ [child]) = none) :
    tree.isDirectory (m ++ xs ++ [name]) = false := by
  refine Bool.eq_false_iff.mpr fun hdirectory ↦ ?_
  obtain ⟨q, hq⟩ := isDirectory_iff.mp hdirectory
  obtain ⟨k, hk⟩ := exists_walk_append hwalk
  have hthere := walk_of_locate hq
  rw [List.append_assoc, hk tree (Keeps.refl tree), walk_idles hxs] at hthere
  rw [walk_missing (isName_of_walk hidle hup hthere) (hleaf name)] at hthere
  exact absurd hthere nofun

/-- **Directories are made where the routes led.** -/
theorem madeChain_makeChain (hwf : tree.WellFormed) (hm : Clean m) (hup : ".." ∉ m)
    (hnot : tree.isDirectory m = false) : tree.MadeChain m (tree.makeChain (m :: above m)) := by
  induction hm with
  | root => exact absurd hnot nofun
  | @under m xs name hm hxs hidle ih =>
    have hne : name ≠ ".." := by
      rintro rfl
      exact hup (List.mem_append_right _ List.mem_cons_self)
    cases hmake : tree.makeDirectory (m ++ xs ++ [name]) with
    | ok other =>
      rw [makeChain]
      simp only [hmake]
      exact madeChain_of_makeDirectory (Grown.refl hwf) hm hxs hidle
        (fun p hnone hnode ↦ absurd hnone hnode) (fun p hwalk ↦ .here hwalk) hmake
    | error e =>
      by_cases hfound : e = .notFound
      · subst hfound
        have hrest := ih (fun hmem ↦ hup (List.mem_append_left _ (List.mem_append_left _ hmem)))
          (isDirectory_of_makeDirectory hxs hidle hmake)
        have hgrown : tree.Grown (tree.makeChain (m :: above m)).2 :=
          (makes_makeChain hwf (List.Subset.refl _)).grown
        rw [above_below hm hxs hidle, makeChain]
        simp only [hmake]
        generalize tree.makeChain (m :: above m) = answer at hrest hgrown ⊢
        obtain ⟨result, other⟩ := answer
        cases result with
        | error e => exact hrest.below hm hxs hidle
        | ok =>
          -- The directory above is new and empty, so that only the name can prevent the next one.
          obtain ⟨p, hlead, -, hp, hleaf⟩ := hrest.reached rfl
          have hwalk := hlead.walk hgrown hp
          dsimp only
          cases hagain : other.makeDirectory (m ++ xs ++ [name]) with
          | ok result =>
            refine madeChain_of_makeDirectory hgrown hm hxs hidle hrest.new (fun q hq ↦ ?_) hagain
            obtain rfl := (hlead.eq_of_walk hwf hgrown hq).1
            exact hlead
          | error e =>
            dsimp only
            rw [isDirectory_of_leaf hxs hidle hne hwalk hleaf, if_neg Bool.false_ne_true]
            exact hrest.below hm hxs hidle
      · rw [makeChain_of_error hmake hfound, hnot, if_neg Bool.false_ne_true]
        exact .stopped

theorem makeParents_of_locate (h : tree.locate r = .ok place) :
    tree.makeParents r = (.ok (), tree) := by
  rw [makeParents]
  cases habove : above r with
  | nil => rfl
  | cons m chain =>
    have hm : m ∈ above r := by
      rw [habove]
      exact List.mem_cons_self
    obtain ⟨p, hp⟩ := exists_walk_above (walk_of_locate h) hm
    refine makeChain_of_isDirectory (of_mem_above hm).1 (isDirectory_iff.mpr ⟨p, ?_⟩) chain
    rwa [locate_of_fits ((fits_of_locate h).above hm)]

theorem makeParents_cases (hwf : tree.WellFormed) (hup : ".." ∉ r) :
    tree.makeParents r = (.ok (), tree) ∨
      ∃ m xs name, trimmed r = m ++ xs ++ [name] ∧ xs.all isIdle = true ∧
        isIdle name = false ∧ above r = m :: above m ∧
          tree.MadeChain m (tree.makeParents r) := by
  obtain ⟨ys, hr, -⟩ := exists_trimmed_append r
  rw [makeParents, ← above_trimmed]
  have hclean := clean_trimmed r
  generalize trimmed r = s at hr hclean ⊢
  subst hr
  cases hclean with
  | root => exact Or.inl rfl
  | @under m xs name hm hxs hidle =>
    rw [above_below hm hxs hidle]
    cases hdirectory : tree.isDirectory m with
    | true => exact Or.inl (makeChain_of_isDirectory hm hdirectory _)
    | false =>
      refine Or.inr ⟨m, xs, name, rfl, hxs, hidle, rfl, madeChain_makeChain hwf hm (fun hmem ↦ ?_)
        hdirectory⟩
      exact hup (List.mem_append_left _ (List.mem_append_left _ (List.mem_append_left _ hmem)))

end Redline.FileTree
