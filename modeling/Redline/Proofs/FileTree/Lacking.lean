import Redline.Proofs.FileTree.Make
import Redline.Proofs.FileTree.Spelling

/-!
# Directories that are lacking

Before a file is written the directories above it are made that are missing. None is made unless the
outermost of them can be, and then it is made whatever comes after it: the one below it may have a
name that no entry can have, and the route itself may turn out not to be that of a file.

Whether all goes well after the first directory is settled by the spelling of the route alone, since
the directories that have been made are empty.
-/

namespace Redline

open FileTree

/-- A route that a file may have: it can be written out, no name is too long, and it ends with a
name. -/
structure Route.Nameable (route : Route) : Prop where
  fits : route.Fits
  short : ∀ field ∈ route, isTooLong field = false
  ends : route.EndsWithName

namespace FileTree

open Route

variable {tree other : FileTree} {m r s xs : Route} {p : TreePath} {name : String} {place : Place}
  {fault : Fault} {chain : List Route}

/-- A directory can be made along a route. -/
def Makeable (tree : FileTree) (m : Route) : Prop := ∃ other, tree.makeDirectory m = .ok other

/-- A directory is lacking above a route: one can be made, and the routes above can all be written
out. -/
structure Lacks (tree : FileTree) (r : Route) : Prop where
  makeable : ∃ m ∈ above r, tree.Makeable m
  fits : ∀ m ∈ above r, m.Fits

/-! ## Making one directory -/

theorem makeDirectory_of_entryOf (hentry : tree.entryOf .alreadyExists m = .ok p)
    (hnone : tree.node? p = none) : tree.makeDirectory m = .ok (tree.set p .directory) := by
  simp only [makeDirectory, hentry, bind, Except.bind, hnone]

theorem not_makeable_root : ¬tree.Makeable [] := fun ⟨_, h⟩ ↦ absurd h nofun

theorem Makeable.fits (h : tree.Makeable m) : m.Fits := by
  obtain ⟨other, hmake⟩ := h
  obtain ⟨p, hentry, -, -⟩ := exists_of_makeDirectory hmake
  exact (exists_of_entryOf hentry).1

theorem makeDirectory_of_directoryOf (h : tree.directoryOf m = .error fault) :
    tree.makeDirectory m = .error fault := by
  simp only [makeDirectory, entryOf, h, bind, Except.bind]

/-- Below a directory that can be made, and so is missing, nothing is found. -/
theorem makeDirectory_below (hidle : isIdle name = false) (hfits : (m ++ xs ++ [name]).Fits)
    (h : tree.Makeable s) (hs : s <+: m ++ xs) :
    tree.makeDirectory (m ++ xs ++ [name]) = .error .notFound := by
  obtain ⟨other, hmake⟩ := h
  obtain ⟨p, hentry, hnone, -⟩ := exists_of_makeDirectory hmake
  obtain ⟨-, parent, last, slashes, here, rfl, -, hlast, hwalk, rfl⟩ := exists_of_entryOf hentry
  obtain ⟨zs, hzs⟩ := hs
  obtain ⟨k, hk⟩ := exists_walk_append hwalk
  have hparent := hk tree (Keeps.refl tree) (last :: (slashes ++ zs))
  rw [walk_missing hlast hnone, ← List.cons_append, ← List.append_assoc, hzs] at hparent
  refine makeDirectory_of_directoryOf ?_
  rw [directoryOf, hfits.no_nul, if_neg Bool.false_ne_true, if_neg (Nat.not_le.mpr hfits.size_lt),
    splitLast?_below hidle]
  simp only [hparent, bind, Except.bind]
  split at hparent
  next hall => rw [if_pos hall]
  next hall => rw [if_neg hall]

/-! ## Making those above it as well -/

theorem makeChain_of_ok (h : tree.makeDirectory m = .ok other) (chain : List Route) :
    tree.makeChain (m :: chain) = (.ok (), other) := by
  rw [makeChain]
  simp only [h]

/-- Where nothing is found the directories above are made first. If that succeeds the innermost one
is tried again, and what has been made above it stays even if it cannot be made. -/
theorem makeChain_of_notFound (h : tree.makeDirectory m = .error .notFound) (chain : List Route) :
    (∃ e, (tree.makeChain chain).1 = .error e ∧
      tree.makeChain (m :: chain) = tree.makeChain chain) ∨
    ∃ middle, tree.makeChain chain = (.ok (), middle) ∧
      ((∃ other, middle.makeDirectory m = .ok other ∧
        tree.makeChain (m :: chain) = (.ok (), other)) ∨
      ∃ e, middle.makeDirectory m = .error e ∧ (tree.makeChain (m :: chain)).2 = middle) := by
  rw [makeChain]
  simp only [h]
  rcases tree.makeChain chain with ⟨e | ⟨⟩, middle⟩
  · exact .inl ⟨e, rfl, rfl⟩
  · refine .inr ⟨middle, rfl, ?_⟩
    cases hagain : middle.makeDirectory m with
    | ok other =>
      simp only [hagain]
      exact .inl ⟨other, rfl, rfl⟩
    | error e =>
      simp only [hagain]
      refine .inr ⟨e, rfl, ?_⟩
      split <;> rfl

theorem makeChain_of_not_makeable (h : ∀ m ∈ chain, ¬tree.Makeable m) :
    (tree.makeChain chain).2 = tree := by
  induction chain with
  | nil => rfl
  | cons m chain ih =>
    obtain ⟨hm, hchain⟩ := List.forall_mem_cons.mp h
    have hrest := ih hchain
    cases hmake : tree.makeDirectory m with
    | ok other => exact absurd ⟨other, hmake⟩ hm
    | error e =>
      by_cases hfound : e = .notFound
      · subst hfound
        rcases makeChain_of_notFound hmake chain with ⟨e, -, heq⟩ |
          ⟨middle, hmiddle, ⟨other, hagain, -⟩ | ⟨e, -, heq⟩⟩
        · rw [heq, hrest]
        · obtain rfl : middle = tree := by rw [← hrest, hmiddle]
          exact absurd ⟨other, hagain⟩ hm
        · rw [heq, ← hrest, hmiddle]
      · rw [makeChain_of_error hmake hfound]
        split <;> rfl

theorem makeChain_of_not_fits (h : ¬m.Fits) : (tree.makeChain (m :: chain)).2 = tree := by
  cases hmake : tree.makeDirectory m with
  | ok other => exact absurd (Makeable.fits ⟨other, hmake⟩) h
  | error e =>
    have hfound : e ≠ .notFound := by
      rintro rfl
      exact h (fits_of_directoryOf (directoryOf_of_makeDirectory hmake))
    rw [makeChain_of_error hmake hfound]
    split <;> rfl

theorem prefix_of_mem_above (hs : s ∈ m :: above m) (xs : Route) : s <+: m ++ xs := by
  rcases List.mem_cons.mp hs with rfl | hs
  · exact List.prefix_append _ _
  · exact (of_mem_above hs).2.1.trans (List.prefix_append _ _)

/-- A directory can be made along a route, or else the directory that can be made is further up, and
nothing is found along the route. -/
theorem makeable_or_notFound (hm : Clean m) (hxs : xs.all isIdle = true)
    (hidle : isIdle name = false) (hfits : (m ++ xs ++ [name]).Fits)
    (h : ∃ s ∈ (m ++ xs ++ [name]) :: above (m ++ xs ++ [name]), tree.Makeable s) :
    tree.Makeable (m ++ xs ++ [name]) ∨ (∃ s ∈ m :: above m, tree.Makeable s) ∧
      tree.makeDirectory (m ++ xs ++ [name]) = .error .notFound := by
  obtain ⟨s, hs, hmakeable⟩ := h
  rw [above_below hm hxs hidle] at hs
  rcases List.mem_cons.mp hs with rfl | hs
  · exact .inl hmakeable
  · exact .inr ⟨⟨s, hs, hmakeable⟩,
      makeDirectory_below hidle hfits hmakeable (prefix_of_mem_above hs xs)⟩

theorem node?_makeDirectory (h : tree.makeDirectory m = .ok other) :
    (∃ p, tree.node? p = none ∧ other.node? p ≠ none) ∧
      ∀ p, tree.node? p ≠ none → other.node? p ≠ none := by
  obtain ⟨p, hentry, hnone, rfl⟩ := exists_of_makeDirectory h
  obtain ⟨-, _, _, _, _, -, -, -, -, rfl⟩ := exists_of_entryOf hentry
  refine ⟨⟨_, hnone, ?_⟩, fun q hq ↦ ?_⟩
  · rw [node?_set (List.concat_ne_nil _ _), if_pos rfl]
    exact nofun
  · rw [node?_set (List.concat_ne_nil _ _)]
    split
    · exact nofun
    · exact hq

theorem exists_new_of_makeable (hm : Clean m) (hfits : m.Fits)
    (h : ∃ s ∈ m :: above m, tree.Makeable s) :
    ∃ p, tree.node? p = none ∧ (tree.makeChain (m :: above m)).2.node? p ≠ none := by
  induction hm with
  | root =>
    obtain ⟨s, hs, hmakeable⟩ := h
    obtain rfl := List.mem_singleton.mp hs
    exact absurd hmakeable not_makeable_root
  | @under m xs name hm hxs hidle ih =>
    rcases makeable_or_notFound hm hxs hidle hfits h with ⟨other, hmake⟩ | ⟨habove, hmake⟩
    · rw [makeChain_of_ok hmake]
      exact (node?_makeDirectory hmake).1
    · obtain ⟨p, hnone, hnode⟩ := ih (fits_append (fits_append hfits)) habove
      refine ⟨p, hnone, ?_⟩
      rw [above_below hm hxs hidle]
      rcases makeChain_of_notFound hmake (m :: above m) with ⟨e, -, heq⟩ |
        ⟨middle, hmiddle, ⟨other, hagain, heq⟩ | ⟨e, -, heq⟩⟩
      · rw [heq]
        exact hnode
      · rw [hmiddle] at hnode
        rw [heq]
        exact (node?_makeDirectory hagain).2 p hnode
      · rw [hmiddle] at hnode
        rw [heq]
        exact hnode

theorem makeChain_of_makeable (hwf : tree.WellFormed) (hm : Clean m) (hup : ".." ∉ m)
    (hfits : m.Fits) (hshort : ∀ field ∈ m, isTooLong field = false)
    (h : ∃ s ∈ m :: above m, tree.Makeable s) : (tree.makeChain (m :: above m)).1 = .ok () := by
  induction hm with
  | root =>
    obtain ⟨s, hs, hmakeable⟩ := h
    obtain rfl := List.mem_singleton.mp hs
    exact absurd hmakeable not_makeable_root
  | @under m xs name hm hxs hidle ih =>
    have hmem : ∀ field ∈ m, field ∈ m ++ xs ++ [name] := fun field hfield ↦
      List.mem_append_left _ (List.mem_append_left _ hfield)
    have hlast : name ∈ m ++ xs ++ [name] := List.mem_append_right _ (List.mem_singleton_self name)
    rcases makeable_or_notFound hm hxs hidle hfits h with ⟨other, hmake⟩ | ⟨habove, hmake⟩
    · rw [makeChain_of_ok hmake]
    · have hupper : ".." ∉ m := fun h ↦ hup (hmem _ h)
      have hok := ih hupper (fits_append (fits_append hfits)) (fun field hfield ↦
        hshort field (hmem field hfield)) habove
      have hmade := madeChain_makeChain hwf hm hupper (isDirectory_of_makeDirectory hxs hidle hmake)
      have hgrown : tree.Grown (tree.makeChain (m :: above m)).2 :=
        (makes_makeChain hwf (List.Subset.refl _)).grown
      obtain ⟨p, hlead, -, hp, hleaf⟩ := hmade.reached hok
      rw [above_below hm hxs hidle]
      rcases makeChain_of_notFound hmake (m :: above m) with ⟨e, herror, -⟩ |
        ⟨middle, hmiddle, hagain⟩
      · cases hok.symm.trans herror
      · -- The directory above is new and empty, so that nothing is in the way of the next one.
        rw [hmiddle] at hgrown hp hleaf
        have hwalk := (walk_append_idles hxs).mpr (hlead.walk hgrown hp)
        have hname : IsName name := ⟨hidle, fun h ↦ hup (h ▸ hlast), hshort name hlast⟩
        have hentry : middle.entryOf .alreadyExists (m ++ xs ++ [name]) = .ok (p ++ [name]) :=
          entryOf_eq hfits (splitLast?_below hidle) hwalk hname
        rcases hagain with ⟨other, -, heq⟩ | ⟨e, hfails, -⟩
        · rw [heq]
        · cases hfails.symm.trans (makeDirectory_of_entryOf hentry (hleaf name))

/-! ## Above a route -/

/-- What is made above a route is made by making one directory with those above it, if there is one.
-/
theorem above_cases (r : Route) : above r = [] ∨ ∃ m xs name, trimmed r = m ++ xs ++ [name] ∧
    Clean m ∧ xs.all isIdle = true ∧ isIdle name = false ∧ above r = m :: above m := by
  rw [← above_trimmed]
  have hclean := clean_trimmed r
  generalize trimmed r = s at hclean
  cases hclean with
  | root => exact .inl rfl
  | @under m xs name hm hxs hidle =>
    exact .inr ⟨m, xs, name, rfl, hm, hxs, hidle, above_below hm hxs hidle⟩

theorem makeParents_of_not_lacks (h : ¬tree.Lacks r) : (tree.makeParents r).2 = tree := by
  rw [makeParents]
  rcases above_cases r with habove | ⟨m, xs, name, htrimmed, hm, hxs, hidle, habove⟩
  · rw [habove]
    rfl
  · by_cases hfits : m.Fits
    · refine makeChain_of_not_makeable fun s hs hmakeable ↦ h ⟨⟨s, hs, hmakeable⟩, ?_⟩
      rw [habove]
      exact List.forall_mem_cons.mpr ⟨hfits, fun t ht ↦ hfits.above ht⟩
    · rw [habove]
      exact makeChain_of_not_fits hfits

/-- Something is made where a directory is lacking. -/
theorem Lacks.exists_new (h : tree.Lacks r) :
    ∃ p, tree.node? p = none ∧ (tree.makeParents r).2.node? p ≠ none := by
  obtain ⟨⟨s, hs, hmakeable⟩, hfits⟩ := h
  rw [makeParents]
  rcases above_cases r with habove | ⟨m, xs, name, htrimmed, hm, hxs, hidle, habove⟩
  · rw [habove] at hs
    exact absurd hs List.not_mem_nil
  · rw [habove] at hs hfits ⊢
    exact exists_new_of_makeable hm (hfits m List.mem_cons_self) ⟨s, hs, hmakeable⟩

theorem Lacks.locate (hwf : tree.WellFormed) (hup : ".." ∉ r) (h : tree.Lacks r) (hr : r.Nameable) :
    (tree.makeParents r).1 = .ok () ∧
      ∃ place, (tree.makeParents r).2.locate r = .ok place ∧ place.IsBare := by
  obtain ⟨last, hlast, hidle⟩ := hr.ends
  have hnew := h.exists_new
  rw [makeParents] at hnew ⊢
  rcases above_cases r with habove | ⟨m, xs, name, htrimmed, hm, hxs, hname, habove⟩
  · obtain ⟨⟨s, hs, -⟩, -⟩ := h
    rw [habove] at hs
    exact absurd hs List.not_mem_nil
  · have hroute : r = m ++ xs ++ [name] := by
      rw [← htrimmed, trimmed_eq]
      rintro other hother
      obtain rfl := Option.some.inj (hlast.symm.trans hother)
      exact hidle
    subst hroute
    have hmem : ∀ field ∈ m, field ∈ m ++ xs ++ [name] := fun field hfield ↦
      List.mem_append_left _ (List.mem_append_left _ hfield)
    have hend : name ∈ m ++ xs ++ [name] := List.mem_append_right _ (List.mem_singleton_self name)
    rw [habove] at hnew ⊢
    have hnot : tree.isDirectory m = false := by
      refine Bool.eq_false_iff.mpr fun hdirectory ↦ ?_
      obtain ⟨p, hnone, hnode⟩ := hnew
      rw [makeChain_of_isDirectory hm hdirectory] at hnode
      exact hnode hnone
    have hmade := madeChain_makeChain hwf hm (fun hup' ↦ hup (hmem _ hup')) hnot
    have hgrown : tree.Grown (tree.makeChain (m :: above m)).2 :=
      (makes_makeChain hwf (List.Subset.refl _)).grown
    have hok : (tree.makeChain (m :: above m)).1 = .ok () :=
      makeChain_of_makeable hwf hm (fun hup' ↦ hup (hmem _ hup'))
        (fits_append (fits_append hr.fits)) (fun field hfield ↦ hr.short field (hmem field hfield))
        (habove ▸ h.makeable)
    obtain ⟨p, hlead, -, hp, hleaf⟩ := hmade.reached hok
    obtain ⟨k, hk⟩ := hlead.exists_walk_append hgrown hp
    refine ⟨hok, .missing p name false, ?_, rfl⟩
    rw [locate_of_fits hr.fits, List.append_assoc, hk _ (Keeps.refl _), walk_idles hxs,
      walk_missing ⟨hname, fun hup' ↦ hup (hup' ▸ hend), hr.short name hend⟩ (hleaf name)]
    rfl

theorem nameable_of_locate (hup : ".." ∉ r) (h : tree.locate r = .ok place) (hbare : place.IsBare) :
    r.Nameable := by
  have hwalk := walk_of_locate h
  refine ⟨fits_of_locate h, fun field hfield ↦ ?_, endsWithName_of_walk hwalk hbare⟩
  cases hidle : isIdle field with
  | true =>
    rw [isIdle, Bool.or_eq_true, beq_iff_eq, beq_iff_eq] at hidle
    rcases hidle with rfl | rfl <;> decide
  | false =>
    -- The walk passes every field that is a name.
    obtain ⟨front, back, hr⟩ := List.append_of_mem hfield
    rw [hr] at hwalk
    obtain ⟨p, hp⟩ := exists_walk_prefix hidle hwalk
    obtain ⟨k, hk⟩ := exists_walk_append hp
    rw [hk tree (Keeps.refl tree)] at hwalk
    exact (isName_of_walk hidle (fun hup' ↦ hup (hup' ▸ hfield)) hwalk).short

end FileTree

end Redline
