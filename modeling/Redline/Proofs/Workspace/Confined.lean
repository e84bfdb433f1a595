import Redline.Proofs.Workspace.Reading

/-!
# Confinement to the root

What is read is in the workspace. What is written is, too, except along the one kind of path that is
never resolved: that of a link to a missing place. Only what exists on the way to such a path is
known to be in the workspace, the writing follows the link, and the file is put where it points to.
-/

namespace Redline

open FileTree Route Text

namespace Workspace

variable {tree : FileTree} {w w' : Workspace} {path content : String} {r : Route} {place : Place}
  {p : TreePath}

/-! ## Inside and outside -/

/-- Outside of the workspace the tree is that of the workspace. -/
def Untouched (w : Workspace) (tree : FileTree) : Prop :=
  ∀ p, w.holds p = false → tree.node? p = w.tree.node? p

/-- A path leads to a place outside of the workspace, whether something stands there or not. -/
def LeadsOut (w : Workspace) (path : String) : Prop :=
  ∃ p, w.holds p = false ∧ ((∃ place, w.tree.locate (w.route path) = .ok place ∧ place.path = p) ∨
    w.tree.Leads (trimmed (w.route path)) p)

/-- What reading or focusing a file comes to is in the workspace. -/
structure ReadsWithin (w : Workspace) (path : String) : Prop where
  /-- The text that is read is that of a file in the workspace. -/
  read : ∀ s, w.readFile path = .ok s → ∃ p, w.tree.realPath (w.route path) = .ok p ∧
    w.holds p = true ∧ w.tree.node? p = some (.file (.text s))
  /-- A file that is focused is in the workspace, and nothing is changed. -/
  focused : ∀ relative w', w.focusOn path = .ok (relative, w') → w'.tree = w.tree ∧
    ∃ p content, w.tree.realPath (w.route path) = .ok p ∧ w.holds p = true ∧
      w.tree.node? p = some (.file content)
  /-- A path that leads out of the workspace is refused. -/
  refused : ∀ p, w.tree.realPath (w.route path) = .ok p → w.holds p = false →
    (∃ e, w.readFile path = .error e) ∧ ∃ e, w.focusOn path = .error e

/-- Writing some paths stays in the workspace. -/
structure WritesWithin (w : Workspace) (paths : List String)
    (answer : Except SurfaceError Unit × Workspace) : Prop where
  /-- Outside of it nothing has changed. -/
  untouched : w.Untouched answer.2.tree
  /-- What has been written is in it. -/
  reached : answer.1 = .ok () → ∀ path ∈ paths,
    ∃ p, answer.2.tree.realPath (w.route path) = .ok p ∧ w.holds p = true
  /-- A path that leads out of it is refused. -/
  refused : ∀ path ∈ paths, w.LeadsOut path → ∃ e, answer.1 = .error e

/-! ## Reading -/

theorem exists_of_focusOn {relative : String} (h : w.focusOn path = .ok (relative, w')) :
    w'.tree = w.tree ∧ ∃ p, w.resolveExisting path = .ok p ∧ w.tree.isFile p = true := by
  simp only [focusOn, bind, Except.bind] at h
  split at h
  next => exact absurd h nofun
  next p hresolve =>
    split at h
    next hfile =>
      obtain ⟨-, rfl⟩ := Prod.mk.inj (Except.ok.inj h)
      exact ⟨rfl, p, hresolve, hfile⟩
    next => exact absurd h nofun

/-- **Reading stays in the workspace.** -/
theorem readsWithin (hwf : w.tree.WellFormed) (path : String) : w.ReadsWithin path := by
  refine ⟨fun s hread ↦ ?_, fun relative w' hfocus ↦ ?_, fun p hpath hout ↦ ⟨?_, ?_⟩⟩
  · obtain ⟨-, p, hpath, hholds, htext⟩ := readFile_iff.mp hread
    exact ⟨p, hpath, hholds, hwf.walk_stands rfl (hwf.walk_of_realPath hpath htext)⟩
  · obtain ⟨htree, p, hresolve, hfile⟩ := exists_of_focusOn hfocus
    obtain ⟨-, hpath, hholds⟩ := resolveExisting_eq_ok.mp hresolve
    obtain ⟨content, hwalk⟩ := hwf.walk_of_isFile hpath hfile
    exact ⟨htree, p, content, hpath, hholds, hwf.walk_stands rfl hwalk⟩
  · cases hread : w.readFile path with
    | error e => exact ⟨e, rfl⟩
    | ok s =>
      obtain ⟨-, q, hq, hholds, -⟩ := readFile_iff.mp hread
      exact absurd (Except.ok.inj (hpath.symm.trans hq)) (ne_of_holds hholds hout)
  · cases hfocus : w.focusOn path with
    | error e => exact ⟨e, rfl⟩
    | ok answer =>
      obtain ⟨-, q, hresolve, -⟩ := exists_of_focusOn hfocus
      obtain ⟨-, hq, hholds⟩ := resolveExisting_eq_ok.mp hresolve
      exact absurd (Except.ok.inj (hpath.symm.trans hq)) (ne_of_holds hholds hout)

/-! ## What stays outside -/

theorem Untouched.refl : w.Untouched w.tree := fun _ _ ↦ rfl

theorem Untouched.set {n : Node} (h : w.Untouched tree) (hp : p ≠ []) (hholds : w.holds p = true) :
    w.Untouched (tree.set p n) := by
  intro q hq
  rw [node?_set hp, if_neg (ne_of_holds hholds hq), h q hq]

theorem Untouched.erase (h : w.Untouched tree) (hp : p ≠ []) (hholds : w.holds p = true) :
    w.Untouched (tree.erase p) := by
  intro q hq
  rw [node?_erase hp, if_neg (ne_of_holds hholds hq), h q hq]

theorem not_leadsOut {content : Content} (hwf : w.tree.WellFormed) (hgrown : w.tree.Grown tree)
    (huntouched : w.Untouched tree)
    (hlocate : tree.locate (w.route path) = .ok (.file p content false))
    (hholds : w.holds p = true) : ¬w.LeadsOut path := by
  have hwalk := walk_of_locate hlocate
  have hframe := hgrown.keeps.frameIn
  -- A place outside would still be where the path leads, as nothing has changed there.
  rintro ⟨q, hout, ⟨place, hplace, rfl⟩ | hlead⟩
  · have hpath := hframe.path_eq (walk_of_locate hplace) hwalk (huntouched _ hout)
    exact ne_of_holds hholds hout hpath.symm
  · rw [trimmed_of_isBare hwalk rfl] at hlead
    generalize w.route path = route at hlead hwalk
    cases hlead with
    | here hthere =>
      exact ne_of_holds hholds hout (hframe.path_eq hthere hwalk (huntouched _ hout)).symm
    | @under m xs name q hlead hm hxs hname hnone =>
      obtain ⟨here, hhere⟩ := exists_walk_prefix hname.not_idle hwalk
      obtain ⟨rfl, hdirectory⟩ :=
        hlead.eq_of_walk hwf hgrown ((walk_append_idles hxs).mp hhere)
      obtain ⟨k, hk⟩ := hlead.exists_walk_append hgrown hdirectory
      rw [List.append_assoc, hk tree (Keeps.refl tree), walk_idles hxs,
        walk_missing hname ((huntouched _ hout).trans hnone)] at hwalk
      exact absurd hwalk nofun

/-! ## Writing one file -/

/-- A path may be written although it leads to a missing place outside of the workspace. -/
def Strays (w : Workspace) (path : String) : Prop :=
  ∃ r parent name, w.resolveWrite path = .ok r ∧
    w.tree.locate r = .ok (.missing parent name false) ∧ w.holds (parent ++ [name]) = false

theorem strays_iff : w.Strays path ↔ (match w.resolveWrite path with
    | .ok r => match w.tree.locate r with
      | .ok (.missing parent name false) => !w.holds (parent ++ [name])
      | _ => false
    | .error _ => false) = true := by
  constructor
  · rintro ⟨r, parent, name, hresolve, hlocate, hout⟩
    simp only [hresolve, hlocate, hout, Bool.not_false]
  · intro h
    split at h
    next r hresolve =>
      split at h
      next parent name hlocate =>
        exact ⟨r, parent, name, hresolve, hlocate, by simpa using h⟩
      next => exact absurd h Bool.false_ne_true
    next => exact absurd h Bool.false_ne_true

instance : Decidable (w.Strays path) := decidable_of_iff _ strays_iff.symm

theorem Strays.dangling (h : w.Strays path) (hwf : w.tree.WellFormed) :
    w.tree.Dangling (w.route path) := by
  obtain ⟨r, parent, name, hresolve, hlocate, hout⟩ := h
  obtain ⟨rfl, hadmits⟩ := of_resolveWrite hresolve
  have hwalk := walk_of_locate hlocate
  have hfits := fits_of_locate hlocate
  have habsent := doesExist_of_missing hlocate
  have hclean := clean_trimmed (w.route path)
  rw [trimmed_of_isBare hwalk rfl] at hclean
  generalize w.route path = route at hadmits hlocate hwalk hfits habsent hclean ⊢
  cases hclean with
  | root => exact absurd hwalk nofun
  | @under m xs last hm hxs hidle =>
    have hup : last ≠ ".." := by
      rintro rfl
      exact hadmits.not_up (List.mem_append_right _ List.mem_cons_self)
    obtain ⟨here, hhere⟩ := exists_walk_prefix hidle hwalk
    obtain ⟨k, hk⟩ := exists_walk_append hhere
    rw [hk w.tree (Keeps.refl w.tree)] at hwalk
    have hname := isName_of_walk hidle hup hwalk
    refine ⟨habsent, here ++ [last], ?_⟩
    -- If the last name were not that of a link, the missing file would stand below the anchor.
    refine Classical.byContradiction fun hlink ↦ ?_
    have hpath : parent ++ [name] = here ++ [last] := path_of_walk hname List.all_nil
      (fun target htarget ↦ hlink ⟨target, entryOf_eq hfits (splitLast?_below hidle) hhere hname,
        htarget⟩) hwalk
    have hstands : w.tree.node? parent = some .directory ∧
        w.tree.node? (parent ++ [name]) = none := hwf.locate_stands hlocate
    rw [hpath] at hout hstands
    have hlead : w.tree.Leads (m ++ xs ++ [last]) (here ++ [last]) :=
      .under (.here ((walk_append_idles hxs).mp hhere)) hm hxs hname hstands.2
    obtain ⟨a, hanchor, hholds⟩ := hadmits.anchored
    rw [holds_below hholds (prefix_of_anchor hwf hlead hfits hanchor)] at hout
    exact absurd hout nofun

namespace Admits

theorem untouched_makeParents (h : w.Admits r) (hwf : w.tree.WellFormed) :
    w.Untouched (w.tree.makeParents r).2 := by
  rcases makeParents_cases hwf h.not_up with hmake | ⟨m, xs, name, -, -, -, habove, hchain⟩
  · rw [hmake]
    exact Untouched.refl
  · intro p hout
    cases hnode : w.tree.node? p with
    | some n => exact (makes_makeParents hwf r).old p n hnode
    | none =>
      refine Decidable.byContradiction fun hnew ↦ ?_
      obtain ⟨s, hs, hfits, hlead⟩ := hchain.new p hnode hnew
      rw [← habove] at hs
      exact ne_of_holds (h.holds_of_leads hwf hs hfits hlead hnode) hout rfl

/-- Where a route leads when the directories above it have been made is in the workspace, or it led
to a missing place before. -/
theorem holds_place (h : w.Admits r) (hwf : w.tree.WellFormed)
    (hparents : w.tree.makeParents r = (.ok (), tree)) (hlocate : tree.locate r = .ok place)
    (hbare : place.IsBare) : w.holds place.path = true ∨
      ∃ parent name, w.tree.locate r = .ok (.missing parent name false) ∧
        place.path = parent ++ [name] := by
  rcases makeParents_cases hwf h.not_up with
    hmake | ⟨m, xs, name, htrimmed, hxs, hidle, habove, hchain⟩
  · obtain ⟨-, rfl⟩ := Prod.mk.inj (hmake.symm.trans hparents)
    match place, hlocate, hbare with
    | .file p content false, hlocate, _ => exact Or.inl (h.holds_of_locate hlocate)
    | .missing parent name false, hlocate, _ => exact Or.inr ⟨parent, name, hlocate, rfl⟩
  · have hm : m ∈ above r := by
      rw [habove]
      exact List.mem_cons_self
    have hwalk := walk_of_locate hlocate
    have hfits := (fits_of_locate hlocate).above hm
    have hgrown := (makes_makeParents hwf r).grown
    rw [hparents] at hchain hgrown
    obtain ⟨p, hlead, hnone, hdirectory, hleaf⟩ := hchain.reached rfl
    rw [trimmed_of_isBare hwalk hbare] at htrimmed
    have hname : name ≠ ".." := by
      rintro rfl
      refine h.not_up ?_
      rw [htrimmed]
      exact List.mem_append_right _ List.mem_cons_self
    -- The directory above the file is new, and the name of the file is still missing there.
    obtain ⟨k, hk⟩ := hlead.exists_walk_append hgrown hdirectory
    rw [htrimmed, List.append_assoc, hk tree (Keeps.refl tree), walk_idles hxs] at hwalk
    have hpath := path_of_walk (isName_of_walk hidle hname hwalk) (List.all_nil)
      (fun target hlink ↦ absurd ((hleaf name).symm.trans hlink) nofun) hwalk
    rw [hpath]
    exact Or.inl (holds_below (h.holds_of_leads hwf hm hfits hlead hnone)
      (List.prefix_append _ _))

end Admits

theorem writeText_grown (w : Workspace) (path content : String) (hwf : w.tree.WellFormed) :
    w.tree.Grown (w.writeText path content).2.tree ∧
      (w.writeText path content).2.root = w.root := by
  rcases w.writeText_spec path content hwf with
    ⟨e, tree, hmakes, hwrite⟩ | ⟨tree, place, hwrites, hwrite⟩
  · rw [hwrite]
    exact ⟨hmakes.grown, rfl⟩
  · rw [hwrite]
    exact ⟨hwrites.grown, rfl⟩

/-- **A write along a path that does not stray stays in the workspace.** -/
theorem writeText_within (hwf : w.tree.WellFormed) (hfree : ¬w.Strays path) (content : String) :
    w.Untouched (w.writeText path content).2.tree ∧
      ((w.writeText path content).1 = .ok () → ∃ p s, w.holds p = true ∧
        (w.writeText path content).2.tree.locate (w.route path) = .ok (.file p s false)) := by
  rcases w.writeText_cases path content with ⟨e, hwrite⟩ |
    ⟨hresolve, ⟨e, hwrite⟩ | ⟨tree, place, hparents, hlocate, hbare, hwrite⟩⟩
  · rw [hwrite]
    exact ⟨Untouched.refl, nofun⟩
  · rw [hwrite]
    exact ⟨(of_resolveWrite hresolve).2.untouched_makeParents hwf, nofun⟩
  · obtain ⟨-, hadmits⟩ := of_resolveWrite hresolve
    have huntouched := hadmits.untouched_makeParents hwf
    have hgrown := (makes_makeParents hwf (w.route path)).grown
    rw [hparents] at huntouched hgrown
    have hholds : w.holds place.path = true := by
      refine Decidable.byContradiction fun hout ↦ ?_
      rcases hadmits.holds_place hwf hparents hlocate hbare with hholds | ⟨parent, name, hmiss, hp⟩
      · exact hout hholds
      · rw [hp] at hout
        exact hfree ⟨_, parent, name, hresolve, hmiss, Bool.eq_false_iff.mpr hout⟩
    rw [hwrite]
    exact ⟨huntouched.set (path_ne_nil (walk_of_locate hlocate) hbare) hholds, fun _ ↦
      ⟨_, _, hholds, locate_set hgrown.wellFormed hlocate hbare⟩⟩

theorem writeText_of_strays (hwf : w.tree.WellFormed) (h : w.Strays path) (content : String) :
    ∃ p w', w.writeText path content = (.ok (), w') ∧ w.holds p = false ∧
      w.tree.node? p = none ∧ w'.tree.node? p = some (.file (.text content)) := by
  obtain ⟨r, parent, name, hresolve, hlocate, hout⟩ := h
  have hstands : w.tree.node? parent = some .directory ∧
      w.tree.node? (parent ++ [name]) = none := hwf.locate_stands hlocate
  have hwrite : w.tree.writeFile r (.text content) =
      .ok (w.tree.set (parent ++ [name]) (.file (.text content))) :=
    writeFile_iff.mpr ⟨_, hlocate, rfl, rfl⟩
  refine ⟨parent ++ [name],
    { w with tree := w.tree.set (parent ++ [name]) (.file (.text content)) }, ?_, hout,
    hstands.2, ?_⟩
  · rw [writeText, hresolve]
    simp only [makeParents_of_locate hlocate, hwrite]
  · rw [node?_set (List.concat_ne_nil _ _), if_pos rfl]

theorem replaceFile_snd : (w.replaceFile path content).2 = (w.writeText path content).2 := by
  rw [replaceFile]
  split
  next hwrite => rw [hwrite]
  next hwrite => rw [hwrite]

theorem replaceFile_eq_ok : (w.replaceFile path content).1 = .ok () ↔
    (w.writeText path content).1 = .ok () := by
  rw [replaceFile]
  split
  next hwrite =>
    rw [hwrite]
    exact ⟨fun _ ↦ rfl, fun _ ↦ rfl⟩
  next hwrite =>
    rw [hwrite]
    simp only [reduceCtorEq]

/-- **Replacing a file stays in the workspace unless its path strays.** -/
theorem writesWithin_replaceFile_iff (hwf : w.tree.WellFormed) (path content : String) :
    w.WritesWithin [path] (w.replaceFile path content) ↔ ¬w.Strays path := by
  constructor
  · intro h hstrays
    obtain ⟨p, w', hwrite, hout, hnone, hnode⟩ := writeText_of_strays hwf hstrays content
    have hsame := h.untouched p hout
    rw [replaceFile_snd, hwrite, hnone] at hsame
    exact absurd (hsame.symm.trans hnode) nofun
  · intro hfree
    obtain ⟨huntouched, hreached⟩ := writeText_within hwf hfree content
    rw [← replaceFile_snd] at huntouched hreached
    rw [← replaceFile_eq_ok] at hreached
    have hgrown := (w.writeText_grown path content hwf).1
    rw [← replaceFile_snd] at hgrown
    refine ⟨huntouched, fun hok ↦ List.forall_mem_singleton.mpr ?_,
      List.forall_mem_singleton.mpr fun hleads ↦ ?_⟩
    · obtain ⟨p, s, hholds, hlocate⟩ := hreached hok
      exact ⟨p, realPath_of_locate_file hlocate, hholds⟩
    · cases hanswer : (w.replaceFile path content).1 with
      | error e => exact ⟨e, rfl⟩
      | ok =>
        obtain ⟨p, s, hholds, hlocate⟩ := hreached hanswer
        exact absurd hleads (not_leadsOut hwf hgrown huntouched hlocate hholds)

end Workspace

end Redline
