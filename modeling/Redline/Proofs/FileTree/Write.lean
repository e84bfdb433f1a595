import Redline.Proofs.FileTree.Grown

/-!
# Writing files

Before a file is written the directories above it are made. The tree grows by these and by nothing
else, also if making them stops on the way. What is made above a route lies above the place to which
the route then leads: from a new directory on there are no links, and a route that does not go up
stays below it. The file is put at that place.
-/

namespace Redline.FileTree

open Route

variable {tree other third result : FileTree} {directories : List Route} {m r xs : Route}
  {here p q : TreePath} {place : Place} {content : Content}

/-! ## Making directories -/

/-- The tree `other` is `tree` with some new directories, to which some of the routes lead. -/
structure Makes (tree : FileTree) (directories : List Route) (other : FileTree) : Prop where
  grown : tree.Grown other
  old : ∀ p n, tree.node? p = some n → other.node? p = some n
  /-- What is new is a directory to which one of the routes leads. -/
  new : ∀ p, tree.node? p = none → other.node? p = none ∨
    other.node? p = some .directory ∧ ∃ m ∈ directories, other.locate m = .ok (.directory p)

theorem Makes.refl (h : tree.WellFormed) : tree.Makes directories tree :=
  ⟨Grown.refl h, fun _ _ hp ↦ hp, fun _ hp ↦ Or.inl hp⟩

theorem Makes.comp (h : tree.Makes directories other) (h' : other.Makes directories third) :
    tree.Makes directories third := by
  refine ⟨h.grown.comp h'.grown, fun p n hp ↦ h'.old p n (h.old p n hp), fun p hp ↦ ?_⟩
  rcases h.new p hp with hnone | ⟨hdirectory, m, hm, hlocate⟩
  · exact h'.new p hnone
  · exact Or.inr ⟨h'.old p _ hdirectory, m, hm, h'.grown.keeps.locate_directory hlocate⟩

theorem exists_of_makeDirectory (h : tree.makeDirectory r = .ok other) :
    ∃ p, tree.entryOf .alreadyExists r = .ok p ∧ tree.node? p = none ∧
      other = tree.set p .directory := by
  simp only [makeDirectory, bind, Except.bind] at h
  cases hentry : tree.entryOf .alreadyExists r with
  | error e =>
    rw [hentry] at h
    exact absurd h nofun
  | ok p =>
    simp only [hentry] at h
    cases hnode : tree.node? p with
    | none =>
      rw [hnode] at h
      exact ⟨p, rfl, hnode, (Except.ok.inj h).symm⟩
    | some n =>
      rw [hnode] at h
      exact absurd h nofun

theorem makes_makeDirectory (hwf : tree.WellFormed) (hm : m ∈ directories)
    (h : tree.makeDirectory m = .ok other) : tree.Makes directories other := by
  obtain ⟨p, hentry, hnone, rfl⟩ := exists_of_makeDirectory h
  obtain ⟨hfits, parent, name, slashes, here, rfl, hslashes, hname, hwalk, rfl⟩ :=
    exists_of_entryOf hentry
  have hne : here ++ [name] ≠ [] := List.concat_ne_nil _ _
  have hhere : tree.node? here = some .directory := hwf.walk_stands rfl hwalk
  have hgrown : tree.Grown (tree.set (here ++ [name]) .directory) :=
    (Grown.refl hwf).set_of_none hhere hnone nofun
  have hnode : (tree.set (here ++ [name]) .directory).node? (here ++ [name]) = some .directory := by
    rw [node?_set hne, if_pos rfl]
  have hidles : slashes.all isIdle = true := by
    rw [List.all_eq_true] at hslashes ⊢
    intro slash hslash
    rw [isIdle, hslashes slash hslash, Bool.true_or]
  refine ⟨hgrown, fun q n hq ↦ ?_, fun q hq ↦ ?_⟩
  · rw [node?_set hne, if_neg, hq]
    rintro rfl
    exact absurd (hq.symm.trans hnone) (Option.some_ne_none n)
  · by_cases heq : q = here ++ [name]
    · subst heq
      refine Or.inr ⟨hnode, _, hm, ?_⟩
      obtain ⟨k, hk⟩ := exists_walk_append hwalk
      rw [locate_of_fits hfits, hk _ hgrown.keeps, walk_directory hname hnode,
        walk_all_idle hidles]
    · rw [node?_set hne, if_neg heq]
      exact Or.inl hq

theorem makes_makeChain (hwf : tree.WellFormed) {chain : List Route} (h : chain ⊆ directories) :
    tree.Makes directories (tree.makeChain chain).2 := by
  induction chain with
  | nil => exact Makes.refl hwf
  | cons m chain ih =>
    have hm : m ∈ directories := h List.mem_cons_self
    have habove := ih fun s hs ↦ h (List.mem_cons_of_mem m hs)
    unfold makeChain
    split
    next other hmake => exact makes_makeDirectory hwf hm hmake
    next hmake =>
      split
      next e other hrest =>
        rw [hrest] at habove
        exact habove
      next other hrest =>
        rw [hrest] at habove
        split
        next third hmake' =>
          exact habove.comp (makes_makeDirectory habove.grown.wellFormed hm hmake')
        next e hmake' => split <;> exact habove
    next e hne hmake => split <;> exact Makes.refl hwf

theorem makes_makeParents (hwf : tree.WellFormed) (r : Route) :
    tree.Makes (above r) (tree.makeParents r).2 :=
  makes_makeChain hwf (List.Subset.refl _)

/-! ## Where they lie -/

/-- Where there are no links below a directory, a walk that does not go up stays below it. -/
theorem Walks.prefix_path {k : Nat} (h : tree.Walks k here xs place) (hup : ".." ∉ xs)
    (hlinks : ∀ q target, here <+: q → tree.node? q ≠ some (.link target)) :
    here <+: place.path := by
  induction h with
  | nil => exact List.prefix_refl _
  | idle _ _ ih => exact ih (fun hmem ↦ hup (List.mem_cons_of_mem _ hmem)) hlinks
  | up => exact absurd List.mem_cons_self hup
  | @directory k here name rest place _ _ _ ih =>
    have hbelow : here <+: here ++ [name] := List.prefix_append _ _
    refine hbelow.trans (ih (fun hmem ↦ hup (List.mem_cons_of_mem _ hmem)) fun q target hq ↦ ?_)
    exact hlinks q target (hbelow.trans hq)
  | file => exact List.prefix_append _ _
  | missing => exact List.prefix_append _ _
  | link _ hnode _ => exact absurd hnode (hlinks _ _ (List.prefix_append _ _))

theorem WellFormed.node?_eq_none (h : tree.WellFormed) (hp : tree.node? p = none) (hq : p <+: q) :
    tree.node? q = none := by
  obtain ⟨names, rfl⟩ := hq
  induction names generalizing p with
  | nil => rwa [List.append_nil]
  | cons name names ih =>
    rw [← List.singleton_append, ← List.append_assoc]
    exact ih (h.child_eq_none (by rw [hp]; exact nofun))

/-- What is new above a route lies above the place to which the route leads. -/
theorem Makes.prefix_path (h : tree.Makes (above r) other) (hwf : tree.WellFormed) (hup : ".." ∉ r)
    (hlocate : other.locate r = .ok place) (hnone : tree.node? p = none)
    (hnode : other.node? p ≠ none) : other.node? p = some .directory ∧ p <+: place.path := by
  rcases h.new p hnone with hmissing | ⟨hdirectory, m, hm, hm'⟩
  · exact absurd hmissing hnode
  obtain ⟨-, ⟨rest, rfl⟩, -⟩ := of_mem_above hm
  obtain ⟨k, hk⟩ := exists_walk_append (walk_of_locate hm')
  have hwalk := walk_of_locate hlocate
  rw [hk other (Keeps.refl other), walk_iff] at hwalk
  refine ⟨hdirectory, hwalk.prefix_path (fun hmem ↦ hup (List.mem_append_right _ hmem)) ?_⟩
  intro q target hq hlink
  have hbefore := h.grown.link q target hlink
  rw [hwf.node?_eq_none hnone hq] at hbefore
  exact absurd hbefore nofun

/-! ## Writing a file -/

theorem endsWithSlash_eq_false {k : Nat} {here : TreePath} (h : tree.walk k here r = .ok place)
    (hbare : place.IsBare) : r.endsWithSlash = false := by
  rw [endsWithSlash, beq_eq_false_iff_ne]
  exact fun hslash ↦ absurd (not_idle_of_walk h hbare hslash) (by decide)

theorem writeFile_iff : tree.writeFile r content = .ok result ↔
    ∃ place, tree.locate r = .ok place ∧ place.IsBare ∧
      result = tree.set place.path (.file content) := by
  rw [writeFile]
  by_cases hslash : r.endsWithSlash = true
  · rw [if_pos hslash]
    constructor
    · intro h
      cases hdirectory : tree.directoryOf r with
      | error e =>
        rw [hdirectory] at h
        exact absurd h nofun
      | ok here =>
        rw [hdirectory] at h
        exact absurd h nofun
    · rintro ⟨place, hlocate, hbare, -⟩
      rw [endsWithSlash_eq_false (walk_of_locate hlocate) hbare] at hslash
      exact absurd hslash Bool.false_ne_true
  · rw [if_neg hslash]
    cases hlocate : tree.locate r with
    | error e =>
      constructor
      · exact fun h ↦ absurd h nofun
      · rintro ⟨place, hplace, -⟩
        exact absurd hplace nofun
    | ok place =>
      constructor
      · intro h
        refine ⟨place, rfl, ?_⟩
        match place, h with
        | .file p c false, h => exact ⟨rfl, (Except.ok.inj h).symm⟩
        | .missing parent name false, h => exact ⟨rfl, (Except.ok.inj h).symm⟩
      · rintro ⟨place', hplace, hbare, rfl⟩
        obtain rfl := Except.ok.inj hplace
        match place, hbare with
        | .file p c false, _ => rfl
        | .missing parent name false, _ => rfl

theorem Grown.set_place (h : tree.Grown other) (hs : other.Stands place) (hbare : place.IsBare) :
    tree.Grown (other.set place.path (.file content)) := by
  match place, hs, hbare with
  | .file p c false, hs, _ => exact h.set_of_file hs
  | .missing parent name false, hs, _ => exact h.set_of_none hs.1 hs.2 nofun

theorem locate_set (hwf : tree.WellFormed) (hlocate : tree.locate r = .ok place)
    (hbare : place.IsBare) :
    (tree.set place.path (.file content)).locate r = .ok (.file place.path content false) := by
  have hs := hwf.locate_stands hlocate
  have hnode : (tree.set place.path (.file content)).node? place.path = some (.file content) := by
    rw [node?_set (path_ne_nil (walk_of_locate hlocate) hbare), if_pos rfl]
  have hgrown : tree.Grown (tree.set place.path (.file content)) :=
    (Grown.refl hwf).set_place hs hbare
  match place, hlocate, hbare with
  | .file p c false, hlocate, _ =>
    exact hgrown.keeps.locate_eq_file hgrown.wellFormed hlocate hnode
  | .missing parent name false, hlocate, _ =>
    rw [locate_of_fits (fits_of_locate hlocate)]
    exact hgrown.keeps.walk_missing (walk_of_locate hlocate) hnode

/-- A file can be written along a route once the directories above it have been made, which leads
to the tree `middle`: the route then leads to the place where the file is put. -/
structure WritesTo (tree : FileTree) (r : Route) (middle : FileTree) (place : Place) : Prop where
  not_up : ".." ∉ r
  /-- Directories are made above it. -/
  makes : tree.Makes (Route.above r) middle
  /-- Then it leads to the place. -/
  locate : middle.locate r = .ok place
  /-- That is the place of a file. -/
  bare : place.IsBare

namespace WritesTo

variable {middle : FileTree}

theorem node?_set (h : tree.WritesTo r middle place) (p : TreePath) :
    (middle.set place.path (.file content)).node? p =
      if p = place.path then some (.file content) else middle.node? p :=
  FileTree.node?_set (path_ne_nil (walk_of_locate h.locate) h.bare)

theorem grown (h : tree.WritesTo r middle place) :
    tree.Grown (middle.set place.path (.file content)) :=
  h.makes.grown.set_place (h.makes.grown.wellFormed.locate_stands h.locate) h.bare

theorem locate_set (h : tree.WritesTo r middle place) :
    (middle.set place.path (.file content)).locate r = .ok (.file place.path content false) :=
  FileTree.locate_set h.makes.grown.wellFormed h.locate h.bare

theorem old {n : Node} (h : tree.WritesTo r middle place) (hne : p ≠ place.path)
    (hp : tree.node? p = some n) :
    (middle.set place.path (.file content)).node? p = some n := by
  rw [h.node?_set, if_neg hne, h.makes.old p n hp]

theorem new (h : tree.WritesTo r middle place) (hwf : tree.WellFormed) (hne : p ≠ place.path)
    (hp : tree.node? p = none) :
    (middle.set place.path (.file content)).node? p = none ∨
      (middle.set place.path (.file content)).node? p = some .directory ∧ p <+: place.path := by
  rw [h.node?_set, if_neg hne]
  cases hnode : middle.node? p with
  | none => exact Or.inl rfl
  | some n =>
    obtain ⟨hdirectory, hpre⟩ := h.makes.prefix_path hwf h.not_up h.locate hp
      (by rw [hnode]; exact nofun)
    exact Or.inr ⟨hnode.symm.trans hdirectory, hpre⟩

end WritesTo

end Redline.FileTree
