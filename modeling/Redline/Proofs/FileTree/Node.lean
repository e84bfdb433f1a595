import Redline.FileTree.Basic

/-!
# What stands in a tree

Trees are compared by what stands at each place. A tree is well formed if whatever stands in it
stands in a directory.

One tree *keeps* another if it has every directory and every link of the other, and a file wherever
the other has one. Contents of files may differ, and there may be more. A walk that ends in the one
ends in the other at the same place, which is why paths that lead somewhere can be followed again
after other files have been written. For walks that end at a directory it is enough that directories
and links are the same, which make up the *frame* of a tree.
-/

namespace Redline.FileTree

variable {tree other third : FileTree} {p q : TreePath} {n : Node} {name : String}

/-! ## Setting and erasing -/

@[simp] theorem node?_nil : tree.node? [] = some .directory := rfl

theorem node?_of_ne_nil (hq : q ≠ []) : tree.node? q = tree.entries.lookup q := by
  rw [node?, if_neg]
  rwa [List.isEmpty_iff]

theorem lookup_cons_eq_ite {m : Node} {rest : List (TreePath × Node)} :
    ((p, m) :: rest).lookup q = if q = p then some m else rest.lookup q := by
  rw [List.lookup_cons]
  by_cases h : q = p
  · rw [if_pos h, beq_iff_eq.mpr h]
  · rw [if_neg h, beq_eq_false_iff_ne.mpr h]

theorem lookup_setEntry (entries : List (TreePath × Node)) :
    (setEntry p n entries).lookup q = if q = p then some n else entries.lookup q := by
  induction entries with
  | nil => rw [setEntry, lookup_cons_eq_ite]
  | cons entry rest ih =>
    obtain ⟨r, m⟩ := entry
    rw [setEntry]
    by_cases hr : r = p
    · subst hr
      rw [if_pos rfl, lookup_cons_eq_ite, lookup_cons_eq_ite]
      by_cases h : q = r
      · rw [if_pos h, if_pos h]
      · rw [if_neg h, if_neg h, if_neg h]
    · rw [if_neg hr, lookup_cons_eq_ite, lookup_cons_eq_ite, ih]
      by_cases h : q = r
      · subst h
        rw [if_pos rfl, if_neg hr, if_pos rfl]
      · rw [if_neg h, if_neg h]

theorem node?_set (hp : p ≠ []) :
    (tree.set p n).node? q = if q = p then some n else tree.node? q := by
  by_cases hq : q = []
  · subst hq
    rw [node?_nil, node?_nil, if_neg (Ne.symm hp)]
  · rw [node?_of_ne_nil hq, node?_of_ne_nil hq]
    exact lookup_setEntry tree.entries

theorem lookup_filter_ne (entries : List (TreePath × Node)) :
    (entries.filter fun (r, _) ↦ r != p).lookup q = if q = p then none else entries.lookup q := by
  induction entries with
  | nil => exact (ite_self _).symm
  | cons entry rest ih =>
    obtain ⟨r, m⟩ := entry
    rw [List.filter_cons, lookup_cons_eq_ite]
    by_cases hr : r = p
    · subst hr
      rw [if_neg (by simp), ih]
      by_cases h : q = r
      · rw [if_pos h, if_pos h]
      · rw [if_neg h, if_neg h, if_neg h]
    · rw [if_pos (by simpa using hr), lookup_cons_eq_ite, ih]
      by_cases h : q = r
      · subst h
        rw [if_pos rfl, if_neg hr, if_pos rfl]
      · rw [if_neg h, if_neg h]

theorem node?_erase (hp : p ≠ []) :
    (tree.erase p).node? q = if q = p then none else tree.node? q := by
  by_cases hq : q = []
  · subst hq
    rw [node?_nil, node?_nil, if_neg (Ne.symm hp)]
  · rw [node?_of_ne_nil hq, node?_of_ne_nil hq]
    exact lookup_filter_ne tree.entries

/-! ## Well-formed trees -/

/-- Whatever stands in the tree stands in a directory. -/
def WellFormed (tree : FileTree) : Prop :=
  ∀ p name, tree.node? (p ++ [name]) ≠ none → tree.node? p = some .directory

theorem WellFormed.parent (h : tree.WellFormed) (hn : tree.node? (p ++ [name]) = some n) :
    tree.node? p = some .directory := h p name (by rw [hn]; exact Option.some_ne_none n)

theorem WellFormed.child_eq_none (h : tree.WellFormed) (hp : tree.node? p ≠ some .directory) :
    tree.node? (p ++ [name]) = none :=
  Decidable.byContradiction fun hn ↦ hp (h p name hn)

theorem exists_lookup_of_mem {entries : List (TreePath × Node)} (h : (p, n) ∈ entries) :
    entries.lookup p ≠ none := by
  intro hnone
  rw [List.lookup_eq_none_iff] at hnone
  have := hnone (p, n) h
  simp at this

theorem mem_of_lookup {entries : List (TreePath × Node)} (h : entries.lookup p = some n) :
    (p, n) ∈ entries := by
  obtain ⟨front, back, rfl, -⟩ := List.lookup_eq_some_iff.mp h
  exact List.mem_append_right _ List.mem_cons_self

theorem wellFormed_iff : tree.WellFormed ↔
    ∀ entry ∈ tree.entries, entry.1 = [] ∨ tree.node? entry.1.dropLast = some .directory := by
  constructor
  · rintro h ⟨p, n⟩ hentry
    rcases List.eq_nil_or_concat p with rfl | ⟨q, name, rfl⟩
    · exact Or.inl rfl
    · rw [List.concat_eq_append] at hentry ⊢
      have hne : q ++ [name] ≠ [] := List.concat_ne_nil _ _
      rw [List.dropLast_concat]
      refine Or.inr (h q name ?_)
      rw [node?_of_ne_nil hne]
      exact exists_lookup_of_mem hentry
  · intro h p name hnode
    obtain ⟨n, hn⟩ := Option.ne_none_iff_exists'.mp hnode
    have hne : p ++ [name] ≠ [] := List.concat_ne_nil _ _
    rw [node?_of_ne_nil hne] at hn
    rcases h _ (mem_of_lookup hn) with hnil | hparent
    · exact absurd hnil hne
    · rwa [List.dropLast_concat] at hparent

instance : Decidable tree.WellFormed := decidable_of_iff _ wellFormed_iff.symm

theorem isLeaf_iff : tree.isLeaf p = true ↔ ∀ name, tree.node? (p ++ [name]) = none := by
  have hne : ∀ name, p ++ [name] ≠ [] :=
    fun name ↦ List.concat_ne_nil _ _
  rw [isLeaf, List.all_eq_true]
  constructor
  · intro h name
    refine Decidable.byContradiction fun hn ↦ ?_
    obtain ⟨m, hm⟩ := Option.ne_none_iff_exists'.mp hn
    rw [node?_of_ne_nil (hne name)] at hm
    have hentry := h _ (mem_of_lookup hm)
    simp at hentry
  · rintro h ⟨q, m⟩ hentry
    by_cases hq : q = []
    · simp [hq]
    · simp only [Bool.or_eq_true, bne_iff_ne]
      refine Or.inr fun hdrop ↦ ?_
      have hsplit : p ++ [q.getLast hq] = q := hdrop ▸ List.dropLast_concat_getLast hq
      have hnone := h (q.getLast hq)
      rw [hsplit, node?_of_ne_nil hq] at hnone
      exact exists_lookup_of_mem hentry hnone

/-- Setting a place in a directory keeps a tree well formed, unless a directory is replaced. -/
theorem WellFormed.set (h : tree.WellFormed) (hparent : tree.node? p = some .directory)
    (hnode : tree.node? (p ++ [name]) ≠ some .directory) :
    (tree.set (p ++ [name]) n).WellFormed := by
  have hne : p ++ [name] ≠ [] := List.concat_ne_nil _ _
  intro q other hq
  rw [node?_set hne] at hq ⊢
  by_cases heq : q ++ [other] = p ++ [name]
  · obtain ⟨rfl, -⟩ := List.append_inj' heq rfl
    rw [if_neg (by simp)]
    exact hparent
  · rw [if_neg heq] at hq
    have hdirectory := h q other hq
    have hqp : q ≠ p ++ [name] := by
      rintro rfl
      exact hnode hdirectory
    rwa [if_neg hqp]

theorem WellFormed.erase (h : tree.WellFormed) (hp : p ≠ []) (hleaf : tree.isLeaf p = true) :
    (tree.erase p).WellFormed := by
  intro q name hq
  rw [node?_erase hp] at hq ⊢
  by_cases heq : q ++ [name] = p
  · rw [if_pos heq] at hq
    exact absurd rfl hq
  · rw [if_neg heq] at hq
    by_cases hqp : q = p
    · subst hqp
      exact absurd (isLeaf_iff.mp hleaf name) hq
    · rw [if_neg hqp]
      exact h q name hq

/-! ## Trees that keep others -/

/-- The tree `other` has what `tree` has, up to the contents of files. -/
structure Keeps (tree other : FileTree) : Prop where
  directory : ∀ p, tree.node? p = some .directory → other.node? p = some .directory
  /-- Links stay and lead where they led. -/
  link : ∀ p target, tree.node? p = some (.link target) → other.node? p = some (.link target)
  file : ∀ p content, tree.node? p = some (.file content) →
    ∃ content', other.node? p = some (.file content')

namespace Keeps

theorem refl (tree : FileTree) : tree.Keeps tree :=
  ⟨fun _ h ↦ h, fun _ _ h ↦ h, fun _ content h ↦ ⟨content, h⟩⟩

theorem comp (h : tree.Keeps other) (h' : other.Keeps third) : tree.Keeps third where
  directory p hp := h'.directory p (h.directory p hp)
  link p target hp := h'.link p target (h.link p target hp)
  file p content hp := by
    obtain ⟨content', hp'⟩ := h.file p content hp
    exact h'.file p content' hp'

theorem set_of_none (hp : p ≠ []) (hnone : tree.node? p = none) : tree.Keeps (tree.set p n) := by
  have hother : ∀ q m, tree.node? q = some m → (tree.set p n).node? q = some m := by
    intro q m hq
    rw [node?_set hp, if_neg, hq]
    rintro rfl
    rw [hnone] at hq
    exact absurd hq nofun
  exact ⟨fun q hq ↦ hother q _ hq, fun q _ hq ↦ hother q _ hq,
    fun q content hq ↦ ⟨content, hother q _ hq⟩⟩

theorem set_of_file {content content' : Content} (hp : p ≠ [])
    (hfile : tree.node? p = some (.file content)) : tree.Keeps (tree.set p (.file content')) := by
  have hother : ∀ q m, tree.node? q = some m → (∀ c, m ≠ .file c) →
      (tree.set p (.file content')).node? q = some m := by
    intro q m hq hm
    rw [node?_set hp, if_neg, hq]
    rintro rfl
    rw [hfile] at hq
    exact hm content (Option.some.inj hq).symm
  refine ⟨fun q hq ↦ hother q _ hq nofun, fun q _ hq ↦ hother q _ hq nofun, fun q c hq ↦ ?_⟩
  rw [node?_set hp]
  by_cases hqp : q = p
  · exact ⟨content', if_pos hqp⟩
  · exact ⟨c, by rw [if_neg hqp, hq]⟩

theorem of_set_file {content content' : Content} (hfile : tree.node? p = some (.file content)) :
    (tree.set p (.file content')).Keeps tree := by
  have hne : p ≠ [] := by
    rintro rfl
    exact absurd hfile nofun
  have hother : ∀ q m, (tree.set p (.file content')).node? q = some m → (∀ c, m ≠ .file c) →
      tree.node? q = some m := by
    intro q m hq hm
    rw [node?_set hne] at hq
    by_cases hqp : q = p
    · rw [if_pos hqp] at hq
      exact absurd (Option.some.inj hq).symm (hm content')
    · rwa [if_neg hqp] at hq
  refine ⟨fun q hq ↦ hother q _ hq nofun, fun q _ hq ↦ hother q _ hq nofun, fun q c hq ↦ ?_⟩
  by_cases hqp : q = p
  · exact ⟨content, by rw [hqp, hfile]⟩
  · rw [node?_set hne, if_neg hqp] at hq
    exact ⟨c, hq⟩

theorem of_erase (hp : p ≠ []) : (tree.erase p).Keeps tree := by
  have hother : ∀ q m, (tree.erase p).node? q = some m → tree.node? q = some m := by
    intro q m hq
    rw [node?_erase hp] at hq
    by_cases hqp : q = p
    · rw [if_pos hqp] at hq
      exact absurd hq nofun
    · rwa [if_neg hqp] at hq
  exact ⟨fun q hq ↦ hother q _ hq, fun q _ hq ↦ hother q _ hq,
    fun q content hq ↦ ⟨content, hother q _ hq⟩⟩

end Keeps

/-! ## Frames -/

/-- The *frame* of a tree, its directories and links, is part of that of another. -/
structure FrameIn (tree other : FileTree) : Prop where
  directory : ∀ p, tree.node? p = some .directory → other.node? p = some .directory
  /-- Its links are links there, and lead where they lead here. -/
  link : ∀ p target, tree.node? p = some (.link target) → other.node? p = some (.link target)

theorem Keeps.frameIn (h : tree.Keeps other) : tree.FrameIn other := ⟨h.directory, h.link⟩

namespace FrameIn

theorem set_file {content : Content} (h : tree.FrameIn other) (hp : p ≠ []) :
    (tree.set p (.file content)).FrameIn other := by
  have hbefore : ∀ q m, (tree.set p (.file content)).node? q = some m → m ≠ .file content →
      tree.node? q = some m := by
    intro q m hq hm
    rw [node?_set hp] at hq
    by_cases hqp : q = p
    · rw [if_pos hqp] at hq
      exact absurd (Option.some.inj hq).symm hm
    · rwa [if_neg hqp] at hq
  exact ⟨fun q hq ↦ h.directory q (hbefore q _ hq nofun),
    fun q target hq ↦ h.link q target (hbefore q _ hq nofun)⟩

theorem erase (h : tree.FrameIn other) (hp : p ≠ []) : (tree.erase p).FrameIn other := by
  have herase : (tree.erase p).FrameIn tree := (Keeps.of_erase hp).frameIn
  exact ⟨fun q hq ↦ h.directory q (herase.directory q hq),
    fun q target hq ↦ h.link q target (herase.link q target hq)⟩

end FrameIn

end Redline.FileTree
