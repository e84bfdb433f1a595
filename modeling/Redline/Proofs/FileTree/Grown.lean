import Redline.Proofs.FileTree.Entry

/-!
# Where routes lead in trees that have grown

A tree has *grown* from another if it keeps that one, has no links that the other has not, and is
well formed. Such trees come about when files are written and directories made, and also when some
of these are removed again.

A route that leads to no file or directory yet may lead to one in a grown tree, and where it leads
is settled before: at the directory of the last route above it that leads somewhere, the names that
follow are put together. This fails only if a link is in the way. A link that leads nowhere may come
to lead to a place of its own, and then the route leads on from there.
-/

namespace Redline.FileTree

open Route

variable {tree other third : FileTree} {route m r xs ys : Route} {p q : TreePath} {name : String}
  {place : Place}

/-! ## Grown trees -/

/-- A tree that keeps another, without further links. -/
structure Grown (tree other : FileTree) : Prop where
  keeps : tree.Keeps other
  /-- A link was there before. -/
  link : ∀ p target, other.node? p = some (.link target) → tree.node? p = some (.link target)
  wellFormed : other.WellFormed

namespace Grown

theorem refl (h : tree.WellFormed) : tree.Grown tree := ⟨Keeps.refl tree, fun _ _ h ↦ h, h⟩

theorem comp (h : tree.Grown other) (h' : other.Grown third) : tree.Grown third :=
  ⟨h.keeps.comp h'.keeps, fun p target hp ↦ h.link p target (h'.link p target hp), h'.wellFormed⟩

theorem node?_eq_none (h : tree.Grown other) (hp : other.node? p = none) : tree.node? p = none := by
  cases hnode : tree.node? p with
  | none => rfl
  | some n =>
    cases n with
    | directory => exact absurd (hp.symm.trans (h.keeps.directory p hnode)) nofun
    | file content =>
      obtain ⟨content', hfile⟩ := h.keeps.file p content hnode
      exact absurd (hp.symm.trans hfile) nofun
    | link target => exact absurd (hp.symm.trans (h.keeps.link p target hnode)) nofun

theorem set_of_none {n : Node} (h : tree.Grown other) (hparent : other.node? p = some .directory)
    (hnone : other.node? (p ++ [name]) = none) (hlink : ∀ target, n ≠ .link target) :
    tree.Grown (other.set (p ++ [name]) n) := by
  have hne : p ++ [name] ≠ [] := List.concat_ne_nil _ _
  refine ⟨h.keeps.comp (Keeps.set_of_none hne hnone), fun q target hq ↦ ?_, ?_⟩
  · rw [node?_set hne] at hq
    by_cases heq : q = p ++ [name]
    · rw [if_pos heq] at hq
      exact absurd (Option.some.inj hq) (hlink target)
    · rw [if_neg heq] at hq
      exact h.link q target hq
  · exact h.wellFormed.set hparent (by rw [hnone]; exact nofun)

theorem set_of_file {content content' : Content} (h : tree.Grown other)
    (hfile : other.node? p = some (.file content)) :
    tree.Grown (other.set p (.file content')) := by
  rcases List.eq_nil_or_concat p with rfl | ⟨q, name, rfl⟩
  · exact absurd hfile nofun
  rw [List.concat_eq_append] at hfile ⊢
  have hne : q ++ [name] ≠ [] := List.concat_ne_nil _ _
  refine ⟨h.keeps.comp (Keeps.set_of_file hne hfile), fun r target hr ↦ ?_, ?_⟩
  · rw [node?_set hne] at hr
    by_cases heq : r = q ++ [name]
    · rw [if_pos heq] at hr
      exact absurd (Option.some.inj hr) nofun
    · rw [if_neg heq] at hr
      exact h.link r target hr
  · exact h.wellFormed.set (h.wellFormed.parent hfile) (by rw [hfile]; exact nofun)

theorem erase (h : tree.Grown other) (hnone : tree.node? p = none)
    (hleaf : other.isLeaf p = true) : tree.Grown (other.erase p) := by
  have hne : p ≠ [] := by
    rintro rfl
    exact absurd hnone nofun
  have hstays : ∀ q, tree.node? q ≠ none → (other.erase p).node? q = other.node? q := by
    intro q hq
    rw [node?_erase hne, if_neg]
    rintro rfl
    exact hq hnone
  refine ⟨⟨fun q hq ↦ ?_, fun q target hq ↦ ?_, fun q content hq ↦ ?_⟩, fun q target hq ↦ ?_,
    h.wellFormed.erase hne hleaf⟩
  · rw [hstays q (by rw [hq]; exact nofun)]
    exact h.keeps.directory q hq
  · rw [hstays q (by rw [hq]; exact nofun)]
    exact h.keeps.link q target hq
  · rw [hstays q (by rw [hq]; exact nofun)]
    exact h.keeps.file q content hq
  · exact h.link q target ((Keeps.of_erase hne).link q target hq)

end Grown

theorem exists_walk_above (h : tree.walk linkLimit [] r = .ok place) (hm : m ∈ above r) :
    ∃ p, tree.walk linkLimit [] m = .ok (.directory p) := by
  obtain ⟨ys, hr, hys⟩ := exists_trimmed_append r
  have hclean := clean_trimmed r
  rw [← above_trimmed] at hm
  generalize trimmed r = s at hr hclean hm
  subst hr
  induction hclean generalizing ys place with
  | root => exact absurd hm List.not_mem_nil
  | @under m' xs name hm' hxs hname ih =>
    rw [List.append_assoc, List.singleton_append] at h
    obtain ⟨q, hq⟩ := exists_walk_prefix hname h
    have hq' := (walk_append_idles hxs).mp hq
    rw [above_below hm' hxs hname] at hm
    rcases List.mem_cons.mp hm with rfl | hm
    · exact ⟨q, hq'⟩
    · have hwalk : tree.walk linkLimit [] (m' ++ []) = .ok (.directory q) := by
        rwa [List.append_nil]
      exact ih [] rfl hm hwalk

/-! ## Where a route leads -/

/-- A route leads to a directory, or to a place below the directory to which the route above it
leads, where nothing stands yet. -/
inductive Leads (tree : FileTree) : Route → TreePath → Prop
  | here {route : Route} {p : TreePath} :
    tree.walk linkLimit [] route = .ok (.directory p) → Leads tree route p
  | under {m xs : Route} {name : String} {p : TreePath} : Leads tree m p → Clean m →
    xs.all isIdle = true → IsName name → tree.node? (p ++ [name]) = none →
    Leads tree (m ++ xs ++ [name]) (p ++ [name])

namespace Leads

/-- Once there is a directory where a route leads, the route leads there, and on from there. -/
theorem exists_walk_append (h : tree.Leads m p) (hgrown : tree.Grown other)
    (hp : other.node? p = some .directory) :
    ∃ k, ∀ third, other.Keeps third → ∀ ys,
      third.walk linkLimit [] (m ++ ys) = third.walk k p ys := by
  induction h with
  | here hwalk =>
    obtain ⟨k, hk⟩ := FileTree.exists_walk_append hwalk
    exact ⟨k, fun third hthird ↦ hk third (hgrown.keeps.comp hthird)⟩
  | under _ _ hxs hname _ ih =>
    obtain ⟨k, hk⟩ := ih (hgrown.wellFormed.parent hp)
    refine ⟨k, fun third hthird ys ↦ ?_⟩
    rw [List.append_assoc, List.append_assoc, hk third hthird, walk_idles hxs,
      List.singleton_append, walk_directory hname (hthird.directory _ hp)]

theorem walk (h : tree.Leads m p) (hgrown : tree.Grown other)
    (hp : other.node? p = some .directory) :
    other.walk linkLimit [] m = .ok (.directory p) := by
  obtain ⟨k, hk⟩ := h.exists_walk_append hgrown hp
  have hnil := hk other (Keeps.refl other) []
  rwa [List.append_nil, walk_nil] at hnil

theorem eq_of_walk (h : tree.Leads m p) (hwf : tree.WellFormed) (hgrown : tree.Grown other)
    (hwalk : other.walk linkLimit [] m = .ok (.directory q)) :
    q = p ∧ other.node? p = some .directory := by
  induction h generalizing q with
  | @here route p hhere =>
    have hother := hgrown.keeps.walk_directory hhere
    rw [hwalk] at hother
    exact ⟨Place.directory.inj (Except.ok.inj hother),
      hgrown.keeps.directory p (hwf.walk_stands rfl hhere)⟩
  | @under m xs name p hm _ hxs hname hnone ih =>
    -- The walk passes a directory before its last name, and that is the one of the route above.
    obtain ⟨r, hr⟩ := exists_walk_prefix hname.not_idle hwalk
    obtain ⟨rfl, hdirectory⟩ := ih ((walk_append_idles hxs).mp hr)
    obtain ⟨k, hk⟩ := hm.exists_walk_append hgrown hdirectory
    rw [List.append_assoc, hk other (Keeps.refl other), walk_idles hxs] at hwalk
    cases hnode : other.node? (r ++ [name]) with
    | none =>
      rw [walk_missing hname hnode] at hwalk
      exact absurd hwalk nofun
    | some node =>
      cases node with
      | directory =>
        rw [walk_directory hname hnode, walk_nil] at hwalk
        exact ⟨(Place.directory.inj (Except.ok.inj hwalk)).symm, rfl⟩
      | file content =>
        rw [walk_file hname hnode] at hwalk
        exact absurd hwalk nofun
      | link target =>
        rw [hgrown.link _ _ hnode] at hnone
        exact absurd hnone nofun

/-- A route that ends with a name leads on from where the route above it leads, unless it leads to a
directory already. -/
theorem under_cases (h : tree.Leads (m ++ xs ++ [name]) q) (hm : Clean m)
    (hxs : xs.all isIdle = true) :
    tree.walk linkLimit [] (m ++ xs ++ [name]) = .ok (.directory q) ∨
      ∃ p, tree.Leads m p ∧ q = p ++ [name] ∧ IsName name ∧ tree.node? q = none := by
  generalize hroute : m ++ xs ++ [name] = route at h
  cases h with
  | here hwalk => exact Or.inl hwalk
  | @under m' xs' name' p hlead hm' hxs' hname hnone =>
    obtain ⟨hfields, hlast⟩ := List.append_inj' hroute rfl
    obtain rfl : name = name' := List.head_eq_of_cons_eq hlast
    -- How a clean route splits at its last name is settled by its spelling.
    obtain rfl : m = m' := by
      rw [← trimmed_append hm hxs, hfields, trimmed_append hm' hxs']
    exact Or.inr ⟨p, hlead, rfl, hname, hnone⟩

theorem unique (h : tree.Leads m p) (h' : tree.Leads m q) (hwf : tree.WellFormed) : q = p := by
  induction h generalizing q with
  | here hhere => exact ((h'.eq_of_walk hwf (Grown.refl hwf) hhere).1).symm
  | @under m xs name p hm hclean hxs hname hnone ih =>
    rcases h'.under_cases hclean hxs with hwalk | ⟨r, hr, rfl, -, -⟩
    · exact ((under hm hclean hxs hname hnone).eq_of_walk hwf (Grown.refl hwf) hwalk).1
    · rw [ih hr]

theorem exists_under (h : tree.Leads r p) (hwf : tree.WellFormed) (hp : tree.node? p = none) :
    ∃ m xs name q, r = m ++ xs ++ [name] ∧ Clean m ∧ xs.all isIdle = true ∧ IsName name ∧
      tree.Leads m q ∧ p = q ++ [name] := by
  cases h with
  | here hwalk =>
    have hstands : tree.node? p = some .directory := hwf.walk_stands rfl hwalk
    rw [hp] at hstands
    exact absurd hstands nofun
  | under hm hclean hxs hname hnone => exact ⟨_, _, _, _, rfl, hclean, hxs, hname, hm, rfl⟩

theorem exists_above (h : tree.Leads r (p ++ [name])) (hwf : tree.WellFormed)
    (hnone : tree.node? (p ++ [name]) = none) : ∃ m ∈ above r, tree.Leads m p := by
  obtain ⟨m, xs, last, q, rfl, hclean, hxs, hname, hlead, heq⟩ := h.exists_under hwf hnone
  obtain ⟨rfl, -⟩ := List.append_inj' heq rfl
  refine ⟨m, ?_, hlead⟩
  rw [above_below hclean hxs hname.not_idle]
  exact List.mem_cons_self

/-- What is missing above a route is missing on the way to where the route leads. -/
theorem above_lt (h : tree.Leads r p) (hwf : tree.WellFormed) (hm : m ∈ above r)
    (hlead : tree.Leads m q) (hq : tree.node? q = none) : q <+: p ∧ q ≠ p := by
  induction h with
  | here hwalk =>
    obtain ⟨s, hs⟩ := exists_walk_above hwalk hm
    have hdirectory := (hlead.eq_of_walk hwf (Grown.refl hwf) hs).2
    rw [hq] at hdirectory
    exact absurd hdirectory nofun
  | @under m' xs name p' hm' hclean hxs hname hnone ih =>
    rw [above_below hclean hxs hname.not_idle] at hm
    have hne : ∀ {s : TreePath}, s <+: p' → s ≠ p' ++ [name] := by
      rintro s hs rfl
      have hlength := hs.length_le
      rw [List.length_append, List.length_singleton] at hlength
      omega
    rcases List.mem_cons.mp hm with rfl | hm
    · obtain rfl := hm'.unique hlead hwf
      exact ⟨List.prefix_append _ _, hne (List.prefix_refl _)⟩
    · obtain ⟨hpre, -⟩ := ih hm
      exact ⟨hpre.trans (List.prefix_append _ _), hne hpre⟩

theorem locate_of_file {content : Content} (h : tree.Leads r p) (hwf : tree.WellFormed)
    (hgrown : tree.Grown other) (hp : tree.node? p = none)
    (hfile : other.node? p = some (.file content)) (hfits : r.Fits) :
    other.locate r = .ok (.file p content false) := by
  obtain ⟨m, xs, name, q, rfl, -, hxs, hname, hlead, rfl⟩ := h.exists_under hwf hp
  obtain ⟨k, hk⟩ := hlead.exists_walk_append hgrown (hgrown.wellFormed.parent hfile)
  rw [locate_of_fits hfits, List.append_assoc, hk other (Keeps.refl other), walk_idles hxs,
    walk_file hname hfile]
  rfl

theorem doesExist_eq_false (h : tree.Leads r p) (hwf : tree.WellFormed) (hp : tree.node? p = none) :
    tree.doesExist r = false := by
  rw [← Bool.not_eq_true]
  intro hexists
  obtain ⟨m, xs, name, q, rfl, -, hxs, hname, hlead, rfl⟩ := h.exists_under hwf hp
  obtain ⟨place, hplace⟩ : ∃ place, tree.walk linkLimit [] (m ++ xs ++ [name]) = .ok place := by
    rcases doesExist_iff.mp hexists with ⟨s, hs⟩ | ⟨s, content, hs⟩
    · exact ⟨_, walk_of_locate hs⟩
    · exact ⟨_, walk_of_locate hs⟩
  obtain ⟨s, hs⟩ := exists_walk_prefix hname.not_idle hplace
  obtain ⟨rfl, hdirectory⟩ :=
    hlead.eq_of_walk hwf (Grown.refl hwf) ((walk_append_idles hxs).mp hs)
  obtain ⟨k, hk⟩ := FileTree.exists_walk_append hs
  have hwalk := hk tree (Keeps.refl tree) [name]
  rw [walk_missing hname hp] at hwalk
  rcases doesExist_iff.mp hexists with ⟨t, ht⟩ | ⟨t, content, ht⟩
  · rw [walk_of_locate ht] at hwalk
    exact absurd hwalk nofun
  · rw [walk_of_locate ht] at hwalk
    exact absurd hwalk nofun

end Leads

theorem doesExist_above (h : tree.doesExist r = true) (hm : m ∈ above r) :
    tree.doesExist m = true := by
  have hplace : ∃ place, tree.locate r = .ok place := by
    rcases doesExist_iff.mp h with ⟨s, hs⟩ | ⟨s, content, hs⟩
    · exact ⟨_, hs⟩
    · exact ⟨_, hs⟩
  obtain ⟨place, hlocate⟩ := hplace
  obtain ⟨p, hp⟩ := exists_walk_above (walk_of_locate hlocate) hm
  refine doesExist_iff.mpr (Or.inl ⟨p, ?_⟩)
  rwa [locate_of_fits ((fits_of_locate hlocate).above hm)]

/-! ## Routes that lead nowhere -/

/-- The last name of a route is that of a link, and the route leads nowhere. -/
def Dangling (tree : FileTree) (route : Route) : Prop :=
  tree.doesExist route = false ∧
    ∃ p target, tree.entryOf .invalid route = .ok p ∧ tree.node? p = some (.link target)

theorem dangling_iff : tree.Dangling r ↔ tree.doesExist r = false ∧
    (match tree.entryOf .invalid r with
      | .ok p => (tree.node? p matches some (.link _))
      | .error _ => false) = true := by
  refine and_congr_right fun _ ↦ ?_
  constructor
  · rintro ⟨p, target, hentry, hnode⟩
    rw [hentry]
    simp only [hnode]
  · intro h
    split at h
    next p hentry =>
      split at h
      next target hnode => exact ⟨p, target, hentry, hnode⟩
      next => exact absurd h Bool.false_ne_true
    next => exact absurd h Bool.false_ne_true

instance : Decidable (tree.Dangling r) := decidable_of_iff _ dangling_iff.symm

/-- A route that leads to a directory in no grown tree. -/
def Blocked (tree : FileTree) (route : Route) : Prop :=
  ∀ other, tree.Grown other → ∀ p, other.locate route ≠ .ok (.directory p)

theorem Blocked.below (h : tree.Blocked m) (hxs : xs.all isIdle = true)
    (hidle : isIdle name = false) : tree.Blocked (m ++ xs ++ [name]) := by
  intro other hgrown q hlocate
  obtain ⟨s, hs⟩ := exists_walk_prefix hidle (walk_of_locate hlocate)
  refine h other hgrown s ?_
  rw [locate_of_fits (fits_append (fits_append (fits_of_locate hlocate)))]
  exact (walk_append_idles hxs).mp hs

theorem blocked_of_tooLong (hidle : isIdle name = false) (hup : name ≠ "..")
    (hlong : isTooLong name = true) : tree.Blocked (xs ++ [name]) := by
  intro other hgrown q hlocate
  have hwalk := walk_of_locate hlocate
  obtain ⟨s, hs⟩ := exists_walk_prefix hidle hwalk
  obtain ⟨k, hk⟩ := exists_walk_append hs
  rw [hk other (Keeps.refl other), walk_tooLong hidle hup hlong] at hwalk
  exact absurd hwalk nofun

/-- A route that leads to a file will lead to no directory. -/
theorem blocked_of_walk_file {content : Content} {slash : Bool}
    (h : tree.walk linkLimit [] r = .ok (.file p content slash)) : tree.Blocked r := by
  intro other hgrown q hlocate
  obtain ⟨content', hother⟩ := hgrown.keeps.walk_file h
  rw [walk_of_locate hlocate] at hother
  exact absurd hother nofun

/-- A route leads to something if something has its last name and is no link that leads nowhere. -/
theorem doesExist_of_node {n : Node} (hfits : (xs ++ [name]).Fits)
    (hwalk : tree.walk linkLimit [] xs = .ok (.directory p)) (hname : IsName name)
    (hnode : tree.node? (p ++ [name]) = some n) (hlink : ¬tree.Dangling (xs ++ [name])) :
    tree.doesExist (xs ++ [name]) = true := by
  obtain ⟨k, hk⟩ := exists_walk_append hwalk
  have hon := hk tree (Keeps.refl tree) [name]
  rw [← locate_of_fits hfits] at hon
  cases n with
  | directory =>
    rw [walk_directory hname hnode, walk_nil] at hon
    exact doesExist_iff.mpr (Or.inl ⟨_, hon⟩)
  | file content =>
    rw [walk_file hname hnode] at hon
    exact doesExist_iff.mpr (Or.inr ⟨_, content, hon⟩)
  | link target =>
    have hsplit : splitLast? (xs ++ [name]) = some (xs, name) := by
      rw [← List.append_nil xs]
      exact splitLast?_below hname.not_idle
    rw [← Bool.not_eq_false]
    exact fun hnot ↦ hlink ⟨hnot, _, target, entryOf_eq hfits hsplit hwalk hname, hnode⟩

/-- **A route leads to a place or it is blocked**, unless a link on the way leads nowhere. -/
theorem leads_or_blocked (hwf : tree.WellFormed) (hm : Clean m) (hup : ".." ∉ m)
    (hlinks : ∀ r ∈ m :: above m, ¬tree.Dangling r) :
    (∃ p, tree.Leads m p) ∨ tree.Blocked m := by
  induction hm with
  | root => exact Or.inl ⟨[], .here walk_nil⟩
  | @under m xs name hm hxs hidle ih =>
    rw [above_below hm hxs hidle] at hlinks
    have hne : name ≠ ".." := by
      rintro rfl
      exact hup (List.mem_append_right _ List.mem_cons_self)
    rcases ih (fun h ↦ hup (List.mem_append_left _ (List.mem_append_left _ h)))
      fun r hr ↦ hlinks r (List.mem_cons_of_mem _ hr) with ⟨p, hp⟩ | hblocked
    · by_cases hlong : isTooLong name = true
      · exact Or.inr (blocked_of_tooLong hidle hne hlong)
      have hname : IsName name := ⟨hidle, hne, Bool.eq_false_iff.mpr hlong⟩
      cases hnode : tree.node? (p ++ [name]) with
      | none => exact Or.inl ⟨_, .under hp hm hxs hname hnode⟩
      | some node =>
        by_cases hfits : (m ++ xs ++ [name]).Fits
        · have hwalk := (walk_append_idles hxs).mpr (hp.walk (Grown.refl hwf) (hwf.parent hnode))
          -- What has the last name leads to a directory, or to a file that is in the way.
          rcases doesExist_iff.mp (doesExist_of_node hfits hwalk hname hnode
            (hlinks _ List.mem_cons_self)) with ⟨q, hq⟩ | ⟨q, content, hq⟩
          · exact Or.inl ⟨q, .here (walk_of_locate hq)⟩
          · exact Or.inr (blocked_of_walk_file (walk_of_locate hq))
        · exact Or.inr fun other _ q hlocate ↦ hfits (fits_of_locate hlocate)
    · exact Or.inr (hblocked.below hxs hidle)

end Redline.FileTree
