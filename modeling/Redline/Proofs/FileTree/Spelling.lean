import Mathlib.Data.List.Induction
import Redline.Proofs.FileTree.Entry
import Redline.Proofs.Text.Path

/-!
# Spellings of one route

Fields that lead nowhere matter at the end of a route only, where they say that the name before them
is that of a directory. Two routes that end with a name and have the same names in the same order
lead to the same place, or fail in the same way, in every tree.

The place without links to which a route leads is a route itself, and it leads to itself: only names
of entries are put together on a walk, and above whatever stands in a well-formed tree there are
directories. No name on the way holds a slash, so that a place can be written as a path and its
names be read off that again.
-/

namespace Redline

open Redline.Text

namespace Route

variable {xs ys rest : Route} {field name : String} {base : TreePath} {p q : String}

/-! ## The names of a route -/

def names (route : Route) : Route := route.filter (!isIdle ·)

def EndsWithName (route : Route) : Prop := ∃ last, route.getLast? = some last ∧ isIdle last = false

theorem names_append (xs ys : Route) : names (xs ++ ys) = names xs ++ names ys :=
  List.filter_append ..

theorem names_cons_of_idle (h : isIdle field = true) : names (field :: rest) = names rest :=
  List.filter_cons_of_neg (by rw [h]; exact Bool.false_ne_true)

theorem names_cons (h : isIdle field = false) : names (field :: rest) = field :: names rest :=
  List.filter_cons_of_pos (by rw [h]; rfl)

theorem exists_of_names_eq_cons (h : names ys = name :: xs) : ∃ idles rest,
    ys = idles ++ name :: rest ∧ idles.all isIdle = true ∧ names rest = xs := by
  obtain ⟨idles, rest, rfl, hidles, -, hrest⟩ := List.filter_eq_cons_iff.mp h
  refine ⟨idles, rest, rfl, List.all_eq_true.mpr fun field hfield ↦ ?_, hrest⟩
  have hidle := hidles field hfield
  rwa [Bool.not_eq_true', Bool.not_eq_false] at hidle

theorem not_endsWithName_nil : ¬EndsWithName [] := by
  rintro ⟨last, hlast, -⟩
  exact absurd hlast nofun

theorem EndsWithName.of_append (h : EndsWithName (xs ++ ys)) (hne : ys ≠ []) : EndsWithName ys := by
  obtain ⟨last, hlast, hidle⟩ := h
  rw [List.getLast?_append_of_ne_nil xs hne] at hlast
  exact ⟨last, hlast, hidle⟩

theorem EndsWithName.of_cons (h : EndsWithName (field :: ys)) (hne : ys ≠ []) : EndsWithName ys :=
  @EndsWithName.of_append [field] ys h hne

theorem EndsWithName.append (h : EndsWithName ys) (xs : Route) : EndsWithName (xs ++ ys) := by
  have hne : ys ≠ [] := by
    rintro rfl
    exact not_endsWithName_nil h
  obtain ⟨last, hlast, hidle⟩ := h
  exact ⟨last, by rw [List.getLast?_append_of_ne_nil xs hne, hlast], hidle⟩

theorem EndsWithName.names_ne_nil (h : EndsWithName xs) : names xs ≠ [] := by
  obtain ⟨last, hlast, hidle⟩ := h
  have hmem : last ∈ names xs := by
    rw [names, List.mem_filter, hidle]
    exact ⟨List.mem_of_getLast? hlast, rfl⟩
  exact List.ne_nil_of_mem hmem

theorem EndsWithName.all_eq_false (h : EndsWithName xs) : xs.all (· == "") = false := by
  obtain ⟨last, hlast, hidle⟩ := h
  refine Bool.eq_false_iff.mpr fun hall ↦ ?_
  have hempty := List.all_eq_true.mp hall last (List.mem_of_getLast? hlast)
  rw [isIdle, hempty, Bool.true_or] at hidle
  exact Bool.noConfusion hidle

/-- Two routes are spellings of each other: they are the same, or both end with a name and they have
the same names. -/
def Respelled (xs ys : Route) : Prop :=
  xs = ys ∨ EndsWithName xs ∧ EndsWithName ys ∧ names xs = names ys

theorem Respelled.all_eq (h : Respelled xs ys) : xs.all (· == "") = ys.all (· == "") := by
  rcases h with rfl | ⟨hx, hy, -⟩
  · rfl
  · rw [hx.all_eq_false, hy.all_eq_false]

theorem Respelled.append_left (h : Respelled xs ys) (front : Route) :
    Respelled (front ++ xs) (front ++ ys) := by
  rcases h with rfl | ⟨hx, hy, hnames⟩
  · exact .inl rfl
  · refine .inr ⟨hx.append front, hy.append front, ?_⟩
    rw [names_append, names_append, hnames]

theorem Respelled.isEmpty_eq (h : Respelled xs ys) : xs.isEmpty = ys.isEmpty := by
  rcases h with rfl | ⟨hx, hy, -⟩
  · rfl
  · cases xs with
    | nil => exact absurd hx not_endsWithName_nil
    | cons => cases ys with
      | nil => exact absurd hy not_endsWithName_nil
      | cons => rfl

theorem Respelled.of_cons (hx : EndsWithName (name :: xs)) (hy : EndsWithName (name :: ys))
    (hnames : names xs = names ys) : Respelled xs ys := by
  -- What has no names, behind a name at which the route must end, is empty.
  have hnil : ∀ {zs : Route}, EndsWithName (name :: zs) → names zs = [] → zs = [] := by
    intro zs hzs hnone
    refine Decidable.byContradiction fun hne ↦ ?_
    have hend : EndsWithName zs := hzs.of_cons hne
    exact hend.names_ne_nil hnone
  by_cases hxs : xs = []
  · subst hxs
    exact .inl (hnil hy hnames.symm).symm
  · have hend : EndsWithName xs := hx.of_cons hxs
    have hys : ys ≠ [] := by
      rintro rfl
      exact hend.names_ne_nil hnames
    exact .inr ⟨hend, hy.of_cons hys, hnames⟩

/-- Another spelling has the first name as well, behind fields that lead nowhere. -/
theorem Respelled.exists_cons (h : Respelled (name :: xs) ys) (hidle : isIdle name = false) :
    ∃ idles rest, ys = idles ++ name :: rest ∧ idles.all isIdle = true ∧ Respelled xs rest := by
  rcases h with rfl | ⟨hx, hy, hnames⟩
  · exact ⟨[], xs, rfl, rfl, .inl rfl⟩
  · rw [names_cons hidle] at hnames
    obtain ⟨idles, rest, rfl, hidles, hrest⟩ := exists_of_names_eq_cons hnames.symm
    have hend : EndsWithName (name :: rest) := hy.of_append (List.cons_ne_nil _ _)
    exact ⟨idles, rest, rfl, hidles, .of_cons hx hend hrest.symm⟩

theorem Respelled.of_idle (h : Respelled (field :: xs) ys) (hidle : isIdle field = true) :
    Respelled xs ys ∨ ys = field :: xs := by
  rcases h with rfl | ⟨hx, hy, hnames⟩
  · exact .inr rfl
  · rw [names_cons_of_idle hidle] at hnames
    have hne : xs ≠ [] := by
      rintro rfl
      exact hy.names_ne_nil hnames.symm
    exact .inl (.inr ⟨hx.of_cons hne, hy, hnames⟩)

/-! ## The names of a path -/

def Spellable (fields : List String) : Prop := ∀ field ∈ fields, '/' ∉ field.toList

instance (fields : List String) : Decidable (Spellable fields) :=
  inferInstanceAs (Decidable (∀ field ∈ fields, '/' ∉ field.toList))

theorem spellable_append : Spellable (xs ++ ys) ↔ Spellable xs ∧ Spellable ys :=
  List.forall_mem_append

theorem spellable_map_fields (cs : List Char) :
    Spellable ((fields '/' cs).map String.ofList) :=
  List.forall_mem_map.mpr fun part hpart ↦ by
    rw [String.toList_ofList]
    exact notMem_of_mem_fields hpart

theorem spellable_ofText {p : String} (hbase : Spellable base) : Spellable (ofText base p) := by
  rw [ofText]
  split
  · exact spellable_map_fields _
  · exact spellable_append.mpr ⟨hbase, spellable_map_fields _⟩

theorem splitAll_joinWith (hnames : Spellable xs) (hne : xs ≠ []) :
    splitAll '/' (joinWith "/" xs) = xs := by
  have hparts : ∀ part ∈ xs.map String.toList, '/' ∉ part := List.forall_mem_map.mpr hnames
  have hjoined : (joinWith "/" xs).toList = ['/'].intercalate (xs.map String.toList) :=
    String.toList_intercalate
  rw [splitAll, hjoined, fields_intercalate hparts (by simpa using hne), List.map_map]
  exact (List.map_congr_left fun name _ ↦ String.ofList_toList).trans (List.map_id xs)

theorem isIdle_ofList (part : List Char) : isIdle (String.ofList part) = !isSegment part := by
  have hempty : (String.ofList part == "") = part.isEmpty := by
    rw [Bool.eq_iff_iff, beq_iff_eq, List.isEmpty_iff, ← String.toList_inj, String.toList_ofList]
    rfl
  have hdot : (String.ofList part == ".") = (part == ['.']) := by
    rw [Bool.eq_iff_iff, beq_iff_eq, beq_iff_eq, ← String.toList_inj, String.toList_ofList]
    rfl
  rw [isIdle, isSegment, hempty, hdot, Bool.not_and, Bool.not_not, bne, Bool.not_not]

theorem names_map_fields (cs : List Char) :
    names ((fields '/' cs).map String.ofList) = (segments cs).map String.ofList := by
  rw [names, segments, List.filter_map]
  congr 2
  funext part
  rw [Function.comp_apply, isIdle_ofList, Bool.not_not]

theorem names_ofText (base : TreePath) (p : String) : names (ofText base p) =
    (if p.toList.head? = some '/' then [] else names base) ++
      (segments p.toList).map String.ofList := by
  rw [ofText]
  split
  next rest hslash =>
    rw [hslash, List.head?_cons, if_pos rfl, segments_cons_slash, List.nil_append,
      names_map_fields]
  next hslash =>
    have hrelative : p.toList.head? ≠ some '/' := by
      intro hhead
      obtain ⟨rest, hrest⟩ := List.head?_eq_some_iff.mp hhead
      exact hslash rest hrest
    rw [if_neg hrelative, names_append, splitAll, names_map_fields]

/-- Paths without white space around them that have the same normal form have the same names. -/
theorem names_ofText_eq (hp : Trimmed p) (hq : Trimmed q)
    (h : normalizePath p = normalizePath q) : names (ofText base p) = names (ofText base q) := by
  obtain ⟨habsolute, hsegments⟩ := (normalizePath_eq_iff hp hq).mp h
  rw [names_ofText, names_ofText, hsegments]
  simp only [habsolute]

end Route

namespace FileTree

open Route

variable {tree : FileTree} {here p d : TreePath} {xs ys rest : Route} {k : Nat} {place : Place}
  {name : String} {content : Content}

/-! ## Walks along spellings -/

/-- **Spellings of a route lead to the same place**, or fail in the same way. -/
theorem walk_respelled (h : Respelled xs ys) : tree.walk k here xs = tree.walk k here ys := by
  induction k, here, xs using tree.walk_induction generalizing ys with
  | nil k here =>
    rcases h with rfl | ⟨hend, -, -⟩
    · rfl
    · exact absurd hend not_endsWithName_nil
  | idle k here field rest hidle ih =>
    rcases h.of_idle hidle with hrest | rfl
    · rw [walk_idle hidle]
      exact ih hrest
    · rfl
  | up k here rest ih =>
    obtain ⟨idles, rest', rfl, hidles, hrest⟩ := h.exists_cons (by decide)
    rw [walk_idles hidles, walk_up, walk_up]
    exact ih hrest
  | long k here field rest hidle hup hlong =>
    obtain ⟨idles, rest', rfl, hidles, -⟩ := h.exists_cons hidle
    rw [walk_idles hidles, walk_tooLong hidle hup hlong, walk_tooLong hidle hup hlong]
  | directory k here name rest hname hnode ih =>
    obtain ⟨idles, rest', rfl, hidles, hrest⟩ := h.exists_cons hname.not_idle
    rw [walk_idles hidles, walk_directory hname hnode, walk_directory hname hnode]
    exact ih hrest
  | file k here name rest content hname hnode =>
    obtain ⟨idles, rest', rfl, hidles, hrest⟩ := h.exists_cons hname.not_idle
    rw [walk_idles hidles, walk_file hname hnode, walk_file hname hnode, hrest.all_eq,
      hrest.isEmpty_eq]
  | missing k here name rest hname hnode =>
    obtain ⟨idles, rest', rfl, hidles, hrest⟩ := h.exists_cons hname.not_idle
    rw [walk_idles hidles, walk_missing hname hnode, walk_missing hname hnode, hrest.all_eq,
      hrest.isEmpty_eq]
  | lastLink here name rest target hname hnode =>
    obtain ⟨idles, rest', rfl, hidles, -⟩ := h.exists_cons hname.not_idle
    rw [walk_idles hidles, walk_zero_link hname hnode, walk_zero_link hname hnode]
  | link k here name rest target hname hnode ih =>
    obtain ⟨idles, rest', rfl, hidles, hrest⟩ := h.exists_cons hname.not_idle
    rw [walk_idles hidles, walk_succ_link hname hnode, walk_succ_link hname hnode]
    exact ih (hrest.append_left (linkFields target))

theorem endsWithName_of_walk (h : tree.walk k here xs = .ok place) (hbare : place.IsBare) :
    EndsWithName xs := by
  cases hlast : xs.getLast? with
  | none =>
    obtain rfl := List.getLast?_eq_none_iff.mp hlast
    rw [walk_nil] at h
    obtain rfl := Except.ok.inj h
    exact absurd hbare id
  | some last => exact ⟨last, hlast, not_idle_of_walk h hbare hlast⟩

/-! ## Places as routes -/

theorem Walks.isName_of_mem (h : tree.Walks k here xs place) (hhere : ∀ name ∈ here, IsName name) :
    ∀ name ∈ place.path, IsName name := by
  have hentry : ∀ {here : TreePath} {name : String}, IsName name →
      (∀ other ∈ here, IsName other) → ∀ other ∈ here ++ [name], IsName other := by
    intro here name hname hhere other hmem
    rcases List.mem_append.mp hmem with hmem | hmem
    · exact hhere other hmem
    · rwa [List.mem_singleton.mp hmem]
  induction h with
  | nil => exact hhere
  | idle _ _ ih => exact ih hhere
  | up _ ih => exact ih (fun name hname ↦ hhere name (List.dropLast_subset _ hname))
  | directory hname _ _ ih => exact ih (hentry hname hhere)
  | file hname _ _ => exact hentry hname hhere
  | missing hname _ _ => exact hentry hname hhere
  | @link k here name target rest place _ _ _ ih =>
    refine ih ?_
    rw [linkStart]
    split
    · exact fun _ hmem ↦ absurd hmem List.not_mem_nil
    · exact hhere

/-- Fields of links hold no slash either, so no walk comes to a name that does. -/
theorem Walks.spellable (h : tree.Walks k here xs place) (hhere : Spellable here)
    (hxs : Spellable xs) : Spellable place.path := by
  have hentry : ∀ {here : TreePath} {name : String} {rest : Route}, Spellable (name :: rest) →
      Spellable here → Spellable (here ++ [name]) := by
    intro here name rest hxs hhere
    exact spellable_append.mpr ⟨hhere, List.forall_mem_singleton.mpr (hxs name List.mem_cons_self)⟩
  induction h with
  | nil => exact hhere
  | idle _ _ ih => exact ih hhere (List.forall_mem_cons.mp hxs).2
  | up _ ih =>
    exact ih (fun name hname ↦ hhere name (List.dropLast_subset _ hname))
      (List.forall_mem_cons.mp hxs).2
  | directory _ _ _ ih => exact ih (hentry hxs hhere) (List.forall_mem_cons.mp hxs).2
  | file _ _ _ => exact hentry hxs hhere
  | missing _ _ _ => exact hentry hxs hhere
  | @link k here name target rest place _ _ _ ih =>
    have hstart : Spellable (linkStart here target) := by
      rw [linkStart]
      split
      · exact fun _ hmem ↦ absurd hmem List.not_mem_nil
      · exact hhere
    have hfields : Spellable (linkFields target) := by
      rw [linkFields]
      split
      · exact spellable_ofText fun _ hmem ↦ absurd hmem List.not_mem_nil
      · exact spellable_map_fields _
    exact ih hstart (spellable_append.mpr ⟨hfields, (List.forall_mem_cons.mp hxs).2⟩)

theorem WellFormed.walk_directory_append (hwf : tree.WellFormed)
    (hnode : tree.node? d = some .directory) (hnames : ∀ name ∈ d, IsName name) (rest : Route) :
    tree.walk k [] (d ++ rest) = tree.walk k d rest := by
  induction d using List.reverseRecOn generalizing rest with
  | nil => rfl
  | append_singleton d name ih =>
    have hname : IsName name := hnames name (List.mem_append_right _ (List.mem_singleton_self _))
    have habove := ih (hwf.parent hnode)
      (fun other hmem ↦ hnames other (List.mem_append_left _ hmem)) (name :: rest)
    rw [List.append_assoc, List.singleton_append, habove, walk_directory hname hnode]

/-- **A file leads to itself.** -/
theorem WellFormed.walk_file_self (hwf : tree.WellFormed)
    (hnode : tree.node? p = some (.file content)) (hnames : ∀ name ∈ p, IsName name) :
    tree.walk k [] p = .ok (.file p content false) := by
  rcases List.eq_nil_or_concat p with rfl | ⟨d, name, rfl⟩
  · exact absurd hnode nofun
  rw [List.concat_eq_append] at hnode hnames ⊢
  have hname : IsName name := hnames name (List.mem_append_right _ (List.mem_singleton_self _))
  have habove := hwf.walk_directory_append (k := k) (hwf.parent hnode)
    (fun other hmem ↦ hnames other (List.mem_append_left _ hmem)) [name]
  rw [habove, walk_file hname hnode]
  rfl

end FileTree

end Redline
