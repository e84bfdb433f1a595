import Redline.FileTree.Walk
import Redline.Proofs.FileTree.Node

/-!
# Walks

A walk takes one field at a time, and what a field does depends on what stands at one place only.
The induction over a walk is stated here once: over the fields, and where a link is followed over
the links that may still be followed. The walks that end at a place are described by rules as well,
so that what is true of them follows by induction on the rules.

A walk that goes on behind some fields has come to a directory there, and from then on it is a walk
from that directory. In a tree that keeps the first it comes to the same directory.
-/

namespace Redline

/-- The path of a place, which need not exist. -/
def Place.path : Place → TreePath
  | .directory p => p
  | .file p _ _ => p
  | .missing parent name _ => parent ++ [name]

/-- A place at a name that no slash follows. -/
def Place.IsBare : Place → Prop
  | .directory _ => False
  | .file _ _ slash => slash = false
  | .missing _ _ slash => slash = false

namespace FileTree

variable {tree other : FileTree} {here p : TreePath} {field name target : String}
  {rest fields xs ys : Route} {k : Nat} {content : Content} {slash : Bool} {place : Place}

/-! ## Single steps -/

/-- A field that names an entry of a directory. -/
structure IsName (field : String) : Prop where
  not_idle : Route.isIdle field = false
  ne_up : field ≠ ".."
  short : Route.isTooLong field = false

/-- Where the walk over a link goes on. -/
def linkStart (here : TreePath) (target : String) : TreePath :=
  if target.toList.head? = some '/' then [] else here

def linkFields (target : String) : Route :=
  if target.toList.head? = some '/' then Route.ofText [] target else Text.splitAll '/' target

theorem walk_eq_walkWith (tree : FileTree) (k : Nat) :
    ∃ onLink, tree.walk k = walkWith tree onLink := by
  cases k with
  | zero => exact ⟨_, rfl⟩
  | succ k => exact ⟨_, rfl⟩

@[simp] theorem walk_nil : tree.walk k here [] = .ok (.directory here) := by
  obtain ⟨onLink, hwalk⟩ := walk_eq_walkWith tree k
  rw [hwalk, walkWith]

theorem walk_idle (h : Route.isIdle field = true) :
    tree.walk k here (field :: rest) = tree.walk k here rest := by
  obtain ⟨onLink, hwalk⟩ := walk_eq_walkWith tree k
  rw [hwalk, walkWith, if_pos h]

theorem walk_up : tree.walk k here (".." :: rest) = tree.walk k here.dropLast rest := by
  obtain ⟨onLink, hwalk⟩ := walk_eq_walkWith tree k
  rw [hwalk, walkWith, if_neg (by decide), if_pos rfl]

theorem walk_tooLong (hidle : Route.isIdle field = false) (hup : field ≠ "..")
    (hlong : Route.isTooLong field = true) :
    tree.walk k here (field :: rest) = .error .nameTooLong := by
  obtain ⟨onLink, hwalk⟩ := walk_eq_walkWith tree k
  rw [hwalk, walkWith, if_neg (Bool.eq_false_iff.mp hidle), if_neg hup, if_pos hlong]

section

variable (hname : IsName name)

include hname

theorem walk_directory (h : tree.node? (here ++ [name]) = some .directory) :
    tree.walk k here (name :: rest) = tree.walk k (here ++ [name]) rest := by
  obtain ⟨onLink, hwalk⟩ := walk_eq_walkWith tree k
  rw [hwalk, walkWith, if_neg (Bool.eq_false_iff.mp hname.not_idle), if_neg hname.ne_up,
    if_neg (Bool.eq_false_iff.mp hname.short)]
  simp only [h]

theorem walk_file (h : tree.node? (here ++ [name]) = some (.file content)) :
    tree.walk k here (name :: rest) = if rest.all (· == "") then
      .ok (.file (here ++ [name]) content !rest.isEmpty) else .error .notDirectory := by
  obtain ⟨onLink, hwalk⟩ := walk_eq_walkWith tree k
  rw [hwalk, walkWith, if_neg (Bool.eq_false_iff.mp hname.not_idle), if_neg hname.ne_up,
    if_neg (Bool.eq_false_iff.mp hname.short)]
  simp only [h]

theorem walk_missing (h : tree.node? (here ++ [name]) = none) :
    tree.walk k here (name :: rest) = if rest.all (· == "") then
      .ok (.missing here name !rest.isEmpty) else .error .notFound := by
  obtain ⟨onLink, hwalk⟩ := walk_eq_walkWith tree k
  rw [hwalk, walkWith, if_neg (Bool.eq_false_iff.mp hname.not_idle), if_neg hname.ne_up,
    if_neg (Bool.eq_false_iff.mp hname.short)]
  simp only [h]

theorem walk_zero_link (h : tree.node? (here ++ [name]) = some (.link target)) :
    tree.walk 0 here (name :: rest) = .error .tooManyLinks := by
  rw [walk, walkWith, if_neg (Bool.eq_false_iff.mp hname.not_idle), if_neg hname.ne_up,
    if_neg (Bool.eq_false_iff.mp hname.short)]
  simp only [h]

theorem walk_succ_link (h : tree.node? (here ++ [name]) = some (.link target)) :
    tree.walk (k + 1) here (name :: rest)
      = tree.walk k (linkStart here target) (linkFields target ++ rest) := by
  rw [walk, walkWith, if_neg (Bool.eq_false_iff.mp hname.not_idle), if_neg hname.ne_up,
    if_neg (Bool.eq_false_iff.mp hname.short)]
  simp only [h]
  rw [linkStart, linkFields]
  split
  next c heq => rw [heq, List.head?_cons, if_pos rfl, if_pos rfl]
  next hslash =>
    have hhead : target.toList.head? ≠ some '/' := by
      intro hhead
      obtain ⟨cs, hcs⟩ := List.head?_eq_some_iff.mp hhead
      exact hslash cs hcs
    rw [if_neg hhead, if_neg hhead]

end

/-- Induction over a walk, by what stands where its next field leads. -/
theorem walk_induction (tree : FileTree) {motive : Nat → TreePath → Route → Prop}
    (nil : ∀ k here, motive k here [])
    (idle : ∀ k here field rest, Route.isIdle field = true → motive k here rest →
      motive k here (field :: rest))
    (up : ∀ k here rest, motive k here.dropLast rest → motive k here (".." :: rest))
    (long : ∀ k here field rest, Route.isIdle field = false → field ≠ ".." →
      Route.isTooLong field = true → motive k here (field :: rest))
    (directory : ∀ k here name rest, IsName name →
      tree.node? (here ++ [name]) = some .directory → motive k (here ++ [name]) rest →
      motive k here (name :: rest))
    (file : ∀ k here name rest content, IsName name →
      tree.node? (here ++ [name]) = some (.file content) → motive k here (name :: rest))
    (missing : ∀ k here name rest, IsName name → tree.node? (here ++ [name]) = none →
      motive k here (name :: rest))
    (lastLink : ∀ here name rest target, IsName name →
      tree.node? (here ++ [name]) = some (.link target) → motive 0 here (name :: rest))
    (link : ∀ k here name rest target, IsName name →
      tree.node? (here ++ [name]) = some (.link target) →
      motive k (linkStart here target) (linkFields target ++ rest) →
      motive (k + 1) here (name :: rest)) :
    ∀ k here fields, motive k here fields := by
  -- The fields are followed with a fixed number of links; only at a link does that number matter.
  have along : ∀ k, (∀ here name rest target, IsName name →
      tree.node? (here ++ [name]) = some (.link target) → motive k here (name :: rest)) →
      ∀ here fields, motive k here fields := by
    intro k hlink here fields
    induction fields generalizing here with
    | nil => exact nil k here
    | cons field rest ih =>
      by_cases hidle : Route.isIdle field = true
      · exact idle k here field rest hidle (ih here)
      · rw [Bool.not_eq_true] at hidle
        by_cases hup : field = ".."
        · subst hup
          exact up k here rest (ih here.dropLast)
        · by_cases hlong : Route.isTooLong field = true
          · exact long k here field rest hidle hup hlong
          · have hname : IsName field := ⟨hidle, hup, Bool.eq_false_iff.mpr hlong⟩
            cases hnode : tree.node? (here ++ [field]) with
            | none => exact missing k here field rest hname hnode
            | some node =>
              cases node with
              | directory => exact directory k here field rest hname hnode (ih (here ++ [field]))
              | file content => exact file k here field rest content hname hnode
              | link target => exact hlink here field rest target hname hnode
  intro k
  induction k with
  | zero => exact along 0 lastLink
  | succ k ih =>
    exact along (k + 1) fun here name rest target hname hnode ↦
      link k here name rest target hname hnode (ih _ _)

/-! ## Walks that end at a place -/

/-- A walk from a directory along some fields, over at most so many links, ends at a place. -/
inductive Walks (tree : FileTree) : Nat → TreePath → Route → Place → Prop
  | nil {k : Nat} {here : TreePath} : Walks tree k here [] (.directory here)
  | idle {k : Nat} {here : TreePath} {field : String} {rest : Route} {place : Place} :
    Route.isIdle field = true → Walks tree k here rest place →
      Walks tree k here (field :: rest) place
  | up {k : Nat} {here : TreePath} {rest : Route} {place : Place} :
    Walks tree k here.dropLast rest place → Walks tree k here (".." :: rest) place
  | directory {k : Nat} {here : TreePath} {name : String} {rest : Route} {place : Place} :
    IsName name → tree.node? (here ++ [name]) = some .directory →
      Walks tree k (here ++ [name]) rest place → Walks tree k here (name :: rest) place
  | file {k : Nat} {here : TreePath} {name : String} {rest : Route} {content : Content} :
    IsName name → tree.node? (here ++ [name]) = some (.file content) →
      rest.all (· == "") = true →
        Walks tree k here (name :: rest) (.file (here ++ [name]) content !rest.isEmpty)
  | missing {k : Nat} {here : TreePath} {name : String} {rest : Route} :
    IsName name → tree.node? (here ++ [name]) = none → rest.all (· == "") = true →
      Walks tree k here (name :: rest) (.missing here name !rest.isEmpty)
  | link {k : Nat} {here : TreePath} {name target : String} {rest : Route} {place : Place} :
    IsName name → tree.node? (here ++ [name]) = some (.link target) →
      Walks tree k (linkStart here target) (linkFields target ++ rest) place →
        Walks tree (k + 1) here (name :: rest) place

/-- **The rules describe the walks that end at a place.** -/
theorem walk_iff : tree.walk k here xs = .ok place ↔ tree.Walks k here xs place := by
  constructor
  · intro h
    induction k, here, xs using tree.walk_induction with
    | nil k here =>
      rw [walk_nil] at h
      obtain rfl := Except.ok.inj h
      exact .nil
    | idle k here field rest hidle ih =>
      rw [walk_idle hidle] at h
      exact .idle hidle (ih h)
    | up k here rest ih =>
      rw [walk_up] at h
      exact .up (ih h)
    | long k here field rest hidle hup hlong =>
      rw [walk_tooLong hidle hup hlong] at h
      exact absurd h nofun
    | directory k here name rest hname hnode ih =>
      rw [walk_directory hname hnode] at h
      exact .directory hname hnode (ih h)
    | file k here name rest content hname hnode =>
      rw [walk_file hname hnode] at h
      split at h
      next hrest =>
        obtain rfl := Except.ok.inj h
        exact .file hname hnode hrest
      next => exact absurd h nofun
    | missing k here name rest hname hnode =>
      rw [walk_missing hname hnode] at h
      split at h
      next hrest =>
        obtain rfl := Except.ok.inj h
        exact .missing hname hnode hrest
      next => exact absurd h nofun
    | lastLink here name rest target hname hnode =>
      rw [walk_zero_link hname hnode] at h
      exact absurd h nofun
    | link k here name rest target hname hnode ih =>
      rw [walk_succ_link hname hnode] at h
      exact .link hname hnode (ih h)
  · intro h
    induction h with
    | nil => exact walk_nil
    | idle hidle _ ih => rw [walk_idle hidle, ih]
    | up _ ih => rw [walk_up, ih]
    | directory hname hnode _ ih => rw [walk_directory hname hnode, ih]
    | file hname hnode hrest => rw [walk_file hname hnode, if_pos hrest]
    | missing hname hnode hrest => rw [walk_missing hname hnode, if_pos hrest]
    | link hname hnode _ ih => rw [walk_succ_link hname hnode, ih]

/-! ## Walks that go on -/

/-- A walk that has come to a directory goes on from there, in every tree that keeps the first. -/
theorem exists_walk_append (h : tree.walk k here xs = .ok (.directory p)) :
    ∃ k', ∀ other, tree.Keeps other → ∀ ys, other.walk k here (xs ++ ys) = other.walk k' p ys := by
  rw [walk_iff] at h
  generalize hplace : Place.directory p = place at h
  induction h with
  | @nil k here =>
    obtain rfl := Place.directory.inj hplace
    exact ⟨k, fun _ _ _ ↦ rfl⟩
  | idle hidle _ ih =>
    obtain ⟨k', hk'⟩ := ih hplace
    refine ⟨k', fun other hkeeps ys ↦ ?_⟩
    rw [List.cons_append, walk_idle hidle, hk' other hkeeps]
  | up _ ih =>
    obtain ⟨k', hk'⟩ := ih hplace
    refine ⟨k', fun other hkeeps ys ↦ ?_⟩
    rw [List.cons_append, walk_up, hk' other hkeeps]
  | directory hname hnode _ ih =>
    obtain ⟨k', hk'⟩ := ih hplace
    refine ⟨k', fun other hkeeps ys ↦ ?_⟩
    rw [List.cons_append, walk_directory hname (hkeeps.directory _ hnode), hk' other hkeeps]
  | file => exact absurd hplace nofun
  | missing => exact absurd hplace nofun
  | link hname hnode _ ih =>
    obtain ⟨k', hk'⟩ := ih hplace
    refine ⟨k', fun other hkeeps ys ↦ ?_⟩
    rw [List.cons_append, walk_succ_link hname (hkeeps.link _ _ hnode), ← hk' other hkeeps,
      List.append_assoc]

theorem FrameIn.walk_directory (hframe : tree.FrameIn other)
    (h : tree.walk k here xs = .ok (.directory p)) : other.walk k here xs = .ok (.directory p) := by
  rw [walk_iff] at h ⊢
  generalize hplace : Place.directory p = place at h ⊢
  induction h with
  | nil => exact .nil
  | idle hidle _ ih => exact .idle hidle (ih hplace)
  | up _ ih => exact .up (ih hplace)
  | directory hname hnode _ ih => exact .directory hname (hframe.directory _ hnode) (ih hplace)
  | file => exact absurd hplace nofun
  | missing => exact absurd hplace nofun
  | link hname hnode _ ih => exact .link hname (hframe.link _ _ hnode) (ih hplace)

theorem Keeps.walk_directory (hkeeps : tree.Keeps other)
    (h : tree.walk k here xs = .ok (.directory p)) : other.walk k here xs = .ok (.directory p) :=
  hkeeps.frameIn.walk_directory h

/-- What is walked over before other fields is a directory, unless these stand for slashes only and
the walk ends at a name. -/
theorem exists_walk_front (h : tree.walk k here (xs ++ ys) = .ok place)
    (hgoes : ys.all (· == "") = false ∨ ∃ q, place = .directory q) :
    ∃ p, tree.walk k here xs = .ok (.directory p) := by
  -- A file or a missing name ends the walk only if slashes alone are left, `ys` among them.
  have hslashes : ∀ {zs : Route}, (zs ++ ys).all (· == "") = true → ∃ q, place = .directory q := by
    intro zs hall
    rw [List.all_append, Bool.and_eq_true] at hall
    rcases hgoes with hys | hplace
    · rw [hall.2] at hys
      exact absurd hys nofun
    · exact hplace
  induction k, here, xs using tree.walk_induction with
  | nil k here => exact ⟨here, walk_nil⟩
  | idle k here field rest hidle ih =>
    rw [List.cons_append, walk_idle hidle] at h
    rw [walk_idle hidle]
    exact ih h
  | up k here rest ih =>
    rw [List.cons_append, walk_up] at h
    rw [walk_up]
    exact ih h
  | long k here field rest hidle hup hlong =>
    rw [List.cons_append, walk_tooLong hidle hup hlong] at h
    exact absurd h nofun
  | directory k here name rest hname hnode ih =>
    rw [List.cons_append, walk_directory hname hnode] at h
    rw [walk_directory hname hnode]
    exact ih h
  | file k here name rest content hname hnode =>
    rw [List.cons_append, walk_file hname hnode] at h
    split at h
    next hall =>
      obtain ⟨q, rfl⟩ := hslashes hall
      exact absurd h nofun
    next => exact absurd h nofun
  | missing k here name rest hname hnode =>
    rw [List.cons_append, walk_missing hname hnode] at h
    split at h
    next hall =>
      obtain ⟨q, rfl⟩ := hslashes hall
      exact absurd h nofun
    next => exact absurd h nofun
  | lastLink here name rest target hname hnode =>
    rw [List.cons_append, walk_zero_link hname hnode] at h
    exact absurd h nofun
  | link k here name rest target hname hnode ih =>
    rw [List.cons_append, walk_succ_link hname hnode, ← List.append_assoc] at h
    rw [walk_succ_link hname hnode]
    exact ih h

theorem exists_walk_prefix (hlast : Route.isIdle name = false)
    (h : tree.walk k here (xs ++ name :: ys) = .ok place) :
    ∃ p, tree.walk k here xs = .ok (.directory p) := by
  have hne : name ≠ "" := by
    rintro rfl
    exact absurd hlast (by decide)
  refine exists_walk_front h (Or.inl ?_)
  rw [List.all_cons, beq_eq_false_iff_ne.mpr hne, Bool.false_and]

theorem walk_idles (hxs : xs.all Route.isIdle = true) :
    tree.walk k here (xs ++ ys) = tree.walk k here ys := by
  induction xs with
  | nil => rfl
  | cons x xs ih =>
    rw [List.all_cons, Bool.and_eq_true] at hxs
    rw [List.cons_append, walk_idle hxs.1, ih hxs.2]

theorem walk_all_idle (hxs : xs.all Route.isIdle = true) :
    tree.walk k here xs = .ok (.directory here) := by
  rw [← List.append_nil xs, walk_idles hxs, walk_nil]

theorem walk_append_idles (hys : ys.all Route.isIdle = true) :
    tree.walk k here (xs ++ ys) = .ok (.directory p) ↔
      tree.walk k here xs = .ok (.directory p) := by
  have hon : ∀ {q}, tree.walk k here xs = .ok (.directory q) →
      tree.walk k here (xs ++ ys) = .ok (.directory q) := by
    intro q h
    obtain ⟨k', hk'⟩ := exists_walk_append h
    rw [hk' tree (Keeps.refl tree), walk_all_idle hys]
  refine ⟨fun h ↦ ?_, hon⟩
  obtain ⟨q, hq⟩ := exists_walk_front h (Or.inr ⟨p, rfl⟩)
  rwa [← h, hon hq]

/-! ## Where a walk ends -/

theorem Keeps.walk_file (hkeeps : tree.Keeps other)
    (h : tree.walk k here xs = .ok (.file p content slash)) :
    ∃ content', other.walk k here xs = .ok (.file p content' slash) := by
  rw [walk_iff] at h
  generalize hplace : Place.file p content slash = place at h
  induction h with
  | nil => exact absurd hplace nofun
  | idle hidle _ ih =>
    rw [walk_idle hidle]
    exact ih hplace
  | up _ ih =>
    rw [walk_up]
    exact ih hplace
  | directory hname hnode _ ih =>
    rw [FileTree.walk_directory hname (hkeeps.directory _ hnode)]
    exact ih hplace
  | file hname hnode hrest =>
    obtain ⟨rfl, -, rfl⟩ := Place.file.inj hplace
    obtain ⟨content', hnode'⟩ := hkeeps.file _ _ hnode
    exact ⟨content', by rw [FileTree.walk_file hname hnode', if_pos hrest]⟩
  | missing => exact absurd hplace nofun
  | link hname hnode _ ih =>
    rw [walk_succ_link hname (hkeeps.link _ _ hnode)]
    exact ih hplace

theorem Keeps.walk_missing (hkeeps : tree.Keeps other)
    (h : tree.walk k here xs = .ok (.missing p name slash))
    (hfile : other.node? (p ++ [name]) = some (.file content)) :
    other.walk k here xs = .ok (.file (p ++ [name]) content slash) := by
  rw [walk_iff] at h
  generalize hplace : Place.missing p name slash = place at h
  induction h with
  | nil => exact absurd hplace nofun
  | idle hidle _ ih =>
    rw [walk_idle hidle]
    exact ih hplace
  | up _ ih =>
    rw [walk_up]
    exact ih hplace
  | directory hname hnode _ ih =>
    rw [FileTree.walk_directory hname (hkeeps.directory _ hnode)]
    exact ih hplace
  | file => exact absurd hplace nofun
  | missing hname hnode hrest =>
    obtain ⟨rfl, rfl, rfl⟩ := Place.missing.inj hplace
    rw [FileTree.walk_file hname hfile, if_pos hrest]
  | link hname hnode _ ih =>
    rw [walk_succ_link hname (hkeeps.link _ _ hnode)]
    exact ih hplace

/-- Walks along the same fields end at the same place, unless the trees differ where the one ends
whose frame is part of the other. -/
theorem FrameIn.path_eq {place' : Place} (hframe : tree.FrameIn other)
    (h : tree.walk k here xs = .ok place) (hother : other.walk k here xs = .ok place')
    (hsame : other.node? place.path = tree.node? place.path) : place'.path = place.path := by
  rw [walk_iff] at h
  induction h with
  | nil =>
    rw [walk_nil] at hother
    rw [← Except.ok.inj hother]
  | idle hidle _ ih =>
    rw [walk_idle hidle] at hother
    exact ih hother hsame
  | up _ ih =>
    rw [walk_up] at hother
    exact ih hother hsame
  | directory hname hnode _ ih =>
    rw [FileTree.walk_directory hname (hframe.directory _ hnode)] at hother
    exact ih hother hsame
  | file hname hnode hrest =>
    rw [FileTree.walk_file hname (hsame.trans hnode), if_pos hrest] at hother
    rw [← Except.ok.inj hother]
  | missing hname hnode hrest =>
    rw [FileTree.walk_missing hname (hsame.trans hnode), if_pos hrest] at hother
    rw [← Except.ok.inj hother]
  | link hname hnode _ ih =>
    rw [walk_succ_link hname (hframe.link _ _ hnode)] at hother
    exact ih hother hsame

theorem path_ne_nil (h : tree.walk k here xs = .ok place) (hbare : place.IsBare) :
    place.path ≠ [] := by
  rw [walk_iff] at h
  induction h with
  | nil => exact absurd hbare id
  | idle _ _ ih => exact ih hbare
  | up _ ih => exact ih hbare
  | directory _ _ _ ih => exact ih hbare
  | file => exact List.concat_ne_nil _ _
  | missing => exact List.concat_ne_nil _ _
  | link _ _ _ ih => exact ih hbare

/-- What a tree says of the place where a walk ends. -/
def Stands (tree : FileTree) : Place → Prop
  | .directory p => tree.node? p = some .directory
  | .file p content _ => tree.node? p = some (.file content)
  | .missing parent name _ =>
    tree.node? parent = some .directory ∧ tree.node? (parent ++ [name]) = none

theorem WellFormed.dropLast (h : tree.WellFormed) (hp : tree.node? p = some .directory) :
    tree.node? p.dropLast = some .directory := by
  rcases List.eq_nil_or_concat p with rfl | ⟨q, name, rfl⟩
  · rfl
  · rw [List.concat_eq_append] at hp ⊢
    rw [List.dropLast_concat]
    exact h.parent hp

theorem WellFormed.walk_stands (hwf : tree.WellFormed)
    (hhere : tree.node? here = some .directory) (h : tree.walk k here xs = .ok place) :
    tree.Stands place := by
  rw [walk_iff] at h
  induction h with
  | nil => exact hhere
  | idle _ _ ih => exact ih hhere
  | up _ ih => exact ih (hwf.dropLast hhere)
  | directory _ hnode _ ih => exact ih hnode
  | file _ hnode _ => exact hnode
  | missing _ hnode _ => exact ⟨hhere, hnode⟩
  | link _ _ _ ih =>
    refine ih ?_
    rw [linkStart]
    split
    · rfl
    · exact hhere

theorem not_idle_of_walk {last : String} (h : tree.walk k here xs = .ok place)
    (hbare : place.IsBare) (hlast : xs.getLast? = some last) : Route.isIdle last = false := by
  rw [walk_iff] at h
  -- A walk that goes on along some fields does not end where these do if there are none.
  have later : ∀ {k : Nat} {here : TreePath} {field : String} {rest : Route},
      tree.Walks k here rest place → (field :: rest).getLast? = rest.getLast? := by
    intro k here field rest hwalks
    cases rest with
    | nil =>
      cases hwalks
      exact absurd hbare id
    | cons next rest => exact List.getLast?_cons_cons
  have alone : ∀ {name : String} {rest : Route}, IsName name → (!rest.isEmpty) = false →
      (name :: rest).getLast? = some last → Route.isIdle last = false := by
    intro name rest hname hrest hlast
    rw [Bool.not_eq_false', List.isEmpty_iff] at hrest
    subst hrest
    obtain rfl := Option.some.inj hlast
    exact hname.not_idle
  induction h with
  | nil => exact absurd hlast nofun
  | idle _ hrest ih => exact ih hbare ((later hrest).symm.trans hlast) later
  | up hrest ih => exact ih hbare ((later hrest).symm.trans hlast) later
  | directory _ _ hrest ih => exact ih hbare ((later hrest).symm.trans hlast) later
  | file hname _ _ => exact alone hname hbare hlast
  | missing hname _ _ => exact alone hname hbare hlast
  | @link k here name target rest place hname _ hrest ih =>
    cases rest with
    | nil => exact alone hname rfl hlast
    | cons next rest =>
      rw [List.getLast?_cons_cons] at hlast
      refine ih hbare ?_ later
      rw [List.getLast?_append, hlast, Option.some_or]

end FileTree

end Redline
