import Redline.Proofs.FileTree.Route

/-!
# Where a route leads, and where its last name stands

A route that can be written out leads where a walk along it ends. Its last name stands in the
directory to which the fields before it lead, even if nothing of that name is there.
-/

namespace Redline.FileTree

open Route

variable {tree other : FileTree} {route parent : Route} {here p : TreePath} {name : String}
  {place : Place} {content : Content} {fault : Fault}

/-! ## Locating -/

theorem locate_of_fits (h : route.Fits) : tree.locate route = tree.walk linkLimit [] route := by
  rw [locate, h.no_nul, if_neg Bool.false_ne_true, if_neg (Nat.not_le.mpr h.size_lt)]

theorem fits_of_locate (h : tree.locate route = .ok place) : route.Fits := by
  rw [locate] at h
  by_cases hnul : route.hasNul = true
  · rw [if_pos hnul] at h
    exact absurd h nofun
  · rw [if_neg hnul] at h
    by_cases hsize : sizeLimit ≤ route.size
    · rw [if_pos hsize] at h
      exact absurd h nofun
    · exact ⟨Bool.eq_false_iff.mpr hnul, Nat.not_le.mp hsize⟩

theorem walk_of_locate (h : tree.locate route = .ok place) :
    tree.walk linkLimit [] route = .ok place := by
  rwa [locate_of_fits (fits_of_locate h)] at h

theorem Keeps.locate_directory (hkeeps : tree.Keeps other)
    (h : tree.locate route = .ok (.directory p)) : other.locate route = .ok (.directory p) := by
  rw [locate_of_fits (fits_of_locate h)]
  exact hkeeps.walk_directory (walk_of_locate h)

theorem Keeps.locate_file (hkeeps : tree.Keeps other)
    (h : tree.locate route = .ok (.file p content false)) :
    ∃ content', other.locate route = .ok (.file p content' false) := by
  rw [locate_of_fits (fits_of_locate h)]
  exact hkeeps.walk_file (walk_of_locate h)

theorem WellFormed.locate_stands (hwf : tree.WellFormed) (h : tree.locate route = .ok place) :
    tree.Stands place :=
  hwf.walk_stands rfl (walk_of_locate h)

theorem Keeps.locate_eq_file {content' : Content} (hkeeps : tree.Keeps other)
    (hwf : other.WellFormed) (h : tree.locate route = .ok (.file p content false))
    (hnode : other.node? p = some (.file content')) :
    other.locate route = .ok (.file p content' false) := by
  obtain ⟨content'', hother⟩ := hkeeps.locate_file h
  have hstands : other.node? p = some (.file content'') := hwf.locate_stands hother
  rw [hnode] at hstands
  obtain rfl := Node.file.inj (Option.some.inj hstands)
  exact hother

theorem isDirectory_iff :
    tree.isDirectory route = true ↔ ∃ p, tree.locate route = .ok (.directory p) := by
  rw [isDirectory]
  split
  next p h => exact ⟨fun _ ↦ ⟨p, h⟩, fun _ ↦ rfl⟩
  next hne =>
    constructor
    · exact fun h ↦ absurd h Bool.false_ne_true
    · rintro ⟨p, hp⟩
      exact absurd hp (hne p)

/-- A route leads to something if it leads to a directory, or to a file that is not followed by a
slash. -/
theorem doesExist_iff : tree.doesExist route = true ↔
    (∃ p, tree.locate route = .ok (.directory p)) ∨
      ∃ p content, tree.locate route = .ok (.file p content false) := by
  rw [doesExist]
  cases hlocate : tree.locate route with
  | error e => simp
  | ok place =>
    match place with
    | .directory p => simp [Place.existing, Except.isOk, Except.toBool]
    | .file p content false => simp [Place.existing, Except.isOk, Except.toBool]
    | .file p content true => simp [Place.existing, Except.isOk, Except.toBool]
    | .missing parent name slash => simp [Place.existing, Except.isOk, Except.toBool]

theorem doesExist_of_missing {isBare : Bool}
    (h : tree.locate route = .ok (.missing parent name isBare)) : tree.doesExist route = false := by
  rw [doesExist, h]
  rfl

theorem Keeps.isDirectory (hkeeps : tree.Keeps other) (h : tree.isDirectory route = true) :
    other.isDirectory route = true := by
  obtain ⟨p, hp⟩ := isDirectory_iff.mp h
  exact isDirectory_iff.mpr ⟨p, hkeeps.locate_directory hp⟩

theorem Place.existing_eq_ok {place : Place} : place.existing = .ok p ↔
    place = .directory p ∨ ∃ content, place = .file p content false := by
  constructor
  · intro h
    match place, h with
    | .directory q, h => exact .inl (by rw [Except.ok.inj h])
    | .file q content false, h => exact .inr ⟨content, by rw [Except.ok.inj h]⟩
  · rintro (rfl | ⟨content, rfl⟩)
    · rfl
    · rfl

theorem realPath_iff : tree.realPath route = .ok p ↔ route.hasNul = false ∧
    (tree.walk linkLimit [] route = .ok (.directory p) ∨
      ∃ content, tree.walk linkLimit [] route = .ok (.file p content false)) := by
  simp only [realPath, follow, bind, Except.bind]
  by_cases hnul : route.hasNul = true
  · simp only [hnul, if_true, reduceCtorEq, false_and]
  · simp only [Bool.eq_false_iff.mpr hnul, if_neg Bool.false_ne_true, true_and]
    cases tree.walk linkLimit [] route with
    | error e => simp only [reduceCtorEq, exists_false, or_self]
    | ok place => simp only [Place.existing_eq_ok, Except.ok.injEq]

theorem realPath_of_locate_file (h : tree.locate route = .ok (.file p content false)) :
    tree.realPath route = .ok p :=
  realPath_iff.mpr ⟨(fits_of_locate h).no_nul, .inr ⟨content, walk_of_locate h⟩⟩

theorem readText_iff {s : String} :
    tree.readText route = .ok s ↔ ∃ p, tree.locate route = .ok (.file p (.text s) false) := by
  simp only [readText, readBytes, bind, Except.bind]
  constructor
  · intro h
    cases hlocate : tree.locate route with
    | error e =>
      rw [hlocate] at h
      exact absurd h nofun
    | ok place =>
      rw [hlocate] at h
      match place, h with
      | .file p (.text _) false, h => exact ⟨p, by rw [Except.ok.inj h]⟩
  · rintro ⟨p, hlocate⟩
    simp only [hlocate]

/-! ## The last name -/

theorem directoryOf_eq (hfits : route.Fits) (hsplit : route.splitLast? = some (parent, name))
    (hwalk : tree.walk linkLimit [] parent = .ok (.directory here)) :
    tree.directoryOf route = .ok (here, some name) := by
  rw [directoryOf, hfits.no_nul, if_neg Bool.false_ne_true,
    if_neg (Nat.not_le.mpr hfits.size_lt), hsplit]
  simp only [hwalk]
  rfl

theorem entryOf_eq (hfits : route.Fits) (hsplit : route.splitLast? = some (parent, name))
    (hwalk : tree.walk linkLimit [] parent = .ok (.directory here)) (hname : IsName name) :
    tree.entryOf fault route = .ok (here ++ [name]) := by
  have hdot : name ≠ "." := by
    rintro rfl
    exact absurd hname.not_idle (by decide)
  simp only [entryOf, directoryOf_eq hfits hsplit hwalk, bind, Except.bind]
  rw [if_neg (by simp [hdot, hname.ne_up]), if_neg (Bool.eq_false_iff.mp hname.short)]

theorem exists_of_directoryOf (h : tree.directoryOf route = .ok (here, some name)) :
    route.Fits ∧ ∃ parent, route.splitLast? = some (parent, name) ∧
      tree.walk linkLimit [] parent = .ok (.directory here) := by
  rw [directoryOf] at h
  by_cases hnul : route.hasNul = true
  · rw [if_pos hnul] at h
    exact absurd h nofun
  rw [if_neg hnul] at h
  by_cases hsize : sizeLimit ≤ route.size
  · rw [if_pos hsize] at h
    exact absurd h nofun
  rw [if_neg hsize] at h
  refine ⟨⟨Bool.eq_false_iff.mpr hnul, Nat.not_le.mp hsize⟩, ?_⟩
  cases hsplit : route.splitLast? with
  | none =>
    rw [hsplit] at h
    exact absurd (Prod.mk.inj (Except.ok.inj h)).2 nofun
  | some pair =>
    obtain ⟨parent, last⟩ := pair
    simp only [hsplit, bind, Except.bind] at h
    cases hwalk : tree.walk linkLimit [] parent with
    | error e =>
      rw [hwalk] at h
      exact absurd h nofun
    | ok place =>
      rw [hwalk] at h
      cases place with
      | directory p =>
        obtain ⟨rfl, hname⟩ := Prod.mk.inj (Except.ok.inj h)
        obtain rfl := Option.some.inj hname
        exact ⟨parent, rfl, hwalk⟩
      | file p content slash => exact absurd h nofun
      | missing p name slash => exact absurd h nofun

/-- The place of a last name is in the directory to which the fields before it lead; behind it there
are slashes only. -/
theorem exists_of_entryOf (h : tree.entryOf fault route = .ok p) :
    route.Fits ∧ ∃ parent name slashes here, route = parent ++ name :: slashes ∧
      slashes.all (· == "") = true ∧ IsName name ∧
        tree.walk linkLimit [] parent = .ok (.directory here) ∧ p = here ++ [name] := by
  simp only [entryOf, bind, Except.bind] at h
  cases hdirectory : tree.directoryOf route with
  | error e =>
    rw [hdirectory] at h
    exact absurd h nofun
  | ok pair =>
    obtain ⟨here, name⟩ := pair
    cases name with
    | none =>
      rw [hdirectory] at h
      exact absurd h nofun
    | some name =>
      obtain ⟨hfits, parent, hsplit, hwalk⟩ := exists_of_directoryOf hdirectory
      obtain ⟨slashes, hroute, hslashes, hne⟩ := eq_of_splitLast? hsplit
      rw [hdirectory] at h
      by_cases hdots : name = "." ∨ name = ".."
      · simp only [if_pos hdots] at h
        exact absurd h nofun
      · simp only [if_neg hdots] at h
        by_cases hlong : isTooLong name = true
        · rw [if_pos hlong] at h
          exact absurd h nofun
        · rw [if_neg hlong] at h
          rw [not_or] at hdots
          have hidle : isIdle name = false := by
            simp [isIdle, hne, hdots.1]
          exact ⟨hfits, parent, name, slashes, here, hroute, hslashes,
            ⟨hidle, hdots.2, Bool.eq_false_iff.mpr hlong⟩, hwalk, (Except.ok.inj h).symm⟩

end Redline.FileTree
