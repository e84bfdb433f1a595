import Redline.FileTree.Change
import Redline.Proofs.FileTree.Walk

/-!
# Routes name by name

A route that ends with a name is the route above it, some fields that lead nowhere, and that name.
The routes above a route are found by taking it apart like this again and again, whatever fields
lead nowhere at its end.
-/

namespace Redline

namespace Route

variable {m s xs ys : Route} {name : String}

/-! ## Clean routes -/

/-- A route that is empty or ends with a name, as does what is left without that name. -/
inductive Clean : Route → Prop
  | root : Clean []
  | under {m xs : Route} {name : String} : Clean m → xs.all isIdle = true →
    isIdle name = false → Clean (m ++ xs ++ [name])

/-- A route without the fields at its end that lead nowhere. -/
def trimmed (route : Route) : Route := (route.reverse.dropWhile isIdle).reverse

theorem clean_reverse_dropWhile (l : List String) : Clean (l.dropWhile isIdle).reverse := by
  induction l with
  | nil => exact .root
  | cons field rest ih =>
    rw [List.dropWhile_cons]
    by_cases hidle : isIdle field = true
    · rw [if_pos hidle]
      exact ih
    · have hsplit : rest.takeWhile isIdle ++ rest.dropWhile isIdle = rest :=
        List.takeWhile_append_dropWhile
      rw [if_neg hidle, List.reverse_cons, ← hsplit, List.reverse_append]
      refine .under ih ?_ (Bool.eq_false_iff.mpr hidle)
      rw [List.all_reverse]
      exact List.all_takeWhile

theorem clean_trimmed (route : Route) : Clean (trimmed route) := clean_reverse_dropWhile _

theorem exists_trimmed_append (route : Route) :
    ∃ ys, route = trimmed route ++ ys ∧ ys.all isIdle = true := by
  refine ⟨(route.reverse.takeWhile isIdle).reverse, ?_, ?_⟩
  · rw [trimmed, ← List.reverse_append, List.takeWhile_append_dropWhile, List.reverse_reverse]
  · rw [List.all_reverse]
    exact List.all_takeWhile

theorem Clean.dropWhile_reverse (h : Clean m) : m.reverse.dropWhile isIdle = m.reverse := by
  cases h with
  | root => rfl
  | under _ _ hname => simp [hname]

theorem dropWhile_idles_append (hxs : xs.all isIdle = true) :
    (xs.reverse ++ ys).dropWhile isIdle = ys.dropWhile isIdle := by
  refine List.dropWhile_append_of_pos fun x hx ↦ ?_
  exact List.all_eq_true.mp hxs x (List.mem_reverse.mp hx)

theorem trimmed_append (hs : Clean s) (hys : ys.all isIdle = true) : trimmed (s ++ ys) = s := by
  rw [trimmed, List.reverse_append, dropWhile_idles_append hys, hs.dropWhile_reverse,
    List.reverse_reverse]

theorem Clean.trimmed_eq (h : Clean m) : trimmed m = m := by
  rw [trimmed, h.dropWhile_reverse, List.reverse_reverse]

theorem trimmed_eq (h : ∀ last, s.getLast? = some last → isIdle last = false) :
    trimmed s = s := by
  rw [← List.head?_reverse] at h
  rw [trimmed]
  cases hs : s.reverse with
  | nil => rw [← List.reverse_reverse s, hs]; rfl
  | cons last rest =>
    rw [List.dropWhile_cons, if_neg, ← hs, List.reverse_reverse]
    rw [hs] at h
    rw [h last rfl]
    exact Bool.false_ne_true

/-! ## The routes above -/

theorem aboveReversed_idles_append (hxs : xs.all isIdle = true) :
    aboveReversed (xs.reverse ++ ys) = aboveReversed ys := by
  have hall : ∀ x ∈ xs.reverse, isIdle x = true := fun x hx ↦
    List.all_eq_true.mp hxs x (List.mem_reverse.mp hx)
  generalize xs.reverse = zs at hall
  induction zs with
  | nil => rfl
  | cons z zs ih =>
    rw [List.cons_append, aboveReversed, if_pos (hall z List.mem_cons_self)]
    exact ih fun x hx ↦ hall x (List.mem_cons_of_mem z hx)

theorem above_append (hys : ys.all isIdle = true) : above (s ++ ys) = above s := by
  rw [above, List.reverse_append, aboveReversed_idles_append hys, above]

theorem above_trimmed (route : Route) : above (trimmed route) = above route := by
  obtain ⟨ys, hroute, hys⟩ := exists_trimmed_append route
  calc above (trimmed route) = above (trimmed route ++ ys) := (above_append hys).symm
    _ = above route := by rw [← hroute]

theorem above_below (hm : Clean m) (hxs : xs.all isIdle = true) (hname : isIdle name = false) :
    above (m ++ xs ++ [name]) = m :: above m := by
  rw [above, List.reverse_append, List.reverse_append, List.reverse_singleton,
    List.singleton_append, aboveReversed, if_neg (Bool.eq_false_iff.mp hname),
    dropWhile_idles_append hxs, aboveReversed_idles_append hxs, hm.dropWhile_reverse,
    List.reverse_reverse, above]

theorem Clean.of_mem_above (hs : Clean s) (h : m ∈ above s) :
    Clean m ∧ m <+: s ∧ above m ⊆ above s := by
  induction hs with
  | root => exact absurd h List.not_mem_nil
  | @under m' xs name hm' hxs hname ih =>
    rw [above_below hm' hxs hname] at h ⊢
    have hbelow : m' <+: m' ++ xs ++ [name] := by
      rw [List.append_assoc]
      exact List.prefix_append _ _
    rcases List.mem_cons.mp h with rfl | h
    · exact ⟨hm', hbelow, List.subset_cons_self _ _⟩
    · obtain ⟨hclean, hpre, hsubset⟩ := ih h
      exact ⟨hclean, hpre.trans hbelow, fun r hr ↦ List.mem_cons_of_mem _ (hsubset hr)⟩

/-- The routes above a route are clean, it goes on from them, and what is above them is above it. -/
theorem of_mem_above (h : m ∈ above s) : Clean m ∧ m <+: s ∧ above m ⊆ above s := by
  obtain ⟨ys, hs, -⟩ := exists_trimmed_append s
  rw [← above_trimmed s] at h ⊢
  obtain ⟨hclean, hpre, hsubset⟩ := (clean_trimmed s).of_mem_above h
  exact ⟨hclean, hpre.trans ⟨ys, hs.symm⟩, hsubset⟩

/-! ## What can be written out -/

/-- A route that can be written out. -/
structure Fits (route : Route) : Prop where
  no_nul : route.hasNul = false
  size_lt : route.size < sizeLimit

theorem size_append (xs ys : Route) : size (xs ++ ys) = size xs + size ys := by
  induction xs with
  | nil => exact (Nat.zero_add _).symm
  | cons field rest ih =>
    rw [List.cons_append, size, size, ih]
    omega

theorem fits_append : Fits (xs ++ ys) → Fits xs := by
  rintro ⟨hnul, hsize⟩
  refine ⟨?_, ?_⟩
  · rw [hasNul, List.any_append, Bool.or_eq_false_iff] at hnul
    exact hnul.1
  · rw [size_append] at hsize
    exact Nat.lt_of_le_of_lt (Nat.le_add_right _ _) hsize

theorem Fits.above {route : Route} (h : route.Fits) (hm : m ∈ above route) : m.Fits := by
  obtain ⟨-, ⟨zs, rfl⟩, -⟩ := of_mem_above hm
  exact fits_append h

/-! ## The last name -/

theorem splitLast?_below (hname : isIdle name = false) :
    splitLast? (m ++ xs ++ [name]) = some (m ++ xs, name) := by
  have hne : (name == "") = false := by
    rw [beq_eq_false_iff_ne]
    rintro rfl
    exact absurd hname (by decide)
  rw [splitLast?, List.reverse_append, List.reverse_singleton, List.singleton_append,
    List.dropWhile_cons, if_neg (Bool.eq_false_iff.mp hne)]
  simp

theorem eq_of_splitLast? {route parent : Route} (h : splitLast? route = some (parent, name)) :
    ∃ slashes, route = parent ++ name :: slashes ∧ slashes.all (· == "") = true ∧ name ≠ "" := by
  rw [splitLast?] at h
  cases hrest : route.reverse.dropWhile (· == "") with
  | nil =>
    rw [hrest] at h
    exact absurd h nofun
  | cons last rest =>
    rw [hrest] at h
    obtain ⟨rfl, rfl⟩ := Prod.mk.inj (Option.some.inj h)
    refine ⟨(route.reverse.takeWhile (· == "")).reverse, ?_, ?_, ?_⟩
    · have hsplit := List.takeWhile_append_dropWhile (p := (· == "")) (l := route.reverse)
      rw [hrest] at hsplit
      calc route = route.reverse.reverse := (List.reverse_reverse route).symm
        _ = (route.reverse.takeWhile (· == "") ++ last :: rest).reverse := by rw [hsplit]
        _ = rest.reverse ++ last :: (route.reverse.takeWhile (· == "")).reverse := by
          rw [List.reverse_append, List.reverse_cons, List.append_assoc, List.singleton_append]
    · rw [List.all_reverse]
      exact List.all_takeWhile
    · have hhead := List.head_dropWhile_not (· == "") (l := route.reverse) (by simp [hrest])
      simpa [hrest] using hhead

end Route

end Redline
