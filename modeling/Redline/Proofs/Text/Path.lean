import Redline.Proofs.Text.Trim
import Redline.Text.Path

/-!
# Normal forms of paths

A normal form is made in two steps: white space is cut off, and what is left is *squeezed*, which
drops the segments that lead nowhere. Squeezing twice is squeezing once, since the segments that are
kept are kept again. Normalizing twice is not normalizing once: a dropped segment may have stood
between the end of the path and white space, as in `./ a`, and then the normal form is one that a
second normalization would trim. This is the only way in which the two differ: a path on which they
agree is called *sealed*.

Squeezed spellings agree exactly if the spellings agree in their segments and in being absolute.
-/

namespace Redline.Text

variable {cs ds part : List Char} {segs : List (List Char)} {p q : String}

/-! ## Fields and what they are joined to -/

theorem fields_eq_splitOn (sep : Char) (cs : List Char) : fields sep cs = cs.splitOn sep := by
  change fields sep cs = cs.splitOnP (· == sep)
  induction cs with
  | nil => rfl
  | cons c cs ih =>
    rw [fields, ih, List.splitOnP_cons_eq_if_modifyHead]
    by_cases hc : c = sep
    · rw [if_pos hc, if_pos (beq_iff_eq.mpr hc)]
    · rw [if_neg hc, if_neg (by simpa using hc)]
      have hne : cs.splitOnP (· == sep) ≠ [] := List.splitOnP_ne_nil _ _
      cases hparts : cs.splitOnP (· == sep) with
      | nil => exact absurd hparts hne
      | cons first rest => rfl

theorem notMem_of_mem_fields {sep : Char} (h : part ∈ fields sep cs) : sep ∉ part := by
  induction cs generalizing part with
  | nil =>
    obtain rfl := List.mem_singleton.mp h
    exact List.not_mem_nil
  | cons c cs ih =>
    rw [fields] at h
    split at h
    next =>
      rcases List.mem_cons.mp h with rfl | h
      · exact List.not_mem_nil
      · exact ih h
    next hc =>
      split at h
      next =>
        obtain rfl := List.mem_singleton.mp h
        exact fun hmem ↦ hc (List.mem_singleton.mp hmem).symm
      next first rest heq =>
        have hrest : ∀ part ∈ first :: rest, sep ∉ part := fun part hpart ↦ ih (heq ▸ hpart)
        rcases List.mem_cons.mp h with rfl | h
        · intro hmem
          rcases List.mem_cons.mp hmem with hsep | hmem
          · exact hc hsep.symm
          · exact hrest first List.mem_cons_self hmem
        · exact hrest part (List.mem_cons_of_mem first h)

theorem intercalate_fields (sep : Char) (cs : List Char) :
    [sep].intercalate (fields sep cs) = cs := by
  rw [fields_eq_splitOn, List.intercalate_splitOn]

theorem fields_intercalate {sep : Char} (hparts : ∀ part ∈ segs, sep ∉ part) (hne : segs ≠ []) :
    fields sep ([sep].intercalate segs) = segs := by
  rw [fields_eq_splitOn, List.splitOn_intercalate sep hparts hne]

/-- Leaving out parts leaves out what was joined of them. -/
theorem intercalate_filter_sublist (sep : Char) (keep : List Char → Bool)
    (parts : List (List Char)) :
    ([sep].intercalate (parts.filter keep)).Sublist ([sep].intercalate parts) := by
  induction parts with
  | nil => exact List.Sublist.refl _
  | cons first rest ih =>
    have hrest : ([sep].intercalate rest).Sublist ([sep].intercalate (first :: rest)) := by
      cases rest with
      | nil => exact List.nil_sublist _
      | cons second rest =>
        rw [List.intercalate_cons_cons]
        exact List.sublist_append_right _ _
    by_cases hkeep : keep first
    · rw [List.filter_cons_of_pos hkeep]
      cases rest with
      | nil => exact List.Sublist.refl _
      | cons second rest =>
        rw [List.intercalate_cons_cons]
        generalize hkept : (second :: rest).filter keep = kept at ih ⊢
        cases kept with
        | nil =>
          rw [List.intercalate_singleton, List.append_assoc]
          exact List.sublist_append_left _ _
        | cons third kept =>
          rw [List.intercalate_cons_cons]
          exact ih.append_left _
    · rw [List.filter_cons_of_neg hkeep]
      exact ih.trans hrest

/-! ## Segments -/

theorem isSegment_iff : isSegment part = true ↔ part ≠ [] ∧ part ≠ ['.'] := by
  rw [isSegment, Bool.and_eq_true, Bool.not_eq_true', List.isEmpty_eq_false_iff, bne_iff_ne]

theorem of_mem_segments (h : part ∈ segments cs) : isSegment part = true ∧ '/' ∉ part := by
  obtain ⟨hmem, hsegment⟩ := List.mem_filter.mp h
  exact ⟨hsegment, notMem_of_mem_fields hmem⟩

theorem segments_cons_slash (cs : List Char) : segments ('/' :: cs) = segments cs := by
  rw [segments, fields, if_pos rfl, List.filter_cons_of_neg (by decide)]
  rfl

theorem segments_intercalate (h : ∀ part ∈ segs, isSegment part = true ∧ '/' ∉ part) :
    segments (['/'].intercalate segs) = segs := by
  rw [segments]
  cases segs with
  | nil => rfl
  | cons first rest =>
    rw [fields_intercalate (fun part hpart ↦ (h part hpart).2) (List.cons_ne_nil _ _)]
    exact List.filter_eq_self.mpr fun part hpart ↦ (h part hpart).1

theorem head?_intercalate_cons (sep : Char) (hne : part ≠ []) (rest : List (List Char)) :
    ([sep].intercalate (part :: rest)).head? = part.head? := by
  cases rest with
  | nil => rw [List.intercalate_singleton]
  | cons second rest =>
    rw [List.intercalate_cons_cons, List.append_assoc, List.head?_append_of_ne_nil _ hne]

theorem getLast?_intercalate_concat (sep : Char) (hne : part ≠ []) (front : List (List Char)) :
    ([sep].intercalate (front ++ [part])).getLast? = part.getLast? := by
  induction front with
  | nil => rw [List.nil_append, List.intercalate_singleton]
  | cons first front ih =>
    obtain ⟨second, rest, hrest⟩ : ∃ second rest, front ++ [part] = second :: rest :=
      List.exists_cons_of_ne_nil (List.append_ne_nil_of_right_ne_nil _ (List.cons_ne_nil _ _))
    rw [hrest] at ih
    have hjoined : [sep].intercalate (second :: rest) ≠ [] := by
      intro hnil
      rw [hnil, List.getLast?_nil, eq_comm, List.getLast?_eq_none_iff] at ih
      exact hne ih
    rw [List.cons_append, hrest, List.intercalate_cons_cons,
      List.getLast?_append_of_ne_nil _ hjoined, ih]

theorem head?_intercalate_ne (h : ∀ part ∈ segs, isSegment part = true ∧ '/' ∉ part) :
    (['/'].intercalate segs).head? ≠ some '/' := by
  cases segs with
  | nil => exact nofun
  | cons first rest =>
    obtain ⟨hsegment, hslash⟩ := h first List.mem_cons_self
    rw [head?_intercalate_cons '/' (isSegment_iff.mp hsegment).1]
    exact fun hhead ↦ hslash (List.mem_of_head? hhead)

/-! ## Squeezing -/

/-- A spelling without the segments that lead nowhere. -/
def squeezed (cs : List Char) : List Char :=
  if cs.head? = some '/' then '/' :: ['/'].intercalate (segments cs)
  else ['/'].intercalate (segments cs)

theorem normalizeChars_eq_squeezed (cs : List Char) :
    normalizeChars cs = squeezed (trimChars cs) := rfl

@[simp] theorem segments_squeezed (cs : List Char) : segments (squeezed cs) = segments cs := by
  have hjoined : segments (['/'].intercalate (segments cs)) = segments cs :=
    segments_intercalate fun part hpart ↦ of_mem_segments hpart
  rw [squeezed]
  split
  · rw [segments_cons_slash, hjoined]
  · exact hjoined

theorem head?_squeezed_iff : (squeezed cs).head? = some '/' ↔ cs.head? = some '/' := by
  have hjoined : (['/'].intercalate (segments cs)).head? ≠ some '/' :=
    head?_intercalate_ne fun part hpart ↦ of_mem_segments hpart
  rw [squeezed]
  split
  next habsolute => exact iff_of_true rfl habsolute
  next hrelative => exact iff_of_false hjoined hrelative

/-- **Squeezed spellings** show whether a path is absolute, and its segments, and nothing else. -/
theorem squeezed_eq_iff : squeezed cs = squeezed ds ↔
    (cs.head? = some '/' ↔ ds.head? = some '/') ∧ segments cs = segments ds := by
  constructor
  · intro h
    refine ⟨?_, ?_⟩
    · rw [← head?_squeezed_iff, h, head?_squeezed_iff]
    · rw [← segments_squeezed cs, h, segments_squeezed]
  · rintro ⟨habsolute, hsegments⟩
    rw [squeezed, squeezed, hsegments]
    simp only [habsolute]

@[simp] theorem squeezed_squeezed (cs : List Char) : squeezed (squeezed cs) = squeezed cs :=
  squeezed_eq_iff.mpr ⟨head?_squeezed_iff, segments_squeezed cs⟩

theorem squeezed_sublist (cs : List Char) : (squeezed cs).Sublist cs := by
  rw [squeezed]
  split
  next habsolute =>
    obtain ⟨rest, rfl⟩ := List.head?_eq_some_iff.mp habsolute
    rw [segments_cons_slash]
    have hrest := intercalate_filter_sublist '/' isSegment (fields '/' rest)
    rw [intercalate_fields] at hrest
    exact hrest.cons_cons '/'
  next =>
    have hjoined := intercalate_filter_sublist '/' isSegment (fields '/' cs)
    rwa [intercalate_fields] at hjoined

/-! ## Normal forms -/

theorem normalizePath_of_trimmed (h : Trimmed p) :
    normalizePath p = String.ofList (squeezed p.toList) := by
  rw [normalizePath, normalizeChars_eq_squeezed, trimmed_iff.mp h]

@[simp] theorem normalizePath_trim (p : String) : normalizePath (trim p) = normalizePath p := by
  rw [normalizePath, normalizePath, normalizeChars_eq_squeezed, normalizeChars_eq_squeezed, trim,
    String.toList_ofList, trimChars_trimChars]

theorem normalizePath_of_blank (h : isBlankText p = true) : normalizePath p = "" := by
  rw [normalizePath, normalizeChars_eq_squeezed, trimChars_eq_nil_iff.mpr h]
  rfl

/-- **A normal form is its own normal form exactly if it has no white space around it.** -/
theorem normalizePath_normalizePath_iff :
    normalizePath (normalizePath p) = normalizePath p ↔ Trimmed (normalizePath p) := by
  have hform : (normalizePath p).toList = squeezed (trimChars p.toList) := by
    rw [normalizePath, String.toList_ofList, normalizeChars_eq_squeezed]
  constructor
  · intro h
    -- What is trimmed off would be missing in the second normal form.
    have hsame : squeezed (trimChars (normalizePath p).toList) = (normalizePath p).toList := by
      rw [← normalizeChars_eq_squeezed, ← String.toList_ofList (l := normalizeChars _)]
      exact congrArg String.toList h
    have htrim : (trimChars (normalizePath p).toList).Sublist (normalizePath p).toList :=
      trimChars_sublist _
    have hsqueeze := squeezed_sublist (trimChars (normalizePath p).toList)
    rw [hsame] at hsqueeze
    exact trimmed_iff.mpr (htrim.eq_of_length_le hsqueeze.length_le)
  · intro h
    rw [normalizePath_of_trimmed h, hform, squeezed_squeezed, ← hform, String.ofList_toList]

/-- Spellings without white space around them have the same normal form exactly if both or neither
are absolute and their segments are the same. -/
theorem normalizePath_eq_iff (hp : Trimmed p) (hq : Trimmed q) :
    normalizePath p = normalizePath q ↔
      (p.toList.head? = some '/' ↔ q.toList.head? = some '/') ∧
        segments p.toList = segments q.toList := by
  rw [normalizePath_of_trimmed hp, normalizePath_of_trimmed hq, ← squeezed_eq_iff,
    ← String.toList_inj, String.toList_ofList, String.toList_ofList]

/-! ## Canonical spellings -/

/-- What follows the leading slash of an absolute path; a relative path as a whole. -/
def unrooted : List Char → List Char
  | '/' :: cs => cs
  | cs => cs

/-- No part of a path between slashes is empty or a single dot. Only the part before the leading
slash is not looked at, and a path that has nothing behind it is in order. -/
def Canonical (cs : List Char) : Prop :=
  unrooted cs = [] ∨ ∀ part ∈ fields '/' (unrooted cs), part ≠ [] ∧ part ≠ ['.']

theorem unrooted_of_head?_ne (h : cs.head? ≠ some '/') : unrooted cs = cs := by
  unfold unrooted
  split
  · exact absurd rfl h
  · rfl

theorem unrooted_squeezed (cs : List Char) :
    unrooted (squeezed cs) = ['/'].intercalate (segments cs) := by
  rw [squeezed]
  split
  · rfl
  · exact unrooted_of_head?_ne (head?_intercalate_ne fun part hpart ↦ of_mem_segments hpart)

theorem canonical_squeezed (cs : List Char) : Canonical (squeezed cs) := by
  rw [Canonical, unrooted_squeezed]
  by_cases hnone : segments cs = []
  · left
    rw [hnone]
    rfl
  · right
    rw [fields_intercalate (fun part hpart ↦ (of_mem_segments hpart).2) hnone]
    exact fun part hpart ↦ isSegment_iff.mp (of_mem_segments hpart).1

/-- No white space comes to stand at an end of a path when segments are dropped. -/
structure Sealed (cs : List Char) : Prop where
  /-- The first segment that is kept begins with no white space, unless a slash is before it. -/
  front : cs.head? ≠ some '/' → ∀ part ∈ (segments cs).head?, ∀ c ∈ part.head?, isBlank c = false
  /-- The last segment that is kept ends with no white space. -/
  back : ∀ part ∈ (segments cs).getLast?, ∀ c ∈ part.getLast?, isBlank c = false

theorem head?_joined (cs : List Char) :
    (['/'].intercalate (segments cs)).head? = (segments cs).head?.bind List.head? := by
  cases hsegments : segments cs with
  | nil => rfl
  | cons first rest =>
    have hfirst : first ∈ segments cs := hsegments ▸ List.mem_cons_self
    rw [head?_intercalate_cons '/' (isSegment_iff.mp (of_mem_segments hfirst).1).1]
    rfl

theorem getLast?_joined (cs : List Char) :
    (['/'].intercalate (segments cs)).getLast? = (segments cs).getLast?.bind List.getLast? := by
  rcases List.eq_nil_or_concat (segments cs) with hsegments | ⟨front, last, hsegments⟩
  · rw [hsegments]
    rfl
  · have hlast : last ∈ segments cs := by simp [hsegments]
    rw [hsegments, List.concat_eq_append,
      getLast?_intercalate_concat '/' (isSegment_iff.mp (of_mem_segments hlast).1).1,
      List.getLast?_concat]
    rfl

/-- **A squeezed spelling has no white space around it exactly if the path is sealed.** -/
theorem trimChars_squeezed_iff : trimChars (squeezed cs) = squeezed cs ↔ Sealed cs := by
  have hsealed : Sealed cs ↔
      (cs.head? ≠ some '/' → ∀ c ∈ (['/'].intercalate (segments cs)).head?, isBlank c = false) ∧
        ∀ c ∈ (['/'].intercalate (segments cs)).getLast?, isBlank c = false := by
    rw [head?_joined, getLast?_joined]
    simp only [Option.mem_def, Option.bind_eq_some_iff]
    constructor
    · rintro ⟨hfront, hback⟩
      exact ⟨fun hrelative c ⟨part, hpart, hc⟩ ↦ hfront hrelative part hpart c hc,
        fun c ⟨part, hpart, hc⟩ ↦ hback part hpart c hc⟩
    · rintro ⟨hfront, hback⟩
      exact ⟨fun hrelative part hpart c hc ↦ hfront hrelative c ⟨part, hpart, hc⟩,
        fun part hpart c hc ↦ hback c ⟨part, hpart, hc⟩⟩
  have hslash : isBlank '/' = false := by decide
  rw [trimChars_eq_self_iff, hsealed, squeezed]
  split
  next habsolute =>
    -- The leading slash is the first character, and the last one of a path without segments.
    generalize ['/'].intercalate (segments cs) = joined
    have hlast : (∀ c ∈ ('/' :: joined).getLast?, isBlank c = false) ↔
        ∀ c ∈ joined.getLast?, isBlank c = false := by
      cases joined with
      | nil => exact iff_of_true (fun c hc ↦ Option.some.inj hc ▸ hslash) nofun
      | cons c joined => rw [List.getLast?_cons_cons]
    refine and_congr (iff_of_true ?_ (absurd habsolute)) hlast
    exact fun c hc ↦ Option.some.inj hc ▸ hslash
  next hrelative => rw [forall_prop_of_true hrelative]

theorem sealed_of_trimmed (h : ∀ part ∈ segments cs, trimChars part = part) : Sealed cs where
  front _ part hpart := (trimChars_eq_self_iff.mp (h part (List.mem_of_head? hpart))).1
  back part hpart := (trimChars_eq_self_iff.mp (h part (List.mem_of_getLast? hpart))).2

/-- **Normal forms are canonical, and stable exactly if the path is sealed.** A normal form has no
empty and no `.` segment behind its leading slash, which it has exactly if the path begins with one.
It is its own normal form if and only if the path, without the white space around it, is sealed, and
so it is if no segment has white space around it. -/
theorem stable_normalizePath_iff (p : String) :
    Canonical (normalizePath p).toList ∧
    ((normalizePath p).toList.head? = some '/' ↔ (trim p).toList.head? = some '/') ∧
    (normalizePath (normalizePath p) = normalizePath p ↔ Sealed (trim p).toList) ∧
    ((∀ part ∈ segments (trim p).toList, trimChars part = part) →
      normalizePath (normalizePath p) = normalizePath p) := by
  have hform : (normalizePath p).toList = squeezed (trim p).toList := by
    rw [← normalizePath_trim, normalizePath_of_trimmed (trimmed_trim p), String.toList_ofList]
  have hstable : normalizePath (normalizePath p) = normalizePath p ↔ Sealed (trim p).toList := by
    rw [normalizePath_normalizePath_iff, trimmed_iff, hform, trimChars_squeezed_iff]
  rw [hform]
  exact ⟨canonical_squeezed _, head?_squeezed_iff, hstable,
    fun htrimmed ↦ hstable.mpr (sealed_of_trimmed htrimmed)⟩

/-- White space behind a dropped segment becomes the beginning of the normal form, and is cut off
when the normal form is normalized again. -/
theorem not_stable_dot_blank :
    normalizePath "./ a" = " a" ∧ normalizePath " a" = "a" ∧
      normalizePath (normalizePath "./ a") ≠ normalizePath "./ a" := by decide

end Redline.Text
