import Redline.Text.Split

/-!
# Cutting what was put together

Cutting at a character gives back the parts between which it was put, provided that the first part
does not hold it, and dropping a beginning or an ending gives back what was put beside it. Cutting
at the last occurrence is cutting the reversed text at the first one.
-/

namespace Redline.Text

variable {p : Char → Bool} {cs before after beginning ending rest : List Char}

/-! ## Cutting once -/

theorem cutFirst?_append {p : Char → Bool} {before : List Char} {c : Char} (after : List Char)
    (hbefore : ∀ d ∈ before, p d = false) (hc : p c = true) :
    cutFirst? p (before ++ c :: after) = some (before, after) := by
  induction before with
  | nil => rw [List.nil_append, cutFirst?, if_pos hc]
  | cons d before ih =>
    have hd : p d = false := hbefore d List.mem_cons_self
    rw [List.cons_append, cutFirst?, if_neg (by rw [hd]; exact Bool.false_ne_true),
      ih fun e he ↦ hbefore e (List.mem_cons_of_mem d he)]
    rfl

theorem cutFirst?_eq_none (h : ∀ d ∈ cs, p d = false) : cutFirst? p cs = none := by
  induction cs with
  | nil => rfl
  | cons d cs ih =>
    obtain ⟨hd, hcs⟩ := List.forall_mem_cons.mp h
    rw [cutFirst?, if_neg (by rw [hd]; exact Bool.false_ne_true), ih hcs]
    rfl

theorem exists_first_or_none (p : Char → Bool) (cs : List Char) :
    (∃ before c after, cs = before ++ c :: after ∧ (∀ d ∈ before, p d = false) ∧ p c = true) ∨
      ∀ d ∈ cs, p d = false := by
  induction cs with
  | nil => exact .inr nofun
  | cons d cs ih =>
    cases hd : p d with
    | true => exact .inl ⟨[], d, cs, rfl, nofun, hd⟩
    | false =>
      rcases ih with ⟨before, c, after, rfl, hbefore, hc⟩ | hnone
      · exact .inl ⟨d :: before, c, after, rfl, List.forall_mem_cons.mpr ⟨hd, hbefore⟩, hc⟩
      · exact .inr (List.forall_mem_cons.mpr ⟨hd, hnone⟩)

theorem cutLast?_append (before : List Char) {c : Char} (hafter : ∀ d ∈ after, p d = false)
    (hc : p c = true) : cutLast? p (before ++ c :: after) = some (before, after) := by
  have hreverse : (before ++ c :: after).reverse = after.reverse ++ c :: before.reverse := by
    rw [List.reverse_append, List.reverse_cons, List.append_assoc, List.singleton_append]
  rw [cutLast?, hreverse,
    cutFirst?_append _ (fun d hd ↦ hafter d (List.mem_reverse.mp hd)) hc, Option.map_some]
  exact congrArg some (Prod.ext (List.reverse_reverse _) (List.reverse_reverse _))

theorem cutLast?_eq_none (h : ∀ d ∈ cs, p d = false) : cutLast? p cs = none := by
  rw [cutLast?, cutFirst?_eq_none fun d hd ↦ h d (List.mem_reverse.mp hd), Option.map_none]

theorem exists_last_or_none (p : Char → Bool) (cs : List Char) :
    (∃ before c after, cs = before ++ c :: after ∧ p c = true ∧ ∀ d ∈ after, p d = false) ∨
      ∀ d ∈ cs, p d = false := by
  rcases exists_first_or_none p cs.reverse with ⟨after, c, before, hcs, hafter, hc⟩ | hnone
  · refine .inl ⟨before.reverse, c, after.reverse, ?_, hc, ?_⟩
    · rw [← List.reverse_reverse cs, hcs, List.reverse_append, List.reverse_cons, List.append_assoc,
        List.singleton_append]
    · exact fun d hd ↦ hafter d (List.mem_reverse.mp hd)
  · exact .inr fun d hd ↦ hnone d (List.mem_reverse.mpr hd)

/-! ## Beginnings and endings -/

@[simp] theorem dropBeginning?_append (beginning rest : List Char) :
    dropBeginning? beginning (beginning ++ rest) = some rest := by
  induction beginning with
  | nil => rw [List.nil_append, dropBeginning?]
  | cons c beginning ih => rw [List.cons_append, dropBeginning?, if_pos rfl, ih]

@[simp] theorem dropEnding?_append (rest ending : List Char) :
    dropEnding? ending (rest ++ ending) = some rest := by
  rw [dropEnding?, List.reverse_append, dropBeginning?_append, Option.map_some,
    List.reverse_reverse]

theorem dropBeginning?_eq_some_iff :
    dropBeginning? beginning cs = some rest ↔ beginning ++ rest = cs := by
  constructor
  · intro h
    induction beginning generalizing cs with
    | nil =>
      rw [dropBeginning?] at h
      exact (Option.some.inj h).symm
    | cons b beginning ih =>
      cases cs with
      | nil => cases h
      | cons c cs =>
        rw [dropBeginning?] at h
        split at h
        next heq => rw [List.cons_append, heq, ih h]
        next => cases h
  · rintro rfl
    exact dropBeginning?_append beginning rest

theorem dropEnding?_eq_some_iff : dropEnding? ending cs = some rest ↔ rest ++ ending = cs := by
  constructor
  · intro h
    obtain ⟨back, hback, rfl⟩ := Option.map_eq_some_iff.mp h
    rw [← List.reverse_inj, List.reverse_append, List.reverse_reverse]
    exact dropBeginning?_eq_some_iff.mp hback
  · rintro rfl
    exact dropEnding?_append rest ending

theorem endsWith_iff : endsWith ending cs = true ↔ ending <:+ cs := by
  rw [endsWith, Option.isSome_iff_exists]
  exact exists_congr fun _ ↦ dropEnding?_eq_some_iff

end Redline.Text
