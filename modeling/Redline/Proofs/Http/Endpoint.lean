import Redline.Http.Endpoint
import Redline.Proofs.Text.Split
import Redline.Proofs.Text.Trim

/-!
# Addresses of the route

An endpoint becomes an address in two steps: slashes are dropped from the end of its *origin*, which
is the endpoint as configured or the usual address, and the route is put behind what is left unless
it is there. What comes out *names the route*: it ends with it and has no white space around it. A
text that names the route is not changed, since neither step finds anything to do. So the addresses
of the route are exactly the endpoints that stay as they are, and normalizing an address once more
gives it back.

White space is cut off before the slashes are dropped and not again afterwards, but it cannot come
to stand at an end: in front nothing is dropped, and behind it is followed by the route.

More slashes behind an endpoint make no difference. The blank endpoint is the exception: it stands
for the usual address, while slashes alone stand for no address at all.
-/

namespace Redline.Http

open Redline.Text

variable {cs base : List Char} {s : String}

/-! ## Slashes at the end -/

def slashes (n : Nat) : List Char := List.replicate n '/'

theorem dropSlashes_eq_self (h : cs.getLast? ≠ some '/') : dropSlashes cs = cs := by
  refine rdropWhile_eq_self_iff_getLast?.mpr fun c hc ↦ beq_eq_false_iff_ne.mpr ?_
  rintro rfl
  exact h hc

theorem dropSlashes_append_slashes (cs : List Char) (n : Nat) :
    dropSlashes (cs ++ slashes n) = dropSlashes cs := by
  rw [dropSlashes, slashes, List.reverse_append, List.reverse_replicate,
    List.dropWhile_append_of_pos fun c hc ↦ beq_iff_eq.mpr (List.eq_of_mem_replicate hc)]
  rfl

theorem trimChars_append_slashes (htrimmed : trimChars cs = cs) (hne : cs ≠ []) (n : Nat) :
    trimChars (cs ++ slashes n) = cs ++ slashes n := by
  obtain ⟨hfront, hback⟩ := trimChars_eq_self_iff.mp htrimmed
  refine trimChars_eq_self_iff.mpr ⟨?_, ?_⟩
  · rwa [List.head?_append_of_ne_nil _ hne]
  · cases n with
    | zero => rwa [slashes, List.replicate_zero, List.append_nil]
    | succ n =>
      have hslash : isBlank '/' = false := by decide
      rw [slashes, List.replicate_succ', ← List.append_assoc, List.getLast?_concat]
      exact fun c hc ↦ Option.some.inj hc ▸ hslash

/-! ## Origins -/

/-- The address from which that of the route is made: the configured one without the white space
around it, or the usual one if that leaves nothing. -/
def originChars (cs : List Char) : List Char :=
  if (trimChars cs).isEmpty then defaultAddress else trimChars cs

theorem originChars_eq_self (htrimmed : trimChars cs = cs) (hne : cs ≠ []) :
    originChars cs = cs := by
  rw [originChars, htrimmed, if_neg (by rwa [List.isEmpty_iff])]

theorem trimChars_originChars (cs : List Char) : trimChars (originChars cs) = originChars cs := by
  rw [originChars]
  split
  next => decide
  next => exact trimChars_trimChars cs

/-! ## The route -/

/-- An address with the route behind it. -/
def withRoute (base : List Char) : List Char :=
  if endsWith route base then base else base ++ route

theorem endpointChars_eq_withRoute (cs : List Char) :
    endpointChars cs = withRoute (dropSlashes (originChars cs)) := rfl

theorem withRoute_eq_self (h : route <:+ base) : withRoute base = base :=
  if_pos (endsWith_iff.mpr h)

theorem route_suffix_withRoute (base : List Char) : route <:+ withRoute base := by
  rw [withRoute]
  split
  next hending => exact endsWith_iff.mp hending
  next => exact List.suffix_append base route

theorem prefix_withRoute (base : List Char) : base <+: withRoute base := by
  rw [withRoute]
  split
  next => exact List.prefix_refl base
  next => exact List.prefix_append base route

theorem getLast?_of_route_suffix (h : route <:+ cs) : cs.getLast? = some 'e' := by
  obtain ⟨front, rfl⟩ := h
  rw [List.getLast?_append_of_ne_nil front (by decide)]
  rfl

/-- An address with the route begins as its origin, or with the route if nothing of the origin is
left, and the route is at its end. -/
theorem trimChars_endpointChars (cs : List Char) :
    trimChars (endpointChars cs) = endpointChars cs := by
  have htrimmed := trimChars_originChars cs
  have hkept : dropSlashes (originChars cs) <+: originChars cs := List.rdropWhile_prefix _ _
  rw [endpointChars_eq_withRoute]
  generalize dropSlashes (originChars cs) = base at hkept ⊢
  refine trimChars_eq_self_iff.mpr ⟨?_, ?_⟩
  · cases base with
    | nil =>
      have hslash : isBlank '/' = false := by decide
      exact fun c hc ↦ Option.some.inj hc ▸ hslash
    | cons b base =>
      obtain ⟨dropped, hdropped⟩ := hkept
      obtain ⟨behind, hbehind⟩ := prefix_withRoute (b :: base)
      rw [← hbehind]
      rw [← hdropped] at htrimmed
      exact (trimChars_eq_self_iff.mp htrimmed).1
  · have hletter : isBlank 'e' = false := by decide
    rw [getLast?_of_route_suffix (route_suffix_withRoute base)]
    exact fun c hc ↦ Option.some.inj hc ▸ hletter

/-! ## Addresses of the route -/

/-- A text ends with the route and has no white space around it. -/
structure NamesRoute (s : String) : Prop where
  ending : route <:+ s.toList
  trimmed : Trimmed s

theorem toList_normalizeEndpoint (s : String) :
    (normalizeEndpoint s).toList = endpointChars s.toList := String.toList_ofList

theorem normalizeEndpoint_trim (s : String) : normalizeEndpoint (trim s) = normalizeEndpoint s := by
  rw [normalizeEndpoint, normalizeEndpoint, endpointChars, endpointChars, trim,
    String.toList_ofList, trimChars_trimChars]

theorem namesRoute_normalizeEndpoint (s : String) : NamesRoute (normalizeEndpoint s) where
  ending := by
    rw [toList_normalizeEndpoint, endpointChars_eq_withRoute]
    exact route_suffix_withRoute _
  trimmed := by
    rw [trimmed_iff, toList_normalizeEndpoint, trimChars_endpointChars]

theorem normalizeEndpoint_of_namesRoute (h : NamesRoute s) : normalizeEndpoint s = s := by
  have hlast := getLast?_of_route_suffix h.ending
  have hne : s.toList ≠ [] := by
    intro hnil
    rw [hnil] at hlast
    cases hlast
  have hslash : s.toList.getLast? ≠ some '/' := by
    rw [hlast]
    decide
  rw [normalizeEndpoint, endpointChars_eq_withRoute,
    originChars_eq_self (trimmed_iff.mp h.trimmed) hne, dropSlashes_eq_self hslash,
    withRoute_eq_self h.ending, String.ofList_toList]

theorem normalizeEndpoint_append_slashes (h : Tidy s) (n : Nat) :
    normalizeEndpoint (s ++ String.ofList (slashes n)) = normalizeEndpoint s := by
  have htrimmed := trimmed_iff.mp h.trimmed
  have hne : s.toList ≠ [] := by
    rw [← htrimmed, ne_eq, trimChars_eq_nil_iff]
    exact Bool.eq_false_iff.mp h.notBlank
  have hlonger : s.toList ++ slashes n ≠ [] := List.append_ne_nil_of_left_ne_nil hne _
  rw [normalizeEndpoint, normalizeEndpoint, String.toList_append, String.toList_ofList,
    endpointChars_eq_withRoute, endpointChars_eq_withRoute,
    originChars_eq_self (trimChars_append_slashes htrimmed hne n) hlonger,
    originChars_eq_self htrimmed hne, dropSlashes_append_slashes]

/-- **Every endpoint becomes the address of the route, once and for all.** What comes out ends with
the route and has no white space around it, the endpoints that stay as they are are exactly those
for which this is so, and normalizing again changes nothing. Slashes may be put behind an endpoint
without changing its address exactly if it is not blank. -/
theorem normalizeEndpoint_stable (s : String) :
    NamesRoute (normalizeEndpoint s) ∧
    normalizeEndpoint (normalizeEndpoint s) = normalizeEndpoint s ∧
    (normalizeEndpoint s = s ↔ NamesRoute s) ∧
    ((∀ n, normalizeEndpoint (trim s ++ String.ofList (slashes n)) = normalizeEndpoint s) ↔
      isBlankText s = false) := by
  have hroute := namesRoute_normalizeEndpoint s
  refine ⟨hroute, normalizeEndpoint_of_namesRoute hroute, ⟨fun hself ↦ ?_,
    normalizeEndpoint_of_namesRoute⟩, ⟨fun hslashes ↦ ?_, fun hnotBlank n ↦ ?_⟩⟩
  · rwa [hself] at hroute
  · -- One slash behind a blank endpoint is the route alone, and not the usual address.
    refine Bool.eq_false_iff.mpr fun hblank ↦ ?_
    have hempty : trim s = "" := trim_eq_empty_iff.mpr hblank
    have hone := hslashes 1
    rw [← normalizeEndpoint_trim s, hempty] at hone
    exact absurd hone (by decide)
  · rw [normalizeEndpoint_append_slashes (tidy_trim hnotBlank), normalizeEndpoint_trim]

/-- White space before a slash stays, and slashes alone give the route alone. -/
example : normalizeEndpoint " http://h/propose/ " = "http://h/propose" ∧
    normalizeEndpoint "http://h /" = "http://h /propose" ∧
    normalizeEndpoint "//" = "/propose" := by decide

end Redline.Http
