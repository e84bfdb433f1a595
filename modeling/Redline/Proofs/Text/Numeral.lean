import Redline.Text.Numeral

/-!
# Numerals read back

The decimal digits of a number below the bound denote that number, and they hold nothing that could
be taken for the end of a numeral: no comma, no blank and no sign. No numeral denotes a number that
is not below the bound.
-/

namespace Redline.Text

theorem digitValue?_of_isDigit {c : Char} (h : c.isDigit) :
    digitValue? c = some (c.toNat - '0'.toNat) := by
  have hrange : '0'.toNat ≤ c.toNat ∧ c.toNat ≤ '9'.toNat := by
    simp only [Char.isDigit, Bool.and_eq_true, decide_eq_true_eq] at h
    exact ⟨h.1, h.2⟩
  rw [digitValue?, if_pos hrange]

theorem le_ofDigitChars (cs : List Char) (value : Nat) :
    value ≤ Nat.ofDigitChars 10 cs value := by
  induction cs generalizing value with
  | nil => exact Nat.le_of_eq Nat.ofDigitChars_nil.symm
  | cons c cs ih =>
    rw [Nat.ofDigitChars_cons]
    exact Nat.le_trans (by omega) (ih _)

/-- Reading digits is adding them up as long as the sum stays below the bound. -/
theorem readDigits_eq_ok {bound value : Nat} {cs : List Char} (hdigits : ∀ c ∈ cs, c.isDigit)
    (hbound : Nat.ofDigitChars 10 cs value < bound) :
    readDigits bound value cs = .ok (Nat.ofDigitChars 10 cs value) := by
  induction cs generalizing value with
  | nil => rw [readDigits, Nat.ofDigitChars_nil]
  | cons c cs ih =>
    have hstep : value * 10 + (c.toNat - '0'.toNat) = 10 * value + (c.toNat - '0'.toNat) := by
      omega
    rw [Nat.ofDigitChars_cons] at hbound ⊢
    have hlt := Nat.lt_of_le_of_lt (le_ofDigitChars cs _) hbound
    simp only [readDigits, digitValue?_of_isDigit (hdigits c List.mem_cons_self), hstep, if_pos hlt]
    exact ih (fun d hd ↦ hdigits d (List.mem_cons_of_mem c hd)) hbound

theorem isDigit_of_mem_decimal {n : Nat} {c : Char} (h : c ∈ Nat.toDigits 10 n) : c.isDigit :=
  Nat.isDigit_of_mem_toDigits (by decide) (by decide) h

theorem not_mem_decimal {n : Nat} {c : Char} (hc : c.isDigit = false) :
    c ∉ Nat.toDigits 10 n := by
  intro hmem
  rw [isDigit_of_mem_decimal hmem] at hc
  exact Bool.noConfusion hc

theorem readNumeral_eq_readDigits {bound : Nat} {cs : List Char} (hne : cs ≠ [])
    (hplus : '+' ∉ cs) : readNumeral bound cs = readDigits bound 0 cs := by
  unfold readNumeral
  split
  · exact absurd rfl hne
  · exact absurd List.mem_cons_self hplus
  · exact absurd List.mem_cons_self hplus
  · rfl

theorem readNumeral_toDigits {bound n : Nat} (h : n < bound) :
    readNumeral bound (Nat.toDigits 10 n) = .ok n := by
  have hvalue : Nat.ofDigitChars 10 (Nat.toDigits 10 n) 0 = n := Nat.ofDigitChars_ten_toDigits
  rw [readNumeral_eq_readDigits Nat.toDigits_ne_nil (not_mem_decimal (by decide)),
    readDigits_eq_ok (fun c hc ↦ isDigit_of_mem_decimal hc) (by rw [hvalue]; exact h), hvalue]

/-! ## Bounds -/

theorem lt_of_readDigits {bound value n : Nat} {cs : List Char} (hvalue : value < bound)
    (h : readDigits bound value cs = .ok n) : n < bound := by
  induction cs generalizing value with
  | nil =>
    obtain rfl : value = n := Except.ok.inj h
    exact hvalue
  | cons c cs ih =>
    rw [readDigits] at h
    split at h
    next => exact absurd h nofun
    next d _ =>
      split at h
      next hlt => exact ih hlt h
      next => exact absurd h nofun

theorem lt_of_readNumeral {bound n : Nat} {cs : List Char} (hbound : 0 < bound)
    (h : readNumeral bound cs = .ok n) : n < bound := by
  unfold readNumeral at h
  split at h
  · exact absurd h nofun
  · exact absurd h nofun
  · exact lt_of_readDigits hbound h
  · exact lt_of_readDigits hbound h

end Redline.Text
