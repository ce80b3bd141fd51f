import Mathlib.Data.List.TakeWhile
import TunnelProvisioning.Text.Digits

/-! # Decimal digits

What a reader relies on who meets the decimal digits of a number in a text: they end where the first
character stands that is no digit, and they start with a zero only if they are nothing else.
-/

namespace TunnelProvisioning.Digits

/-- The digits of a number other than zero do not start with a zero. -/
theorem head?_decimal_ne_zero {n : Nat} (positive : 0 < n) : (decimal n).head? ≠ some '0' := by
  induction n using Nat.strong_induction_on with
  | _ n ih =>
    rw [decimal, Nat.toDigits_eq_if (by decide)]
    split
    · next small =>
      have digits : ∀ digit : Fin 10, 0 < digit.val → digit.val.digitChar ≠ '0' := by decide
      have other := digits ⟨n, small⟩ positive
      simpa only [List.head?_cons, ne_eq, Option.some.injEq] using other
    · next large =>
      have before := ih (n / 10) (by omega) (by omega)
      rw [decimal] at before
      cases leading : Nat.toDigits 10 (n / 10) with
      | nil => exact absurd leading Nat.toDigits_ne_nil
      | cons digit digits =>
        rw [leading] at before
        exact before

theorem all_isDigit_decimal (n : Nat) : (decimal n).all Char.isDigit = true :=
  List.all_eq_true.mpr fun _ => isDigit_of_mem_decimal

section

variable {digits rest : List Char} (all : digits.all Char.isDigit = true)
  (ends : rest.head?.all (!·.isDigit) = true)

include all ends

theorem takeWhile_digits : (digits ++ rest).takeWhile Char.isDigit = digits := by
  rw [List.takeWhile_append_of_pos (List.all_eq_true.mp all)]
  cases rest with
  | nil => exact List.append_nil _
  | cons c rest =>
    have other : ¬c.isDigit = true := by simpa using ends
    rw [List.takeWhile_cons_of_neg other, List.append_nil]

theorem dropWhile_digits : (digits ++ rest).dropWhile Char.isDigit = rest := by
  rw [List.dropWhile_append_of_pos (List.all_eq_true.mp all)]
  cases rest with
  | nil => rfl
  | cons c rest =>
    have other : ¬c.isDigit = true := by simpa using ends
    rw [List.dropWhile_cons_of_neg other]

end

end TunnelProvisioning.Digits
