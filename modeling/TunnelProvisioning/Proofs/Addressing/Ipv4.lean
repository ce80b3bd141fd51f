import TunnelProvisioning.Addressing.Ipv4
import TunnelProvisioning.Proofs.Text.Digits

/-! # Dotted quads read back

The dotted quad of an address reads back to the address. Each octet ends where its digits do, since
a point or the end of the text follows.
-/

namespace TunnelProvisioning.Ipv4

open Digits

/-- The digits of an octet are read up to where they end. -/
theorem octet?_decimal (octet : UInt8) (rest : List Char)
    (ends : rest.head?.all (!·.isDigit) = true) :
    octet? (decimal octet.toNat ++ rest) = some (octet, rest) := by
  have taken := takeWhile_digits (all_isDigit_decimal octet.toNat) ends
  have dropped := dropWhile_digits (all_isDigit_decimal octet.toNat) ends
  have bound : octet.toNat ≤ 255 := Nat.le_of_lt_succ octet.toNat_lt
  have shape : (decimal octet.toNat).length = 1 ∨ (decimal octet.toNat).head? ≠ some '0' := by
    rcases Nat.eq_zero_or_pos octet.toNat with zero | positive
    · rw [zero]
      exact Or.inl rfl
    · exact Or.inr (head?_decimal_ne_zero positive)
  simp only [octet?, taken, dropped, ofDecimal?_decimal, Option.bind_eq_bind, Option.bind_some]
  rw [if_pos ⟨bound, shape⟩, UInt8.ofNat_toNat]
  rfl

/-- A dotted quad reads back. -/
@[simp]
theorem ofText?_text (address : Ipv4) : ofText? address.text = some address := by
  have first := octet?_decimal address.first ('.' :: (decimal address.second.toNat ++
    '.' :: (decimal address.third.toNat ++ '.' :: decimal address.fourth.toNat))) rfl
  have second := octet?_decimal address.second ('.' :: (decimal address.third.toNat ++
    '.' :: decimal address.fourth.toNat)) rfl
  have third := octet?_decimal address.third ('.' :: decimal address.fourth.toNat) rfl
  have fourth := octet?_decimal address.fourth [] rfl
  rw [List.append_nil] at fourth
  simp [ofText?, text, chars, dottedOctet?, first, second, third, fourth]

end TunnelProvisioning.Ipv4
