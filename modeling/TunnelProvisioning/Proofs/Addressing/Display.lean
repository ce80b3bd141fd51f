import TunnelProvisioning.Proofs.Addressing.Ipv4
import TunnelProvisioning.Proofs.Addressing.Netmask

/-! # Addressing as it is shown

The text of a triple shows the local address, the network and the prefix length, so of the netmask
it shows only how many ones there are. For a triple that is accepted that is enough: its netmask is
the one mask with so many ones, and its network is what that mask selects of the local address. The
text therefore tells such triples apart.
-/

namespace TunnelProvisioning

namespace Ipv4

/-- The address of a number, which is cut to 32 bits. -/
def ofNat (number : Nat) : Ipv4 :=
  ⟨UInt8.ofNat (number / 0x1000000), UInt8.ofNat (number / 0x10000), UInt8.ofNat (number / 0x100),
    UInt8.ofNat number⟩

def mask (length : Nat) : Ipv4 :=
  ofNat (0x100000000 - Nat.pow 2 (32 - length))

theorem ofNat_toNat (address : Ipv4) : ofNat address.toNat = address := by
  obtain ⟨first, second, third, fourth⟩ := address
  have firstBound := first.toNat_lt
  have secondBound := second.toNat_lt
  have thirdBound := third.toNat_lt
  have fourthBound := fourth.toNat_lt
  simp only [ofNat, toNat, Ipv4.mk.injEq, ← UInt8.toNat_inj, UInt8.toNat_ofNat']
  omega

/-- There is only one mask of a prefix length. -/
theorem eq_mask_of_isMask {address : Ipv4} {length : Nat} (isMask : address.IsMask length) :
    address = mask length := by
  rw [← ofNat_toNat address, isMask.2]
  rfl

/-- A dotted quad consists of digits and points. -/
theorem isDigit_or_point_of_mem_chars {address : Ipv4} {c : Char} (member : c ∈ address.chars) :
    c.isDigit = true ∨ c = '.' := by
  simp only [chars, List.mem_append, List.mem_cons] at member
  rcases member with digit | point | digit | point | digit | point | digit
  · exact .inl (Digits.isDigit_of_mem_decimal digit)
  · exact .inr point
  · exact .inl (Digits.isDigit_of_mem_decimal digit)
  · exact .inr point
  · exact .inl (Digits.isDigit_of_mem_decimal digit)
  · exact .inr point
  · exact .inl (Digits.isDigit_of_mem_decimal digit)

theorem ne_of_mem_chars {address : Ipv4} {c other : Char} (member : c ∈ address.chars)
    (noDigit : other.isDigit = false) (noPoint : other ≠ '.') : c ≠ other := by
  rintro rfl
  rcases isDigit_or_point_of_mem_chars member with digit | point
  · rw [noDigit] at digit
    cases digit
  · exact noPoint point

end Ipv4

namespace Addressing

open Digits

/-- The characters of the text of a triple. -/
theorem toList_text (addressing : Addressing) :
    addressing.text.toList =
      addressing.localAddress.chars ++ (" on ".toList ++ (addressing.network.chars ++
        '/' :: decimal addressing.prefixLength)) := by
  simp [text, toString, Ipv4.text, decimal, Nat.repr]

/-- The local address and the prefix length that a text shows: the one before the first blank, the
other after the stroke. -/
def shown? (text : String) : Option (Ipv4 × Nat) := do
  let localAddress ← Ipv4.ofText? (String.ofList (text.toList.takeWhile (· ≠ ' ')))
  let length ← ofDecimal? ((text.toList.dropWhile (· ≠ '/')).drop 1)
  return (localAddress, length)

theorem takeWhile_text (addressing : Addressing) :
    addressing.text.toList.takeWhile (· ≠ ' ') = addressing.localAddress.chars := by
  have before : ∀ c ∈ addressing.localAddress.chars, decide (c ≠ ' ') = true := fun c member =>
    decide_eq_true (Ipv4.ne_of_mem_chars member (by decide) (by decide))
  rw [toList_text, List.takeWhile_append_of_pos before]
  exact List.append_nil _

theorem dropWhile_text (addressing : Addressing) :
    addressing.text.toList.dropWhile (· ≠ '/') = '/' :: decimal addressing.prefixLength := by
  have quad (address : Ipv4) : ∀ c ∈ address.chars, decide (c ≠ '/') = true := fun c member =>
    decide_eq_true (Ipv4.ne_of_mem_chars member (by decide) (by decide))
  have between : ∀ c ∈ " on ".toList, decide (c ≠ '/') = true := List.all_eq_true.mp rfl
  rw [toList_text, List.dropWhile_append_of_pos (quad _), List.dropWhile_append_of_pos between,
    List.dropWhile_append_of_pos (quad _)]
  rfl

/-- The text of a triple shows its local address and its prefix length. -/
theorem shown?_text (addressing : Addressing) :
    shown? addressing.text = some (addressing.localAddress, addressing.prefixLength) := by
  have quad : Ipv4.ofText? (String.ofList addressing.localAddress.chars) =
      some addressing.localAddress := Ipv4.ofText?_text _
  simp only [shown?, takeWhile_text, dropWhile_text, quad, List.drop_succ_cons, List.drop_zero,
    ofDecimal?_decimal]
  rfl

/-- The triple of a local address under a prefix length. -/
def ofPrefix (localAddress : Ipv4) (length : Nat) : Addressing :=
  ⟨localAddress, localAddress.land (.mask length), .mask length⟩

/-- A triple that is accepted follows from its local address and its prefix length. -/
theorem ofPrefix_of_accepted {addressing : Addressing} (accepted : addressing.validate = .ok ()) :
    ofPrefix addressing.localAddress addressing.prefixLength = addressing := by
  obtain ⟨length, isMask⟩ := exists_isMask_of_validate_eq_ok accepted
  have netmask := Ipv4.eq_mask_of_isMask isMask
  have network := network_of_validate_eq_ok accepted
  rw [ofPrefix, prefixLength_of_isMask isMask, ← netmask, ← network]

/-- The text of a triple that is accepted loses nothing. It shows the local address and the prefix
length, the netmask is the mask with so many ones, and the network is what that mask selects of the
local address. No other triple that is accepted has the same text. -/
theorem text_of_accepted {addressing : Addressing} (accepted : addressing.validate = .ok ()) :
    let length := addressing.prefixLength
    shown? addressing.text = some (addressing.localAddress, length) ∧
    length ≤ 32 ∧
    addressing.netmask = .mask length ∧
    addressing.netmask.toNat = 2 ^ 32 - 2 ^ (32 - length) ∧
    addressing.network = addressing.localAddress.land (.mask length) ∧
    addressing.network.toNat = addressing.localAddress.toNat &&& addressing.netmask.toNat ∧
    ∀ other : Addressing, other.validate = .ok () → addressing.text = other.text →
      addressing = other := by
  intro length
  obtain ⟨ones, isMask⟩ := exists_isMask_of_validate_eq_ok accepted
  obtain rfl : ones = length := (prefixLength_of_isMask isMask).symm
  have restored := ofPrefix_of_accepted accepted
  refine ⟨shown?_text addressing, isMask.1, Ipv4.eq_mask_of_isMask isMask, isMask.2, ?_, ?_, ?_⟩
  · exact (congrArg network restored).symm
  · rw [network_of_validate_eq_ok accepted, Ipv4.toNat_land]
  · intro other otherAccepted sameText
    have same : (addressing.localAddress, addressing.prefixLength) =
        (other.localAddress, other.prefixLength) := by
      apply Option.some.inj
      rw [← shown?_text, ← shown?_text, sameText]
    rw [Prod.mk.injEq] at same
    calc
      addressing = ofPrefix addressing.localAddress addressing.prefixLength := restored.symm
      _ = ofPrefix other.localAddress other.prefixLength := by rw [same.1, same.2]
      _ = other := ofPrefix_of_accepted otherAccepted

/-- A mask that splits an octet, and the two triples under the shortest and the longest prefix. -/
theorem text_of_accepted_split :
    let addressing : Addressing := ⟨⟨172, 16, 5, 9⟩, ⟨172, 16, 4, 0⟩, ⟨255, 255, 254, 0⟩⟩
    let whole : Addressing := ⟨⟨10, 0, 0, 1⟩, ⟨0, 0, 0, 0⟩, ⟨0, 0, 0, 0⟩⟩
    let single : Addressing := ⟨⟨10, 0, 0, 1⟩, ⟨10, 0, 0, 1⟩, ⟨255, 255, 255, 255⟩⟩
    addressing.validate = .ok () ∧ whole.validate = .ok () ∧ single.validate = .ok () ∧
      shown? addressing.text = some (⟨172, 16, 5, 9⟩, 23) ∧
      shown? whole.text = some (⟨10, 0, 0, 1⟩, 0) ∧
      whole.text ≠ single.text := by
  intro addressing whole single
  have accepted : addressing.validate = .ok () := by decide
  have wholeAccepted : whole.validate = .ok () := by decide
  have singleAccepted : single.validate = .ok () := by decide
  have ones : addressing.prefixLength = 23 := by decide
  have none : whole.prefixLength = 0 := by decide
  have shown := (text_of_accepted accepted).1
  have wholeShown := (text_of_accepted wholeAccepted).1
  rw [ones] at shown
  rw [none] at wholeShown
  refine ⟨accepted, wholeAccepted, singleAccepted, shown, wholeShown, fun sameText => ?_⟩
  have same := (text_of_accepted wholeAccepted).2.2.2.2.2.2 single singleAccepted sameText
  exact absurd same (by decide)

end Addressing

end TunnelProvisioning
