import TunnelProvisioning.Addressing.Ipv4
import TunnelProvisioning.InvalidInput

/-! # Bring-up addressing

The local address, the network and the netmask that a virtual adapter is brought up with. A triple
can be used if the netmask is a run of ones followed by zeros and the network is the part of the
local address that the netmask selects. The driver takes the triple as three words, or twelve
octets, that read in memory like the dotted quads.
-/

namespace TunnelProvisioning

/-- A local address, the network it belongs to and the netmask. -/
structure Addressing where
  localAddress : Ipv4 := ⟨10, 0, 0, 1⟩
  network : Ipv4 := ⟨10, 0, 0, 0⟩
  netmask : Ipv4 := ⟨255, 255, 255, 0⟩
  deriving DecidableEq, Repr

namespace Addressing

/-- The addressing used where nothing is configured. -/
def standard : Addressing := {}

/-- Completes fields that were left out. A missing network follows from the other two. -/
def ofFields (localAddress? network? netmask? : Option Ipv4) : Addressing :=
  let localAddress := localAddress?.getD standard.localAddress
  let netmask := netmask?.getD standard.netmask
  ⟨localAddress, network?.getD (localAddress.land netmask), netmask⟩

/-- The number of ones in the netmask. -/
def prefixLength (addressing : Addressing) : Nat :=
  addressing.netmask.bits.count true

def leadingOnes (address : Ipv4) : Nat :=
  (address.bits.takeWhile (· = true)).length

def trailingZeros (address : Ipv4) : Nat :=
  (address.bits.reverse.takeWhile (· = false)).length

/-- Accepts a triple that can be used; the netmask is looked at before the network. -/
def validate (addressing : Addressing) : Except InvalidInput Unit :=
  if leadingOnes addressing.netmask + trailingZeros addressing.netmask ≠ 32 then
    .error ⟨"netmask", s!"{addressing.netmask} is not a contiguous mask"⟩
  else
    let expected := addressing.localAddress.land addressing.netmask
    if addressing.network ≠ expected then
      .error ⟨"network",
        s!"{addressing.network} does not contain {addressing.localAddress} (expected {expected})"⟩
    else .ok ()

/-- The word whose octets in memory are those of an address, least significant first. -/
def driverWord (address : Ipv4) : UInt32 :=
  address.first.toUInt32 ||| address.second.toUInt32 <<< 8 ||| address.third.toUInt32 <<< 16 |||
    address.fourth.toUInt32 <<< 24

/-- The three words in the order in which the driver reads them. -/
def driverWords (addressing : Addressing) : List UInt32 :=
  [driverWord addressing.localAddress, driverWord addressing.network,
    driverWord addressing.netmask]

/-- The octets of a word, least significant first. -/
def wordOctets (word : UInt32) : List UInt8 :=
  [word.toUInt8, (word >>> 8).toUInt8, (word >>> 16).toUInt8, (word >>> 24).toUInt8]

/-- Writes words over a buffer, one over each chunk of four octets. Words beyond the last whole chunk
are not written, and octets beyond the last word stay. -/
def fillChunks : List UInt8 → List UInt32 → List UInt8
  | _ :: _ :: _ :: _ :: rest, word :: words => wordOctets word ++ fillChunks rest words
  | buffer, _ => buffer

def driverSize : Nat := 12

/-- The buffer that is passed to the driver. -/
def driverOctets (addressing : Addressing) : List UInt8 :=
  fillChunks (List.replicate driverSize 0) addressing.driverWords

/-- The local address and the network with its prefix length. -/
def text (addressing : Addressing) : String :=
  s!"{addressing.localAddress} on {addressing.network}/{addressing.prefixLength}"

instance : ToString Addressing := ⟨text⟩

end Addressing

end TunnelProvisioning
