import TunnelProvisioning.Text.Digits
import TunnelProvisioning.Text.Quoted
import TunnelProvisioning.Text.Utf8

/-! # Interface requests

The record that is passed to the kernel to attach an interface to a descriptor, and in which the
kernel writes the name it chose. The name has a field of sixteen octets that always ends in a zero,
so a longer name is cut, possibly within a character. All requests to the kernel are of one length,
so there is padding behind the flags, which nobody reads.
-/

namespace TunnelProvisioning

/-- A request to attach an interface. -/
structure InterfaceRequest where
  nameField : List UInt8
  flags : Int16
  padding : List UInt8
  length_nameField : nameField.length = 16
  length_padding : padding.length = 22

namespace InterfaceRequest

/-- The flag that asks for packets without link-layer headers. -/
def tunFlag : Int16 := 0x0001

/-- The flag that leaves out the packet information before each packet. -/
def noPacketInfoFlag : Int16 := 0x1000

/-- The first fifteen octets of a name, filled up with zeros to sixteen. -/
def padName (name : String) : List UInt8 :=
  let kept := (Utf8.encode name.toList).take 15
  kept ++ List.replicate (16 - kept.length) 0

@[simp]
theorem length_padName (name : String) : (padName name).length = 16 := by
  simp only [padName, List.length_append, List.length_take, List.length_replicate]
  omega

/-- A request for a name; flags and padding are zero. -/
def ofName (name : String) : InterfaceRequest where
  nameField := padName name
  flags := 0
  padding := List.replicate 22 0
  length_nameField := length_padName name
  length_padding := List.length_replicate

def withFlags (request : InterfaceRequest) (flags : Int16) : InterfaceRequest :=
  { request with flags }

/-- A new request for another name, with the flags of the old one. -/
def setName (request : InterfaceRequest) (name : String) : InterfaceRequest :=
  (ofName name).withFlags request.flags

/-- The name up to the first zero; what is no text in it is replaced. -/
def name (request : InterfaceRequest) : String :=
  String.ofList (Utf8.decodeLossy (request.nameField.takeWhile (· ≠ 0)))

/-- The octets of the flags, least significant first. -/
def flagOctets (flags : Int16) : List UInt8 :=
  [flags.toUInt16.toUInt8, (flags.toUInt16 >>> 8).toUInt8]

/-- The record in memory. -/
def octets (request : InterfaceRequest) : List UInt8 :=
  request.nameField ++ flagOctets request.flags ++ request.padding

def description (request : InterfaceRequest) : String :=
  "IfReq \x7b name: " ++ Quoted.encode request.name ++ ", flags: 0x" ++
    String.ofList (Digits.hexPadded 4 request.flags.toUInt16.toNat) ++ " \x7d"

end InterfaceRequest

end TunnelProvisioning
