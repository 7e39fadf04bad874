import XrtcServer.Base.Bytes

/-!
# Socket addresses

An address is its octets in network order: four for IPv4, sixteen for IPv6, none where it is not
specified.
-/

namespace XrtcServer.Ice
open XrtcServer.Base

structure SocketAddress where
  ip : Bytes
  port : UInt16
  deriving DecidableEq, Repr

inductive StunAddressFamily
  | undef
  | ipv4
  | ipv6
  deriving DecidableEq, Repr

/-- The value of the enumerator, which goes over the wire. -/
def StunAddressFamily.toNat : StunAddressFamily → Nat
  | .undef => 0
  | .ipv4 => 1
  | .ipv6 => 2

def SocketAddress.family (addr : SocketAddress) : StunAddressFamily :=
  if addr.ip.length = 4 then .ipv4 else if addr.ip.length = 16 then .ipv6 else .undef

lemma SocketAddress.length_ip (addr : SocketAddress) :
    (addr.family = .ipv4 → addr.ip.length = 4) ∧ (addr.family = .ipv6 → addr.ip.length = 16) := by
  unfold SocketAddress.family
  split
  · exact ⟨fun _ => ‹_›, nofun⟩
  · split
    · exact ⟨nofun, fun _ => ‹_›⟩
    · exact ⟨nofun, nofun⟩

end XrtcServer.Ice
