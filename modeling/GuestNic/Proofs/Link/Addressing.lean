import GuestNic.Link.Port
import Mathlib.Logic.Function.Basic

/-!
# Addresses of tunnels

The hardware address of a tunnel spells its IPv4 address, and a frame is sent to the IPv4 address
that its own destination spells. The one reads what the other writes, for every address but the
broadcast address; all other frames are broadcast.
-/

namespace GuestNic

/-- The first six bytes of the frame are the hardware address `m`. -/
def Frame.IsFor (frame : Bytes) (m : HardwareAddress) : Prop :=
  frame.take m.octets.length = m.octets

/-- A frame is for one hardware address at most. -/
theorem Frame.IsFor.unique {frame : Bytes} {m m' : HardwareAddress} (h : IsFor frame m)
    (h' : IsFor frame m') : m = m' := by
  have hoctets : m.octets = m'.octets := h.symm.trans h'
  simpa using congrArg HardwareAddress.ofOctets? hoctets

theorem Frame.IsFor.length_le {frame : Bytes} {m : HardwareAddress} (h : IsFor frame m) :
    6 ≤ frame.length := by
  have hlength := congrArg List.length h
  rw [List.length_take, HardwareAddress.octets_length] at hlength
  omega

namespace Tunnel

/-! ## Hardware addresses -/

theorem hardwareAddressOf_injective : Function.Injective hardwareAddressOf := by
  rintro ⟨a, b, c, d⟩ ⟨a', b', c', d'⟩ h
  simpa [hardwareAddressOf] using h

/-- The first byte of the mark is even, so no tunnel has a group address. -/
theorem hardwareAddressOf_isMulticast (address : Ipv4) :
    (hardwareAddressOf address).isMulticast = false := by
  have hmark : (addressMark.1 &&& 1 != 0) = false := by decide
  exact hmark

/-! ## Destinations -/

variable (t : Tunnel) (frame : Bytes)

theorem destination_port : (t.destination frame).port = t.port := by
  unfold destination
  split
  · split <;> rfl
  · rfl

/-- A frame whose first bytes are the hardware address of an IPv4 address goes there. -/
theorem destination_of_isFor {frame : Bytes} {address : Ipv4}
    (h : Frame.IsFor frame (hardwareAddressOf address)) :
    t.destination frame = ⟨address, t.port⟩ := by
  have hframe : frame = (hardwareAddressOf address).octets ++ frame.drop 6 := by
    rw [← h]
    exact (List.take_append_drop 6 frame).symm
  rw [hframe]
  simp [destination, hardwareAddressOf, HardwareAddress.octets]

/-- A frame that does not go to everybody has the hardware address of the place where it goes. -/
theorem isFor_of_destination {frame : Bytes} (h : (t.destination frame).address ≠ .broadcast) :
    Frame.IsFor frame (hardwareAddressOf (t.destination frame).address) := by
  unfold destination at h ⊢
  split
  · split
    · rename_i hmark
      obtain ⟨rfl, rfl⟩ := Prod.mk.inj hmark
      rfl
    · rename_i hmark
      exact absurd (by simp [hmark]) h
  · exact absurd (by simp_all) h

/-- The two directions agree on every address that is not the broadcast address. -/
theorem destination_address_iff {address : Ipv4} (h : address ≠ .broadcast) :
    (t.destination frame).address = address ↔ Frame.IsFor frame (hardwareAddressOf address) := by
  constructor
  · rintro rfl
    exact t.isFor_of_destination h
  · intro hfor
    rw [t.destination_of_isFor hfor]

/-- A frame goes to everybody just if it is for no tunnel that there can be. -/
theorem destination_address_eq_broadcast_iff :
    (t.destination frame).address = .broadcast ↔
      ∀ address, address ≠ .broadcast → ¬ Frame.IsFor frame (hardwareAddressOf address) := by
  constructor
  · intro hbroadcast address hne hfor
    exact hne ((t.destination_address_iff frame hne).2 hfor ▸ hbroadcast)
  · intro hnone
    by_contra hne
    exact hnone _ hne (t.isFor_of_destination hne)

/-! ## Writing -/

/-- The tunnel after one datagram more was sent. -/
def sent (t : Tunnel) (endpoint : Endpoint) (datagram : Bytes) : Tunnel :=
  { t with outbox := t.outbox ++ [(endpoint, datagram)] }

/-- What the network carries. -/
def Carries (t : Tunnel) (frame : Bytes) : Prop :=
  t.isReachable = true ∧ frame.length ≤ maxDatagram

/-- A frame that the network carries is sent as one datagram. -/
theorem write_of_carries {t : Tunnel} {frame : Bytes} (h : t.Carries frame) :
    (Port.tunnel t).write frame = (.tunnel (t.sent (t.destination frame) frame), .ok ()) := by
  obtain ⟨hreach, hlength⟩ := h
  have hmax : maxDatagram ≤ maxRequest := by decide
  have hsend : t.send frame = (t.sent (t.destination frame) frame, .ok frame.length) := by
    simp [send, sent, hreach, if_neg (by omega : ¬ maxRequest < frame.length),
      if_neg (by omega : ¬ maxDatagram < frame.length)]
  simp only [Port.write, hsend, Port.whole, Except.bind, if_true]

/-- A frame that the network does not carry is refused, and nothing is sent. -/
theorem write_of_not_carries {t : Tunnel} {frame : Bytes} (h : ¬ t.Carries frame) :
    ∃ fault, (Port.tunnel t).write frame = (.tunnel t, .error fault) := by
  have hsend : ∃ fault, t.send frame = (t, .error fault) := by
    unfold send
    split
    · exact ⟨_, rfl⟩
    · split
      · exact ⟨_, rfl⟩
      · rename_i hreach
        split
        · exact ⟨_, rfl⟩
        · rename_i hlength
          exact absurd ⟨by simpa using hreach, by omega⟩ h
  obtain ⟨fault, hsend⟩ := hsend
  exact ⟨fault, by simp only [Port.write, hsend, Port.whole, Except.bind]⟩

end Tunnel

/-! ## Tunnels on one port -/

/-- Tunnels that share a port, each with an address of its own at which one card can be reached. -/
structure TunnelNetwork (ι : Type) where
  tunnel : ι → Tunnel
  port : UInt16
  port_eq (i : ι) : (tunnel i).port = port
  address_injective : Function.Injective fun i => (tunnel i).localAddress
  address_ne_broadcast (i : ι) : (tunnel i).localAddress ≠ .broadcast

namespace TunnelNetwork

variable {ι : Type} (n : TunnelNetwork ι)

theorem hardwareAddress_injective : Function.Injective fun i => (n.tunnel i).hardwareAddress :=
  Tunnel.hardwareAddressOf_injective.comp n.address_injective

/-- A frame goes to a tunnel of the network just if it is for its hardware address. -/
theorem destination_iff (i j : ι) (frame : Bytes) :
    ((n.tunnel i).destination frame).address = (n.tunnel j).localAddress ↔
      Frame.IsFor frame (n.tunnel j).hardwareAddress :=
  (n.tunnel i).destination_address_iff frame (n.address_ne_broadcast j)

/-- A frame for an address that no tunnel can have is broadcast. -/
theorem destination_of_none (i : ι) {frame : Bytes}
    (h : ∀ address, ¬ Frame.IsFor frame (Tunnel.hardwareAddressOf address)) :
    ((n.tunnel i).destination frame).address = .broadcast :=
  ((n.tunnel i).destination_address_eq_broadcast_iff frame).2 fun address _ => h address

/-- Hardware addresses tell the tunnels of a network apart, and none is a group address. A frame
that is written is sent as one datagram to the shared port, or refused when the network does not
carry it. It goes to the tunnel whose hardware address it carries and to no other; to any IPv4
address but the broadcast address just if it carries the hardware address that spells it; and to
everybody in all other cases, as when it is for a group or shorter than an address. -/
theorem frames_find_their_tunnel :
    (Function.Injective fun i => (n.tunnel i).hardwareAddress) ∧
    (∀ i, (n.tunnel i).hardwareAddress.isMulticast = false) ∧
    ∀ i frame, ∃ endpoint : Endpoint,
      ((n.tunnel i).Carries frame → (Port.tunnel (n.tunnel i)).write frame =
        (.tunnel ((n.tunnel i).sent endpoint frame), .ok ())) ∧
      (¬ (n.tunnel i).Carries frame → ∃ fault,
        (Port.tunnel (n.tunnel i)).write frame = (.tunnel (n.tunnel i), .error fault)) ∧
      endpoint.port = n.port ∧
      (∀ j, endpoint.address = (n.tunnel j).localAddress ↔
        Frame.IsFor frame (n.tunnel j).hardwareAddress) ∧
      (∀ address, address ≠ .broadcast → (endpoint.address = address ↔
        Frame.IsFor frame (Tunnel.hardwareAddressOf address))) ∧
      (endpoint.address = .broadcast ↔ ∀ address, address ≠ .broadcast →
        ¬ Frame.IsFor frame (Tunnel.hardwareAddressOf address)) ∧
      (∀ m : HardwareAddress, m.isMulticast = true → Frame.IsFor frame m →
        endpoint.address = .broadcast) ∧
      (frame.length < 6 → endpoint.address = .broadcast) ∧
      ∀ j k, Frame.IsFor frame (n.tunnel j).hardwareAddress → k ≠ j →
        endpoint.address ≠ (n.tunnel k).localAddress := by
  refine ⟨n.hardwareAddress_injective, fun i => Tunnel.hardwareAddressOf_isMulticast _,
    fun i frame => ⟨(n.tunnel i).destination frame, Tunnel.write_of_carries,
      Tunnel.write_of_not_carries, ?_, fun j => n.destination_iff i j frame,
      fun address hne => (n.tunnel i).destination_address_iff frame hne,
      (n.tunnel i).destination_address_eq_broadcast_iff frame, ?_, ?_, ?_⟩⟩
  · rw [Tunnel.destination_port, n.port_eq]
  · intro m hgroup hfor
    apply n.destination_of_none i
    intro address hother
    obtain rfl := hfor.unique hother
    rw [Tunnel.hardwareAddressOf_isMulticast] at hgroup
    exact Bool.noConfusion hgroup
  · intro hshort
    apply n.destination_of_none i
    intro address hfor
    exact absurd hfor.length_le (by omega)
  · intro j k hfor hkj hk
    have hother := (n.destination_iff i k frame).1 hk
    exact hkj (n.hardwareAddress_injective (hother.unique hfor))

/-- Two tunnels on one port, at 10.0.0.1 and 10.0.0.2. -/
def pair : TunnelNetwork Bool where
  tunnel second := .ofAddress 6066 ⟨10, 0, 0, if second then 2 else 1⟩ true
  port := 6066
  port_eq _ := rfl
  address_injective i j := by revert i j; decide
  address_ne_broadcast := by decide

example : (pair.tunnel false).destination [0x42, 0x32, 10, 0, 0, 2, 7] = ⟨⟨10, 0, 0, 2⟩, 6066⟩ := rfl

end TunnelNetwork
end GuestNic
