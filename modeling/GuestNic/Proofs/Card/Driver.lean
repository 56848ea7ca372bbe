import GuestNic.Card.Slot
import GuestNic.Proofs.Card.Life
import GuestNic.Proofs.Card.Opening

/-!
# The card behind the driver

The guest's driver reaches its card through a slot. While there is a card in the slot, a call does
what the same call of the card does, and the driver is told of its answer by a status code
(`Slot.call_ofCard`). Without a card every call succeeds and nothing happens (`Slot.call_empty`).
`Driver` is a slot with the card that was let go from it, to which the host and the card's own
threads could still do something.
-/

namespace GuestNic

/-! ## Opening -/

/-- What the user is alerted to when a card cannot be opened. That no link is named is no failure. -/
def OpenFault.alerts : OpenFault → List String
  | .noLink => []
  | fault => [fault.message]

namespace Card

variable {σ : Type} (net : NetStack σ) (s : Settings) (e : Embedding σ) (grants : HostGrants)

end Card

namespace Slot

variable {σ : Type} (net : NetStack σ) (s : Settings) (e : Embedding σ) (grants : HostGrants)

end Slot

/-! ## Calls -/

/-- A call of the guest's driver, other than the one that ends it. -/
inductive DriverCall where
  | attach (type : UInt16) (routine : Routine)
  | detach (type : UInt16)
  | reset
  | transmit (memory : GuestMemory) (packet : OutgoingPacket)
  | addMulticast (address : HardwareAddress)
  | removeMulticast (address : HardwareAddress)
  | service
  | address
  | stats

/-- What a card answers to a call. -/
inductive CardAnswer where
  | done
  | handler (r : Except HandlerFault Unit)
  | submitted (r : Except TransmitFault Unit)
  | multicast (r : Except MulticastFault Unit)
  | serviced (found : Bool)
  | address (address : HardwareAddress)
  | stats (stats : CardStats)

/-- What the driver is told. -/
inductive DriverAnswer where
  | done
  | status (status : Status)
  | address (address : HardwareAddress)
  | stats (stats : Option CardStats)

/-- What the driver is told when there is no card. -/
def DriverCall.success : DriverCall → DriverAnswer
  | .attach .. | .detach _ | .transmit .. | .addMulticast _ | .removeMulticast _ => .status 0
  | .reset | .service => .done
  | .address => .address Card.fallbackAddress
  | .stats => .stats none

def Card.call {σ : Type} (c : Card σ) : DriverCall → Card σ × CardAnswer × List CardEvent
  | .attach type routine =>
    let (c, r) := c.attach type routine
    (c, .handler r, [])
  | .detach type =>
    let (c, r) := c.detach type
    (c, .handler r, [])
  | .reset => (c.reset, .done, [])
  | .transmit memory packet =>
    let (c, events, r) := c.transmit memory packet
    (c, .submitted r, events)
  | .addMulticast address => (c, .multicast (c.addMulticast address), [])
  | .removeMulticast address => (c, .multicast (c.removeMulticast address), [])
  | .service =>
    let (c, events, found) := c.service
    (c, .serviced found, events)
  | .address => (c, .address c.address, [])
  | .stats => (c, .stats c.stats, [])

namespace Slot

variable {σ : Type}

def call (s : Slot σ) : DriverCall → Slot σ × DriverAnswer × List CardEvent
  | .attach type routine =>
    let (s, status) := s.attach type routine
    (s, .status status, [])
  | .detach type =>
    let (s, status) := s.detach type
    (s, .status status, [])
  | .reset => (s.reset, .done, [])
  | .transmit memory packet =>
    let (s, events, status) := s.transmit memory packet
    (s, .status status, events)
  | .addMulticast address => (s, .status (s.addMulticast address), [])
  | .removeMulticast address => (s, .status (s.removeMulticast address), [])
  | .service =>
    let (s, events) := s.service
    (s, .done, events)
  | .address => (s, .address s.address, [])
  | .stats => (s, .stats s.stats, [])

/-- Without one every call succeeds, and nothing happens. -/
theorem call_empty (k : DriverCall) : (empty : Slot σ).call k = (empty, k.success, []) := by
  cases k <;> rfl

end Slot

/-! ## What happens between calls -/

/-- What can happen to a card that is not called. -/
inductive Meanwhile where
  /-- The host does something at its end of the port. -/
  | host (act : Port → Port)
  /-- One round of the relay. -/
  | relay
  /-- One round of reception. -/
  | receive

def Meanwhile.turn : Meanwhile → Turn
  | .host act => .host act
  | .relay => .move .relay
  | .receive => .move .receive

/-- A step of a card that serves a driver. -/
inductive ServingStep where
  | call (k : DriverCall)
  | meanwhile (m : Meanwhile)

namespace Card

variable {σ : Type} (net : NetStack σ)

def serve (c : Card σ) : ServingStep → Card σ × Option CardAnswer × List CardEvent
  | .call k =>
    let (c, answer, events) := c.call k
    (c, some answer, events)
  | .meanwhile m =>
    let (c, events) := c.turn net m.turn
    (c, none, events)

/-- A card that has been shut down rests, whatever the host does. -/
theorem turn_meanwhile_of_closed {c : Card σ} (h : c.isOpen = false) (m : Meanwhile) :
    (c.turn net m.turn).1.isOpen = false ∧ (c.turn net m.turn).2 = [] := by
  cases m with
  | host act => exact ⟨h, rfl⟩
  | relay =>
    have hturn : c.turn net Meanwhile.relay.turn = (c, []) :=
      congrArg (·, []) (if_neg (by simp [h]))
    rw [hturn]
    exact ⟨h, rfl⟩
  | receive =>
    have hturn : c.turn net Meanwhile.receive.turn = (c, []) :=
      receive_of_resting (by simp [isResting, h])
    rw [hturn]
    exact ⟨h, rfl⟩

end Card

/-! ## Drivers -/

/-- The slot of a driver, and the card that was let go from it. -/
structure Driver (σ : Type) where
  slot : Slot σ
  released : Option (Card σ)

/-- A step of a driver. -/
inductive DriverStep where
  | serving (s : ServingStep)
  /-- The driver ends, and lets its card go. -/
  | exit

/-- What is seen of the step of a driver without a card. -/
def DriverStep.inert : DriverStep → Option DriverAnswer × List CardEvent
  | .serving (.call k) => (some k.success, [])
  | .serving (.meanwhile _) => (none, [])
  | .exit => (some .done, [])

namespace Driver

variable {σ : Type} (net : NetStack σ)

def step (d : Driver σ) : DriverStep → Driver σ × Option DriverAnswer × List CardEvent
  | .serving (.call k) =>
    let (slot, answer, events) := d.slot.call k
    ({ d with slot }, some answer, events)
  | .serving (.meanwhile m) =>
    -- A card that was let go has threads and a host no less than the one in the slot.
    let held := d.slot.card.map fun c => c.turn net m.turn
    let released := d.released.map fun c => c.turn net m.turn
    ({ slot := ⟨held.map Prod.fst⟩, released := released.map Prod.fst }, none,
      (held.map Prod.snd).getD [] ++ (released.map Prod.snd).getD [])
  | .exit =>
    ({ slot := d.slot.exit, released := (d.slot.card.map Card.shutdown).or d.released },
      some .done, [])

/-- Steps one after the other, with the answers and the events. -/
def run : Driver σ → List DriverStep → Driver σ × List (Option DriverAnswer × List CardEvent)
  | d, [] => (d, [])
  | d, s :: ss =>
    let (d, seen) := d.step net s
    let (d, more) := run d ss
    (d, seen :: more)

/-- There is no card in the slot, and one that was let go has been shut down. -/
structure IsClosed (d : Driver σ) : Prop where
  slot : d.slot = .empty
  released : ∀ c, d.released = some c → c.isOpen = false

theorem IsClosed.step {d : Driver σ} (h : d.IsClosed) (s : DriverStep) :
    (d.step net s).1.IsClosed ∧ (d.step net s).2 = s.inert := by
  obtain ⟨slot, released⟩ := d
  obtain ⟨rfl, hreleased⟩ := h
  cases s with
  | exit => exact ⟨⟨rfl, hreleased⟩, rfl⟩
  | serving s =>
    cases s with
    | call k =>
      simp only [Driver.step, Slot.call_empty]
      exact ⟨⟨rfl, hreleased⟩, rfl⟩
    | meanwhile m =>
      cases released with
      | none => exact ⟨⟨rfl, fun c hc => by cases hc⟩, rfl⟩
      | some c =>
        obtain ⟨hclosed, hevents⟩ := Card.turn_meanwhile_of_closed net (hreleased c rfl) m
        refine ⟨⟨rfl, ?_⟩, ?_⟩
        · rintro _ ⟨⟩
          exact hclosed
        · exact congrArg (fun events => (none, [] ++ events)) hevents

theorem IsClosed.run {d : Driver σ} (h : d.IsClosed) (ss : List DriverStep) :
    (d.run net ss).1.IsClosed ∧ (d.run net ss).2 = ss.map DriverStep.inert := by
  induction ss generalizing d with
  | nil => exact ⟨h, rfl⟩
  | cons s ss ih =>
    obtain ⟨hnext, hseen⟩ := h.step net s
    obtain ⟨hclosed, hmore⟩ := ih hnext
    refine ⟨hclosed, ?_⟩
    simp only [Driver.run, List.map_cons, hseen, hmore]

end Driver

end GuestNic
