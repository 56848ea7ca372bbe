import GuestNic.Card.Open

/-!
# Slots

The place of a card in the machine, as the guest's driver sees it. A slot without a card answers
every call with success and does nothing.
-/

namespace GuestNic

/-- A card or none. -/
structure Slot (σ : Type) where
  card : Option (Card σ)

namespace Slot

variable {σ : Type}

def empty : Slot σ := ⟨none⟩

def ofCard (c : Card σ) : Slot σ := ⟨some c⟩

/-- Fill the slot as the settings say. Where that fails it stays empty. -/
def ofSettings (net : NetStack σ) (s : Settings) (e : Embedding σ)
    (grants : HostGrants := .all) : Opening (Slot σ) :=
  if s.disabled then ⟨[.disabled], empty⟩
  else
    let o := Card.openWith net s e grants
    match o.result with
    | .ok c => ⟨o.notices, ofCard c⟩
    | .error .noLink => ⟨o.notices ++ [.unconfigured], empty⟩
    | .error fault => ⟨o.notices ++ [.unavailable fault], empty⟩

def isOpen (s : Slot σ) : Bool := s.card.isSome

def address (s : Slot σ) : HardwareAddress := (s.card.map Card.address).getD Card.fallbackAddress

def stats (s : Slot σ) : Option CardStats := s.card.map Card.stats

def render (s : Slot σ) : String :=
  let card := match s.card with
    | none => "None"
    | some c => "Some(" ++ c.render ++ ")"
  "EtherDriver \x7b device: " ++ card ++ " \x7d"

/-! ## Driver calls -/

def attach (s : Slot σ) (type : UInt16) (routine : Routine) : Slot σ × Status :=
  match s.card with
  | none => (s, .ok)
  | some c => let (c, r) := c.attach type routine; (ofCard c, statusOf HandlerFault.status r)

def detach (s : Slot σ) (type : UInt16) : Slot σ × Status :=
  match s.card with
  | none => (s, .ok)
  | some c => let (c, r) := c.detach type; (ofCard c, statusOf HandlerFault.status r)

def reset (s : Slot σ) : Slot σ := ⟨s.card.map Card.reset⟩

def transmit (s : Slot σ) (m : GuestMemory) (packet : OutgoingPacket) :
    Slot σ × List CardEvent × Status :=
  match s.card with
  | none => (s, [], .ok)
  | some c =>
    let (c, events, r) := c.transmit m packet
    (ofCard c, events, statusOf TransmitFault.status r)

def addMulticast (s : Slot σ) (address : HardwareAddress) : Status :=
  match s.card with
  | none => .ok
  | some c => statusOf MulticastFault.status (c.addMulticast address)

def removeMulticast (s : Slot σ) (address : HardwareAddress) : Status :=
  match s.card with
  | none => .ok
  | some c => statusOf MulticastFault.status (c.removeMulticast address)

def service (s : Slot σ) : Slot σ × List CardEvent :=
  match s.card with
  | none => (s, [])
  | some c => let (c, events, _) := c.service; (ofCard c, events)

/-- Shut the card down and take it out. -/
def exit (_ : Slot σ) : Slot σ := empty

end Slot
end GuestNic
