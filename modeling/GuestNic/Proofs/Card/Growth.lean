import GuestNic.Proofs.Card.History
import GuestNic.Proofs.Nat.Relay

/-!
# What calls and the relay leave alone

Neither a call nor a round of the relay touches the doorbell, the openness of the card or what
already waits at its port; at most something joins the end of the queue. Sorting a frame touches
less still.
-/

namespace GuestNic.Card

variable {σ : Type}

/-- The doorbell is untouched, and the card is open and receives as before. -/
structure Spares (c c' : Card σ) : Prop where
  doorbell : c'.doorbell = c.doorbell
  isOpen : c'.isOpen = c.isOpen
  isReceiving : c'.isReceiving = c.isReceiving
  layout : c'.layout = c.layout

/-- Moreover the port still has its queue, with `more` at the end. -/
structure Prolongs (c c' : Card σ) (more : List Bytes) : Prop extends Spares c c' where
  isQueue : c'.link.port.IsQueue
  queue : c'.queue = c.queue ++ more

variable {c : Card σ}

theorem Spares.refl : c.Spares c := ⟨rfl, rfl, rfl, rfl⟩

/-- Without a change of the link nothing joins the queue. -/
theorem Prolongs.of_link {c' : Card σ} (h : c.link.port.IsQueue) (hs : c.Spares c')
    (hlink : c'.link = c.link) : c.Prolongs c' [] where
  toSpares := hs
  isQueue := by rw [hlink]; exact h
  queue := by rw [Card.queue, hlink]; exact (List.append_nil _).symm

theorem Prolongs.refl (h : c.link.port.IsQueue) : c.Prolongs c [] := .of_link h .refl rfl

/-! ## Calls -/

theorem attach_spares (type : UInt16) (routine : Routine) :
    c.Spares (c.attach type routine).1 ∧ (c.attach type routine).1.link = c.link := by
  unfold attach
  split <;> exact ⟨⟨rfl, rfl, rfl, rfl⟩, rfl⟩

theorem detach_spares (type : UInt16) :
    c.Spares (c.detach type).1 ∧ (c.detach type).1.link = c.link := by
  unfold detach
  split <;> exact ⟨⟨rfl, rfl, rfl, rfl⟩, rfl⟩

theorem send_spares (frame : Bytes) : c.Spares (c.send frame).1 := by
  unfold send
  split
  · exact ⟨rfl, rfl, rfl, rfl⟩
  · split <;> exact ⟨rfl, rfl, rfl, rfl⟩

/-- No call touches the doorbell, whatever the port. -/
theorem perform_spares (call : Call) : c.Spares (c.perform call).1 := by
  cases call with
  | attach type routine => exact (attach_spares type routine).1
  | detach type => exact (detach_spares type).1
  | reset => exact ⟨rfl, rfl, rfl, rfl⟩
  | transmit memory packet =>
    simp only [perform, transmit]
    split
    · split
      · exact ⟨rfl, rfl, rfl, rfl⟩
      · exact send_spares _
    · exact .refl
  | transmitFrame frame =>
    simp only [perform, transmitFrame]
    split
    · exact send_spares frame
    · exact .refl
  | arrive peer frame =>
    simp only [perform, arrive]
    split
    · exact ⟨rfl, rfl, rfl, rfl⟩
    · exact .refl

/-- Whatever becomes of a write, nothing that waits at the port is disturbed. -/
theorem send_prolongs (h : c.link.port.IsQueue) (frame : Bytes) :
    c.Prolongs (c.send frame).1 [] := by
  have hport : (c.link.write frame).1.port.IsQueue := h.write frame
  have hqueue : (c.link.write frame).1.port.queue = c.queue := Port.queue_write h frame
  unfold send
  split
  · exact .of_link h ⟨rfl, rfl, rfl, rfl⟩ rfl
  · split
    -- The link counts what was written or refused; the port is the one that the write left.
    all_goals
      rename_i heq
      rw [heq] at hport hqueue
      exact ⟨⟨rfl, rfl, rfl, rfl⟩, hport, hqueue.trans (List.append_nil _).symm⟩

theorem transmit_prolongs (h : c.link.port.IsQueue) (m : GuestMemory) (packet : OutgoingPacket) :
    c.Prolongs (c.transmit m packet).1 [] := by
  unfold transmit
  split
  · dsimp only
    split
    · exact .of_link h ⟨rfl, rfl, rfl, rfl⟩ rfl
    · exact send_prolongs h _
  · exact .refl h

theorem arrive_prolongs (h : c.link.port.IsQueue) (peer : Peer) (frame : Bytes) :
    c.Prolongs (c.arrive peer frame).1 (if (c.arrive peer frame).2 then [frame] else []) := by
  unfold arrive
  split
  · exact ⟨⟨rfl, rfl, rfl, rfl⟩, h.arrive peer frame, Port.queue_arrive h peer frame⟩
  · exact .refl h

/-- A call changes at most the end of the queue, and that only with a frame of the far side. -/
theorem perform_prolongs (h : c.link.port.IsQueue) (call : Call) :
    c.Prolongs (c.perform call).1 (c.arrived (.call call)) := by
  cases call with
  | attach type routine =>
    -- Handlers are not looked up before a frame is read.
    obtain ⟨hspares, hlink⟩ := attach_spares (c := c) type routine
    exact .of_link h hspares hlink
  | detach type =>
    obtain ⟨hspares, hlink⟩ := detach_spares (c := c) type
    exact .of_link h hspares hlink
  | reset => exact .of_link h ⟨rfl, rfl, rfl, rfl⟩ rfl
  | transmit memory packet => exact transmit_prolongs h memory packet
  | transmitFrame frame =>
    simp only [perform, transmitFrame, arrived]
    split
    · exact send_prolongs h frame
    · exact .refl h
  | arrive peer frame => exact arrive_prolongs h peer frame

theorem send_relay (frame : Bytes) : (c.send frame).1.relay = c.relay := by
  unfold send
  split
  · rfl
  · split <;> rfl

theorem perform_relay (call : Call) : (c.perform call).1.relay = c.relay := by
  cases call with
  | attach type routine =>
    simp only [perform, attach]
    split <;> rfl
  | detach type =>
    simp only [perform, detach]
    split <;> rfl
  | reset => rfl
  | transmit memory packet =>
    simp only [perform, transmit]
    split
    · split
      · rfl
      · exact send_relay _
    · rfl
  | transmitFrame frame =>
    simp only [perform, transmitFrame]
    split
    · exact send_relay frame
    · rfl
  | arrive peer frame =>
    simp only [perform, arrive]
    split <;> rfl

/-- All that a call does to the machine is to read guest memory. -/
theorem perform_events {call : Call} {e : CardEvent} (he : e ∈ (c.perform call).2) :
    ∃ address length, e = .read address length := by
  cases call with
  | transmit memory packet =>
    simp only [perform, transmit] at he
    split at he
    · obtain ⟨p, _, rfl⟩ := List.mem_map.1 he
      exact ⟨_, _, rfl⟩
    · cases he
  | attach | detach | reset | transmitFrame | arrive => cases he

/-! ## Sorting -/

/-- Sorting a frame empties the buffer, and may count a frame that was dropped. -/
theorem prepare_eq (c : Card σ) (origin : Origin) :
    ∃ dropped, (c.prepare origin).1 =
      { c with buffer := .empty, counters.rxDropped := dropped } := by
  unfold prepare
  dsimp only
  split
  · exact ⟨c.counters.rxDropped, rfl⟩
  · split
    · exact ⟨c.counters.rxDropped, rfl⟩
    · exact ⟨c.counters.rxDropped + 1, rfl⟩
  · exact ⟨c.counters.rxDropped, rfl⟩

theorem prepare_spares (c : Card σ) (origin : Origin) :
    c.Spares (c.prepare origin).1 ∧ (c.prepare origin).1.link = c.link ∧
      (c.prepare origin).1.relay = c.relay := by
  obtain ⟨dropped, heq⟩ := c.prepare_eq origin
  rw [heq]
  exact ⟨⟨rfl, rfl, rfl, rfl⟩, rfl, rfl⟩

/-! ## The relay -/

theorem onRelay_spares (act : Relay σ → StackPipe → Relay σ × StackPipe) :
    c.Spares (c.onRelay act) := by
  unfold onRelay
  split
  · exact ⟨rfl, rfl, rfl, rfl⟩
  · exact .refl

theorem onRelay_prolongs (h : c.link.port.IsQueue)
    {act : Relay σ → StackPipe → Relay σ × StackPipe}
    (hact : ∀ (r : Relay σ) (p : StackPipe), p.toGuest.IsLive → p.Grows (act r p).2) :
    ∃ more, c.Prolongs (c.onRelay act) more := by
  unfold onRelay
  split
  · rename_i pipe relay hp hr
    have hlive : pipe.toGuest.IsLive := by
      rw [hp] at h
      cases h with
      | pipe hg => exact hg
    have hgrow := hact relay pipe hlive
    obtain ⟨more, hmore⟩ := hgrow.queue
    refine ⟨more, ⟨rfl, rfl, rfl, rfl⟩, .pipe hgrow.live, ?_⟩
    rw [queue, queue, hp]
    exact hmore.symm
  · exact ⟨[], .refl h⟩

theorem relayRound_prolongs (net : NetStack σ) (h : c.link.port.IsQueue) :
    ∃ more, c.Prolongs (c.relayRound net) more := by
  unfold relayRound
  split
  · exact onRelay_prolongs h fun r p hlive => Relay.round_grows net hlive r
  · exact ⟨[], .refl h⟩

/-- Without a relay its rounds do nothing. -/
theorem relayRound_of_none (net : NetStack σ) (h : c.relay = none) : c.relayRound net = c := by
  have hon : c.onRelay (Relay.round net) = c := by
    unfold onRelay
    split
    · rename_i hr
      rw [h] at hr
      cases hr
    · rfl
  rw [relayRound, hon, ite_self]

end GuestNic.Card
