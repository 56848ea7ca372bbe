import GuestNic.Proofs.Nat.Stack
import GuestNic.Proofs.Threads.Refit

/-!
# Threads seen through a map of the stack's states

What a stack keeps only for itself is not noticed by the card around it: if the stack behaves like
another one when it is seen through a map of its states, so does the whole card, and so do all its
threads under every schedule.
-/

namespace GuestNic

variable {σ τ : Type} {net : NetStack σ} {other : NetStack τ} {view : σ → τ}

/-! ## Cards -/

namespace Card

/-- The same card with its stack seen through `view`. -/
def mapStack (view : σ → τ) (c : Card σ) : Card τ where
  handlers := c.handlers
  doorbell := c.doorbell
  counters := c.counters
  link := c.link
  relay := c.relay.map (Relay.mapStack view)
  buffer := c.buffer
  isReceiving := c.isReceiving
  layout := c.layout
  address := c.address
  isOpen := c.isOpen

/-- To look at the stack through `view` is a change that no step looks at. -/
def viewing (view : σ → τ) : Refit σ τ where
  relay := Option.map (Relay.mapStack view)

theorem viewing_sendsAlike (view : σ → τ) : (viewing view).SendsAlike where
  relay _ := Option.isSome_map

/-- What is done to the relay commutes with `view` if it does so on the relay itself. -/
theorem viewing_carries {act : Relay σ → StackPipe → Relay σ × StackPipe}
    {act' : Relay τ → StackPipe → Relay τ × StackPipe}
    (h : ∀ r p, act' (r.mapStack view) p = ((act r p).1.mapStack view, (act r p).2)) :
    (viewing view).Carries act act' := by
  intro r r' p hr
  cases hr
  rw [h]
  exact ⟨rfl, rfl⟩

/-- Settling does not notice what the stack keeps for itself. -/
theorem settle_mapStack (h : net.Simulates other view) (c : Card σ) :
    (c.mapStack view).settle other = ((c.settle net).1.mapStack view, (c.settle net).2) := by
  have hrelay : (c.mapStack view).runRelay other = (c.runRelay net).mapStack view := by
    obtain ⟨_, _, _, ⟨port, _⟩, relay, _, _, _, _, isOpen⟩ := c
    cases isOpen with
    | false => rfl
    | true =>
      cases relay with
      | none => cases port <;> rfl
      | some r =>
        cases port with
        | pipe p =>
          simp only [mapStack, runRelay, Option.map_some, Relay.settle, Relay.rounds_mapStack h]
        | raw | tunnel => rfl
  simp only [settle, hrelay]
  exact receiveTimes_refit (viewing_sendsAlike view).pollsAlike rfl (fun _ => rfl) _ _

end Card

/-- The two threads of a card in NAT mode. -/
def Actor.isInternal : Actor → Bool
  | .receiver | .relay => true
  | _ => false

/-! ## Threads -/

namespace Threads

/-- The same threads with the stack of their card seen through `view`. -/
def mapStack (view : σ → τ) (m : Threads σ) : Threads τ where
  card := m.card.mapStack view
  cancelled := m.cancelled
  relayCancelled := m.relayCancelled
  receiver := m.receiver
  relay := m.relay
  guests := m.guests
  closer := m.closer

theorem mapStack_eq_refit (view : σ → τ) (m : Threads σ) :
    m.mapStack view = m.refit (Card.viewing view) id := rfl

theorem view_fits (h : net.Simulates other view) : Fits net other (Card.viewing view) where
  toSendsAlike := Card.viewing_sendsAlike view
  input := Card.viewing_carries (Relay.takeInput_mapStack h)
  serve := Card.viewing_carries (Relay.serve_mapStack h)

/-- No step notices what the stack keeps for itself. -/
theorem step_mapStack (h : net.Simulates other view) (m : Threads σ) (a : Actor) :
    (m.mapStack view).step other a = ((m.step net a).1.mapStack view, (m.step net a).2) :=
  step_refit (view_fits h) (fun _ _ => .inl rfl) fun _ _ => rfl

/-- No schedule does. -/
theorem after_mapStack (h : net.Simulates other view) (m : Threads σ) (as : List Actor) :
    (m.mapStack view).after other as = (m.after net as).mapStack view :=
  ((follows_refit (view_fits h) fun _ => rfl).run_all (m.mapStack_eq_refit view) as).1

theorem start_mapStack (view : σ → τ) (c : Card σ) :
    start (c.mapStack view) = (start c).mapStack view := by
  have hrelay : (c.mapStack view).relay.isSome = c.relay.isSome := Option.isSome_map
  simp only [start, mapStack, hrelay]

end Threads
end GuestNic
