import GuestNic.Proofs.Card.Refit
import GuestNic.Proofs.Runs
import GuestNic.Proofs.Threads.Basic

/-!
# Threads of a refitted card

A change to the card that its steps do not look at is not looked at by its threads either: each
thread takes on the refitted card the step that it takes on the card itself, and so does everybody
under every schedule (`Threads.follows_refit`). The reception thread may stand elsewhere meanwhile,
which only those notice who wait for it.
-/

namespace GuestNic

/-- The turn is a call that is meant for the handler table. -/
def Actor.isTable : Actor → Bool
  | .outside call => call.isTable
  | _ => false

namespace Threads

variable {σ τ : Type} {net : NetStack σ} {other : NetStack τ} {f : Card.Refit σ τ}
  {stand : ReceiverPoint → ReceiverPoint} {m : Threads σ}

/-- The threads on the card after a change, with the reception thread at another point. -/
def refit (f : Card.Refit σ τ) (stand : ReceiverPoint → ReceiverPoint) (m : Threads σ) :
    Threads τ where
  card := m.card.refit f
  cancelled := m.cancelled
  relayCancelled := m.relayCancelled
  receiver := stand m.receiver
  relay := m.relay
  guests := m.guests
  closer := m.closer

/-- The two stacks do alike on the two sides of a change that sending does not notice. -/
structure Fits (net : NetStack σ) (other : NetStack τ) (f : Card.Refit σ τ) : Prop
    extends f.SendsAlike where
  input : f.Carries (Relay.takeInput net) (Relay.takeInput other)
  serve : f.Carries (Relay.serve net) (Relay.serve other)

/-- A change that leaves the relay alone is the same to its stack. -/
theorem Fits.of_relay {f : Card.Refit σ σ} (hf : f.SendsAlike) (hrelay : ∀ r, f.relay r = r) :
    Fits net net f where
  toSendsAlike := hf
  input _ _ _ h := by cases (hrelay _).symm.trans h; exact ⟨hrelay _, rfl⟩
  serve _ _ _ h := by cases (hrelay _).symm.trans h; exact ⟨hrelay _, rfl⟩

/-! ## The course of a schedule -/

/-- Schedules, with what happens in them. -/
def course (net : NetStack σ) : Course (Threads σ) Actor Mark where
  next m a := (m.step net a).1
  see m a := (m.step net a).2
  after := after net
  seen := trace net

/-! ## Steps -/

theorem receiverStep_refit (hf : f.PollsAlike)
    (hsort : ∀ origin, m.receiver = .sort origin → f.SortsAlike m.card origin) :
    (m.refit f id).receiverStep = m.receiverStep.map fun r => (r.1.refit f id, r.2) := by
  have hcard : (m.refit f id).card = m.card.refit f := rfl
  have hreceiver : (m.refit f id).receiver = m.receiver := rfl
  have hlink : (m.card.refit f).link = f.onLink m.card.link := rfl
  have hbuffer : (m.card.refit f).buffer = m.card.buffer := rfl
  have hbell : (m.card.refit f).doorbell = m.card.doorbell := rfl
  simp only [receiverStep, hreceiver, hcard]
  cases hp : m.receiver with
  | check | ended => rfl
  | wait =>
    simp only [hlink, Card.wait_onLink hf]
    rcases m.card.link.wait with ⟨link, fault | isReady⟩
    · simp only [Option.map_some, refit, Card.refit, Card.Refit.onLink, hf.failed,
        Bool.and_false, id]
    · rfl
  | read =>
    simp only [hlink, hbuffer, Card.read_onLink hf]
    rcases m.card.link.read m.card.buffer with ⟨link, buffer, fault | _ | origin⟩ <;> rfl
  | sort origin =>
    simp only [Card.prepare_refit hf.toCountsAlike (hsort origin hp)]
    rcases m.card.prepare origin with ⟨card, none | delivery⟩ <;> rfl
  | ring delivery =>
    simp only [hbell]
    cases m.card.doorbell.ring delivery <;> rfl
  | announce => simp only [Option.map_some, refit, Card.refit, hf.raised, id]
  | await =>
    simp only [hbell]
    cases m.card.doorbell.awaited <;> rfl

theorem relayStep_refit (hf : Fits net other f) (m : Threads σ) :
    (m.refit f stand).relayStep other =
      (m.relayStep net).map fun r => (r.1.refit f stand, r.2) := by
  have hcard : (m.refit f stand).card = m.card.refit f := rfl
  have hrelay : (m.refit f stand).relay = m.relay := rfl
  have hcancelled : (m.refit f stand).relayCancelled = m.relayCancelled := rfl
  -- To let the stack's side go is the same for every relay.
  have hrelease : f.Carries (fun r p => (r, p.closeStack)) fun r p => (r, p.closeStack) :=
    fun _ _ _ h => ⟨h, rfl⟩
  simp only [relayStep, releaseStack, hrelay, hcancelled, hcard,
    Card.onRelay_refit hf.toKeepsWiring hrelease, Card.onRelay_refit hf.toKeepsWiring hf.input,
    Card.onRelay_refit hf.toKeepsWiring hf.serve]
  cases m.relay with
  | check => cases m.relayCancelled <;> rfl
  | input | serve | ended => rfl

theorem guestStep_refit (hf : f.CountsAlike) (stand : ReceiverPoint → ReceiverPoint) (i : Nat)
    (m : Threads σ) :
    (m.refit f stand).guestStep i = ((m.guestStep i).1.refit f stand, (m.guestStep i).2) := by
  have hguests : (m.refit f stand).guests i = m.guests i := rfl
  have hbell : (m.refit f stand).card.doorbell = m.card.doorbell := rfl
  simp only [guestStep, hguests, hbell]
  cases m.guests i with
  | idle =>
    rcases m.card.doorbell.take with ⟨bell, none | delivery⟩
    · simp only [refit, Card.refit, hf.spurious]
    · rfl
  | upcall => simp only [refit, Card.refit, hf.serviced]
  | acknowledge => rfl

theorem release_refit (hf : f.KeepsWiring) (c : Card σ) :
    release (c.refit f) = (release c).refit f := by
  simp only [release, Card.releasedPort_refit hf]
  simp only [Card.refit, hf.port, Bool.and_false]

/-- Shutdown waits in the end for the reception thread, and must find it where it stood. -/
theorem closerStep_refit (hf : f.KeepsWiring)
    (hjoin : m.closer = .joining → (stand m.receiver = .ended ↔ m.receiver = .ended)) :
    (m.refit f stand).closerStep = m.closerStep.map fun r => (r.1.refit f stand, r.2) := by
  have hcloser : (m.refit f stand).closer = m.closer := rfl
  have hcard : (m.refit f stand).card = m.card.refit f := rfl
  have hrelay : (m.refit f stand).relay = m.relay := rfl
  have hreceiver : (m.refit f stand).receiver = stand m.receiver := rfl
  simp only [closerStep, hcloser, hcard, hrelay, hreceiver]
  cases hm : m.closer with
  | running | flagged | silenced | finished => rfl
  | stopping => by_cases h : m.relay = .ended <;> simp only [h, ↓reduceIte] <;> rfl
  | joining =>
    simp only [hjoin hm, release_refit hf]
    by_cases h : m.receiver = .ended <;> simp only [h, ↓reduceIte] <;> rfl

/-- What the host and the driver do beside the threads. -/
theorem step?_outside_refit (hf : f.SendsAlike) {call : Call}
    (h : call.isTable = true → ∀ table, f.handlers table = table) (m : Threads σ) :
    (m.refit f stand).step? other (.outside call) =
      (m.step? net (.outside call)).map fun r => (r.1.refit f stand, r.2) := by
  have hcard : (m.refit f stand).card = m.card.refit f := rfl
  simp only [step?, hcard, Card.perform_refit hf h]
  rfl

/-- Whoever takes a step takes the same one on the refitted card. -/
theorem step_refit (hf : Fits net other f)
    (hsort : ∀ origin, m.receiver = .sort origin → f.SortsAlike m.card origin) {a : Actor}
    (ha : a.isTable = true → ∀ table, f.handlers table = table) :
    (m.refit f id).step other a = ((m.step net a).1.refit f id, (m.step net a).2) := by
  have hstep : (m.refit f id).step? other a =
      (m.step? net a).map fun r => (r.1.refit f id, r.2) := by
    cases a with
    | receiver => exact receiverStep_refit hf.pollsAlike hsort
    | relay => exact relayStep_refit hf m
    | guest i => exact congrArg some (guestStep_refit hf.toCountsAlike id i m)
    | closer => exact closerStep_refit hf.toKeepsWiring fun _ => Iff.rfl
    | outside call => exact step?_outside_refit hf.toSendsAlike ha m
  rw [step, step, hstep]
  cases m.step? net a <;> rfl

/-- If the handlers are the same, schedules go alike. -/
theorem follows_refit (hf : Fits net other f) (hhandlers : ∀ table, f.handlers table = table) :
    (course net).Follows (course other) (fun _ => false) fun m m' => m' = m.refit f id where
  hidden _ h := by cases h
  shared {m m' a} hrel _ := by
    have hstep := step_refit (m := m) (a := a) hf (fun _ _ => .inl (hhandlers _)) fun _ => hhandlers
    cases hrel
    exact ⟨congrArg Prod.fst hstep, congrArg Prod.snd hstep.symm⟩

end Threads
end GuestNic
