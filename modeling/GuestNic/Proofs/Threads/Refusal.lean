import GuestNic.Proofs.Card.Refusal
import GuestNic.Proofs.Threads.Refit

/-!
# Threads after a send that found no room

A send that finds the queue towards the stack full is counted and leaves nothing else behind. No
thread looks at the counters, so every schedule goes on as if the send had not been tried, whatever
is sent, read, serviced or shut down in it.
-/

namespace GuestNic.Threads

variable {σ : Type} (net : NetStack σ) (m : Threads σ)

/-- The threads on a card that has counted one refused send more. -/
def withRefusal : Threads σ := { m with card := m.card.withRefusal }

theorem withRefusal_eq_refit : m.withRefusal = m.refit Card.refusal id := rfl

theorem refusal_fits : Fits net net Card.refusal :=
  .of_relay Card.refusal_sendsAlike fun _ => rfl

/-- Every schedule goes on as if nothing had been tried. -/
theorem run_withRefusal (as : List Actor) :
    m.withRefusal.after net as = (m.after net as).withRefusal ∧
      m.withRefusal.trace net as = m.trace net as := by
  obtain ⟨hafter, htrace⟩ :=
    (follows_refit (refusal_fits net) fun _ => rfl).run_all m.withRefusal_eq_refit as
  exact ⟨hafter, htrace.symm⟩

end GuestNic.Threads
