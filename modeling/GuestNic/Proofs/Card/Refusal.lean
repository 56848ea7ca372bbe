import GuestNic.Proofs.Card.Refit

/-!
# Sends that find no room

A record that finds the queue towards the stack full is refused whole: the card counts the refusal
and is otherwise as it was. Nothing that a card does looks at these counters, so it goes on as if
the send had not been tried.
-/

namespace GuestNic

/-! ## Channels and links -/

/-- To be refused for want of room leaves no trace in the channel. -/
theorem Host.Channel.send_of_wouldBlock {c : Host.Channel} {d : Bytes}
    (h : (c.send d).2 = .error (.os .wouldBlock)) : (c.send d).1 = c := by
  unfold Host.Channel.send at h ⊢
  split
  · rfl
  · rfl
  · split
    · rename_i hsender hclosed
      simp only [hsender, if_pos hclosed] at h
      cases h
    · split
      · rfl
      · rename_i hsender hopen hroom
        simp only [hsender, if_neg hopen, if_neg hroom] at h
        cases h

/-- A record is taken whole or not at all, so nothing but the channel refuses it. -/
theorem StackPipe.send_of_wouldBlock {p : StackPipe} {frame : Bytes} {writer : Host.Writer}
    (h : Port.whole writer (Record.encode frame).length (p.send frame).2 =
      .error (.os .wouldBlock)) : (p.send frame).1 = p := by
  rw [send_eq] at h ⊢
  have hfull : (p.toStack.send (Record.encode frame)).2 = .error (.os .wouldBlock) := by
    cases hr : (p.toStack.send (Record.encode frame)).2 with
    | error fault =>
      rw [hr] at h
      cases h
      rfl
    | ok _ =>
      rw [hr] at h
      simp [Except.map, Port.whole, Except.bind] at h
  simp only [Host.Channel.send_of_wouldBlock hfull]

namespace Link

/-- The link with one failed write more among its counters. -/
def withRefusal (l : Link) : Link :=
  { l with traffic.txErrors := l.traffic.txErrors + 1 }

end Link

namespace Card

variable {σ : Type} (c : Card σ)

/-- The card with one refused send more among its counters. -/
def withRefusal : Card σ :=
  { c with link := c.link.withRefusal, counters.txRefused := c.counters.txRefused + 1 }

/-- A call that the host refuses for want of room does no more to a card in NAT mode than to be
counted. -/
theorem perform_of_wouldBlock {c : Card σ} {p : StackPipe} (hp : c.link.port = .pipe p)
    {call : Call} {o : Outgoing}
    (h : c.sending? call = some (o, .error (.host (.os .wouldBlock)))) :
    (c.perform call).1 = c.withRefusal := by
  obtain ⟨hperform, hr⟩ := perform_of_sending? h
  rw [hperform]
  cases ho : c.isOpen with
  | false =>
    rw [submit_of_closed ho] at hr
    cases hr
  | true =>
    cases hf : o.frame? with
    | error e =>
      rw [submit_of_tooLong Port.offer ho hf] at hr
      cases hr
    | ok frame =>
      cases hw : Port.whole c.link.port.writer (c.link.port.payload frame).length
          (Port.offer frame c.link.port).2 with
      | ok _ =>
        rw [submit_of_whole Port.offer ho hf (Port.whole_ok_iff.1 hw)] at hr
        cases hr
      | error fault =>
        rw [submit_of_fault Port.offer ho hf hw] at hr ⊢
        cases hr
        have hsame : (Port.offer frame c.link.port).1 = c.link.port := by
          rw [hp] at hw ⊢
          exact congrArg Port.pipe (StackPipe.send_of_wouldBlock hw)
        rw [hsame]
        rfl

/-! ## Nothing depends on the counters -/

/-- To count one refused send more is a change that no step looks at. -/
def refusal : Refit σ σ where
  counters k := { k with txRefused := k.txRefused + 1 }
  traffic t := { t with txErrors := t.txErrors + 1 }
  relay := id

theorem refusal_sendsAlike : (refusal : Refit σ σ).SendsAlike := {}

end Card
end GuestNic
