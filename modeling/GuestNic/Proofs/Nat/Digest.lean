import GuestNic.Proofs.Nat.Fate
import GuestNic.Proofs.Nat.Relay
import GuestNic.Proofs.Nat.Stack

/-!
# What the relay makes of the records that wait

When the channel towards the guest has room for everything that is going to come, it does not matter
to the relay what the guest takes out of it meanwhile. `Relay.digest` says what the relay makes of a
list of datagrams then, without looking at the channel; each turn of the relay is one step of it.
-/

namespace GuestNic

/-- The pipe with frames behind the others that wait for the guest. -/
def StackPipe.enqueue (p : StackPipe) (frames : List Bytes) : StackPipe :=
  { p with toGuest := { p.toGuest with queue := p.toGuest.queue ++ frames } }

/-- The pipe with nothing left for the stack. -/
def StackPipe.withoutRecords (p : StackPipe) : StackPipe :=
  { p with toStack := { p.toStack with queue := [] } }

/-- The pipe from which the guest has taken the oldest frame. -/
def StackPipe.withoutFrame (p : StackPipe) : StackPipe :=
  { p with toGuest := { p.toGuest with queue := p.toGuest.queue.tail } }

@[simp] theorem StackPipe.enqueue_nil (p : StackPipe) : p.enqueue [] = p := by
  rw [enqueue, List.append_nil]

namespace Relay

variable {σ : Type} (net : NetStack σ)

/-! ## Feeding the stack -/

/-- The relay when the stack has been given a datagram and nothing of what it wants to emit has been
emitted, with the frames in question. -/
def feed (r : Relay σ) (datagram : Bytes) : Relay σ × List Bytes :=
  match Record.decode datagram r.buffer with
  | (buffer, .ok ()) =>
    let (stack, frames) := net.input buffer.contents r.stack
    ({ r with stack, buffer, counters.framesIn := r.counters.framesIn + 1 }, frames)
  | (buffer, .error _) =>
    ({ r with buffer, counters.corruptRecords := r.counters.corruptRecords + 1 }, [])

theorem accept_eq_feed (r : Relay σ) (p : StackPipe) (d : Bytes) :
    accept net r p d =
      let (fed, frames) := r.feed net d
      let (counters, pipe) := emitAll fed.counters p frames
      ({ fed with counters }, pipe) := by
  rcases hdecode : Record.decode d r.buffer with ⟨buffer, e | ok⟩
  · simp only [accept, feed, hdecode, emitAll]
  · simp only [accept, feed, hdecode]

theorem feed_inputOpen (r : Relay σ) (d : Bytes) : (r.feed net d).1.inputOpen = r.inputOpen := by
  unfold feed
  split <;> rfl

/-! ## Emitting with room to spare -/

/-- The counters when of some frames all that fit were queued and the others dropped. -/
def credit (counters : RelayCounters) (frames : List Bytes) : RelayCounters :=
  { counters with
    framesOut := counters.framesOut + (frames.filter fits).length
    framesDropped := counters.framesDropped + (frames.length - (frames.filter fits).length) }

theorem emitAll_of_room {p : StackPipe} (hlive : p.toGuest.IsLive) {frames : List Bytes}
    (h : p.toGuest.queue.length + (frames.filter fits).length ≤ p.toGuest.capacity)
    (counters : RelayCounters) :
    emitAll counters p frames = (credit counters frames, p.enqueue (frames.filter fits)) := by
  have hroom : frames.countP fits ≤ p.toGuest.room := by
    rw [hlive.room_eq, List.countP_eq_length_filter]
    omega
  have hemits := emitAll_emits counters p frames
  have hqueued := queued_fates hroom
  have hdropped : Fate.dropped (fates p.toGuest.room frames) =
      frames.length - (frames.filter fits).length := by
    have hlength := Fate.queued_length_add_dropped (fates p.toGuest.room frames)
    have hframes := congrArg List.length (fates_frames p.toGuest.room frames)
    rw [List.length_map] at hframes
    rw [hqueued] at hlength
    omega
  refine Prod.ext ?_ ?_
  · rw [hemits.counters, hqueued, hdropped, credit]
  · rw [hemits.pipe_eq hlive, hqueued, StackPipe.enqueue]

/-! ## Digesting -/

/-- The relay after a turn in which it takes one datagram, and the frames that it queues. -/
def bite (r : Relay σ) (datagram : Bytes) : Relay σ × List Bytes :=
  let (fed, frames) := r.feed net (datagram.take Record.maxSize)
  ({ fed with counters := credit fed.counters frames }, frames.filter fits)

/-- The relay after it has taken all the datagrams, and the frames that it queues. -/
def digest (r : Relay σ) : List Bytes → Relay σ × List Bytes
  | [] => (r, [])
  | d :: ds =>
    let (bitten, frames) := r.bite net d
    let (digested, more) := digest bitten ds
    (digested, frames ++ more)

theorem bite_inputOpen (r : Relay σ) (d : Bytes) : (r.bite net d).1.inputOpen = r.inputOpen :=
  feed_inputOpen net r _

/-- The relay and its pipe after it has taken everything that waits, with room for whatever comes of
it. -/
def digestPipe (r : Relay σ) (p : StackPipe) : Relay σ × StackPipe :=
  let (digested, frames) := r.digest net p.toStack.queue
  (digested, p.withoutRecords.enqueue frames)

/-- There is room for what is still going to be queued. -/
def HasRoom (r : Relay σ) (p : StackPipe) : Prop :=
  p.toGuest.queue.length + (r.digest net p.toStack.queue).2.length ≤ p.toGuest.capacity

instance (r : Relay σ) (p : StackPipe) : Decidable (r.HasRoom net p) :=
  inferInstanceAs (Decidable (_ ≤ _))

/-- How much is left to do: a record costs the relay one step, and a frame costs reception four. -/
def load (r : Relay σ) (p : StackPipe) : Nat :=
  p.toStack.queue.length +
    4 * (p.toGuest.queue.length + (r.digest net p.toStack.queue).2.length)

/-- The relay is at work: its input is open, and nothing is wrong with its pipe. -/
structure IsAtWork (r : Relay σ) (p : StackPipe) : Prop where
  inputOpen : r.inputOpen = true
  inputFault : p.inputFault = none
  toGuest : p.toGuest.IsLive

/-- Emitting leaves the relay at work. -/
theorem IsAtWork.emitAll {r r' : Relay σ} {p : StackPipe} (h : r.IsAtWork p)
    (hopen : r'.inputOpen = r.inputOpen) (counters : RelayCounters) (frames : List Bytes) :
    r'.IsAtWork (Relay.emitAll counters p frames).2 where
  inputOpen := hopen.trans h.inputOpen
  inputFault := (emitAll_emits counters p frames).inputFault.trans h.inputFault
  toGuest := (emitAll_emits counters p frames).isLive h.toGuest

theorem IsAtWork.serve {r : Relay σ} {p : StackPipe} (h : r.IsAtWork p) :
    (Relay.serve net r p).1.IsAtWork (Relay.serve net r p).2 := by
  rw [serve_eq]
  refine h.emitAll ?_ r.counters (net.act r.stack).2
  rfl

theorem IsAtWork.takeInput {r : Relay σ} {p : StackPipe} (h : r.IsAtWork p) :
    (Relay.takeInput net r p).1.IsAtWork (Relay.takeInput net r p).2 := by
  cases hq : p.toStack.queue with
  | nil =>
    rw [takeInput_of_nil net h.inputOpen h.inputFault hq]
    exact h
  | cons d ds =>
    have hrest : r.IsAtWork p.withoutRecord := ⟨h.inputOpen, h.inputFault, h.toGuest⟩
    rw [takeInput_of_cons net h.inputOpen h.inputFault hq, accept_eq_feed]
    refine hrest.emitAll ?_ _ _
    exact feed_inputOpen net r _

/-- With room for what it queues, a turn of the relay is a step in digesting what waits. -/
theorem takeInput_eq_bite {r : Relay σ} {p : StackPipe} (hopen : r.inputOpen = true)
    (hfault : p.inputFault = none) (hlive : p.toGuest.IsLive) {d : Bytes} {ds : List Bytes}
    (hq : p.toStack.queue = d :: ds)
    (h : p.toGuest.queue.length + (r.bite net d).2.length ≤ p.toGuest.capacity) :
    takeInput net r p = ((r.bite net d).1, p.withoutRecord.enqueue (r.bite net d).2) := by
  rw [takeInput_of_cons net hopen hfault hq, accept_eq_feed]
  rcases hfeed : r.feed net (d.take Record.maxSize) with ⟨fed, frames⟩
  simp only [bite, hfeed] at h ⊢
  have hlive : p.withoutRecord.toGuest.IsLive := hlive
  rw [emitAll_of_room hlive h]

theorem digest_cons (r : Relay σ) (d : Bytes) (ds : List Bytes) :
    r.digest net (d :: ds) =
      (((r.bite net d).1.digest net ds).1,
        (r.bite net d).2 ++ ((r.bite net d).1.digest net ds).2) := rfl

/-- A turn of the relay finds nothing, or is a step towards the same end. -/
theorem takeInput_cases {r : Relay σ} {p : StackPipe} (h : r.IsAtWork p) (hroom : r.HasRoom net p) :
    (p.toStack.queue = [] ∧ takeInput net r p = (r, p)) ∨
      ∃ r' p', takeInput net r p = (r', p') ∧ r'.IsAtWork p' ∧ r'.HasRoom net p' ∧
        digestPipe net r' p' = digestPipe net r p ∧ load net r p = load net r' p' + 1 ∧
        p.toStack.queue.length = p'.toStack.queue.length + 1 := by
  cases hq : p.toStack.queue with
  | nil => exact .inl ⟨rfl, takeInput_of_nil net h.inputOpen h.inputFault hq⟩
  | cons d ds =>
    have hrest : (p.withoutRecord.enqueue (r.bite net d).2).toStack.queue = ds := by
      show p.toStack.queue.tail = ds
      rw [hq, List.tail_cons]
    have hguest : (p.withoutRecord.enqueue (r.bite net d).2).toGuest.queue.length =
        p.toGuest.queue.length + (r.bite net d).2.length := List.length_append
    have hdigest := digest_cons net r d ds
    have htotal : p.toGuest.queue.length + ((r.bite net d).2.length +
        ((r.bite net d).1.digest net ds).2.length) ≤ p.toGuest.capacity := by
      rw [← List.length_append]
      rw [HasRoom, hq, hdigest] at hroom
      exact hroom
    refine .inr ⟨(r.bite net d).1, p.withoutRecord.enqueue (r.bite net d).2, ?_, ?_, ?_, ?_, ?_,
      ?_⟩
    · exact takeInput_eq_bite net h.inputOpen h.inputFault h.toGuest hq (by omega)
    · exact ⟨(bite_inputOpen net r d).trans h.inputOpen, h.inputFault, h.toGuest.withQueue _⟩
    · rw [HasRoom, hrest, hguest, Nat.add_assoc]
      exact htotal
    · rw [digestPipe, hrest, digestPipe, hq, hdigest]
      simp only [StackPipe.enqueue, StackPipe.withoutRecords, StackPipe.withoutRecord,
        List.append_assoc]
    · rw [load, hq, hdigest, load, hrest, hguest, List.length_append, List.length_cons]
      omega
    · rw [hrest, List.length_cons]

theorem digest_inputOpen (r : Relay σ) (ds : List Bytes) :
    (r.digest net ds).1.inputOpen = r.inputOpen := by
  induction ds generalizing r with
  | nil => rfl
  | cons d ds ih => exact (ih _).trans (bite_inputOpen net r d)

theorem digestPipe_isAtWork {r : Relay σ} {p : StackPipe} (h : r.IsAtWork p) :
    (digestPipe net r p).1.IsAtWork (digestPipe net r p).2 where
  inputOpen := (digest_inputOpen net r _).trans h.inputOpen
  inputFault := h.inputFault
  toGuest := h.toGuest.withQueue _

theorem digestPipe_of_nil {r : Relay σ} {p : StackPipe} (hq : p.toStack.queue = []) :
    digestPipe net r p = (r, p) := by
  have hsame : p.withoutRecords = p := by
    rw [StackPipe.withoutRecords, ← hq]
  rw [digestPipe, hq, digest]
  simp only [StackPipe.enqueue_nil, hsame]

/-! ## Quiet stacks -/

/-- Serving a quiet stack does nothing. -/
theorem serve_of_quiet (hquiet : net.IsQuiet) (r : Relay σ) (p : StackPipe) :
    serve net r p = (r, p) := by
  simp only [serve_eq, hquiet r.stack, emitAll]

/-- Enough rounds take in everything that waits. -/
theorem rounds_of_quiet (hquiet : net.IsQuiet) {r : Relay σ} {p : StackPipe} (h : r.IsAtWork p)
    (hroom : r.HasRoom net p) {n : Nat} (hn : p.toStack.queue.length ≤ n) :
    rounds net n r p = digestPipe net r p := by
  induction n generalizing r p with
  | zero =>
    have hq : p.toStack.queue = [] := List.eq_nil_of_length_eq_zero (Nat.le_zero.1 hn)
    rw [digestPipe_of_nil net hq, rounds]
  | succ n ih =>
    have hround : round net r p = takeInput net r p := by
      rw [round]
      exact serve_of_quiet net hquiet _ _
    rcases takeInput_cases net h hroom with ⟨hq, hsame⟩ |
      ⟨r', p', htake, hwork, hroom', hdigest, -, hlen⟩
    · rw [rounds, hround, hsame]
      refine ih h hroom ?_
      rw [hq]
      exact Nat.zero_le n
    · rw [rounds, hround, htake, ← hdigest]
      refine ih hwork hroom' ?_
      omega

end Relay
end GuestNic
