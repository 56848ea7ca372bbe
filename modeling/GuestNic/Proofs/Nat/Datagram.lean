import GuestNic.Proofs.Ethernet.Codec
import GuestNic.Proofs.Nat.Fate
import GuestNic.Proofs.Nat.Relay
import GuestNic.Proofs.Nat.Stack

/-!
# Single datagrams at the relay

What the relay does with one datagram depends on whether it is a record, and on nothing that earlier
datagrams have left behind: of one that is not, only the count of corrupt records keeps a trace
(`Relay.takeInput_corrupted`).
-/

namespace GuestNic

namespace Relay

variable {σ : Type} (net : NetStack σ) (r : Relay σ) (p : StackPipe) {d f : Bytes}

/-! ## Records and others -/

/-- A record is handed to the stack, whatever the buffer held. -/
theorem accept_of_frame? (h : Record.frame? d = some f) :
    ∃ buffer, accept net r p d =
      let counters := { r.counters with framesIn := r.counters.framesIn + 1 }
      let after := emitAll counters p (net.input f r.stack).2
      ({ r with stack := (net.input f r.stack).1, buffer, counters := after.1 }, after.2) := by
  obtain ⟨filled, hdecode, hfilled⟩ := Record.decode_of_frame? h r.buffer
  refine ⟨filled, ?_⟩
  simp only [accept, hdecode, hfilled]

/-- What is no record is counted, and nothing else happens. -/
theorem accept_of_frame?_eq_none (h : Record.frame? d = none) :
    ∃ buffer, accept net r p d =
      ({ r with
          buffer
          counters.corruptRecords := r.counters.corruptRecords + 1 }, p) := by
  obtain ⟨e, hdecode, -⟩ := Record.decode_of_frame?_eq_none h r.buffer
  refine ⟨r.buffer.clear, ?_⟩
  simp only [accept, hdecode]

theorem emitAll_corruptRecords_eq (counters : RelayCounters) (frames : List Bytes) :
    (emitAll counters p frames).1.corruptRecords = counters.corruptRecords :=
  (congrArg RelayCounters.corruptRecords (emitAll_emits counters p frames).counters).trans rfl

theorem emitAll_inputFault (counters : RelayCounters) (frames : List Bytes) :
    (emitAll counters p frames).2.inputFault = p.inputFault :=
  (emitAll_emits counters p frames).inputFault

/-- Handing a datagram over does not touch what waits behind it. -/
theorem accept_toStack (d : Bytes) : (accept net r p d).2.toStack = p.toStack := by
  cases hf : Record.frame? d with
  | none =>
    obtain ⟨buffer, haccept⟩ := accept_of_frame?_eq_none net r p hf
    rw [haccept]
  | some f =>
    obtain ⟨buffer, haccept⟩ := accept_of_frame? net r p hf
    rw [haccept]
    exact (emitAll_emits _ p _).toStack

/-- Emitting neither looks at the count of corrupt records nor changes it. -/
theorem emitAll_corruptRecords (counters : RelayCounters) (corruptRecords : Nat)
    (frames : List Bytes) :
    emitAll { counters with corruptRecords } p frames =
      ({ (emitAll counters p frames).1 with corruptRecords }, (emitAll counters p frames).2) := by
  induction frames generalizing counters p with
  | nil => rfl
  | cons frame frames ih =>
    have hemit : emit { counters with corruptRecords } p frame =
        ({ (emit counters p frame).1 with corruptRecords }, (emit counters p frame).2) := by
      unfold emit
      split
      · rfl
      · split <;> rfl
    rw [emitAll, hemit]
    exact ih _ _

/-! ## Corrupt datagrams -/

/-- The relay with one corrupt datagram more on its count, and something else in its buffer. -/
def corrupted (r : Relay σ) (buffer : FrameBuffer) : Relay σ :=
  { r with
    buffer
    counters.corruptRecords := r.counters.corruptRecords + 1 }

theorem accept_corrupted (buffer : FrameBuffer) (d : Bytes) :
    ∃ buffer', accept net (r.corrupted buffer) p d =
      ((accept net r p d).1.corrupted buffer', (accept net r p d).2) := by
  cases hf : Record.frame? d with
  | none =>
    obtain ⟨b, haccept⟩ := accept_of_frame?_eq_none net (r.corrupted buffer) p hf
    obtain ⟨b', haccept'⟩ := accept_of_frame?_eq_none net r p hf
    rw [haccept, haccept']
    exact ⟨b, rfl⟩
  | some f =>
    obtain ⟨b, haccept⟩ := accept_of_frame? net (r.corrupted buffer) p hf
    obtain ⟨b', haccept'⟩ := accept_of_frame? net r p hf
    have hemit := emitAll_corruptRecords p
      { r.counters with framesIn := r.counters.framesIn + 1 } (r.counters.corruptRecords + 1)
      (net.input f r.stack).2
    have hkept := emitAll_corruptRecords_eq p
      { r.counters with framesIn := r.counters.framesIn + 1 } (net.input f r.stack).2
    refine ⟨b, ?_⟩
    rw [haccept, haccept']
    simp only [corrupted, hkept]
    rw [hemit]

theorem serve_corrupted (buffer : FrameBuffer) :
    serve net (r.corrupted buffer) p =
      ((serve net r p).1.corrupted buffer, (serve net r p).2) := by
  have hemit := emitAll_corruptRecords p r.counters (r.counters.corruptRecords + 1)
    (net.act r.stack).2
  have hkept := emitAll_corruptRecords_eq p r.counters (net.act r.stack).2
  simp only [serve_eq, corrupted, hkept]
  rw [hemit]

theorem takeInput_corrupted (buffer : FrameBuffer) :
    ∃ buffer', takeInput net (r.corrupted buffer) p =
      ((takeInput net r p).1.corrupted buffer', (takeInput net r p).2) := by
  cases hopen : r.inputOpen with
  | false =>
    have hopen' : (r.corrupted buffer).inputOpen = false := hopen
    rw [takeInput_of_closed net hopen, takeInput_of_closed net hopen']
    exact ⟨buffer, rfl⟩
  | true =>
    have hopen' : (r.corrupted buffer).inputOpen = true := hopen
    cases hfault : p.inputFault with
    | some fault =>
      rw [takeInput_of_fault net hopen hfault, takeInput_of_fault net hopen' hfault]
      exact ⟨buffer, rfl⟩
    | none =>
      cases hq : p.toStack.queue with
      | nil =>
        rw [takeInput_of_nil net hopen hfault hq, takeInput_of_nil net hopen' hfault hq]
        exact ⟨buffer, rfl⟩
      | cons d ds =>
        rw [takeInput_of_cons net hopen hfault hq, takeInput_of_cons net hopen' hfault hq]
        exact accept_corrupted net r p.withoutRecord buffer _

end Relay

end GuestNic
