import GuestNic.Proofs.Nat.Fate

/-!
# What the relay does to its pipe

Towards the guest a relay only ever queues frames behind the others, or drops them. A stack that
watches nothing and emits nothing of its own accord is silent in between.
-/

namespace GuestNic

/-- Only frames have joined the queue towards the guest, and both its ends are in place. -/
structure StackPipe.Grows (p q : StackPipe) : Prop where
  live : q.toGuest.IsLive
  queue : p.toGuest.queue <+: q.toGuest.queue

theorem StackPipe.Grows.trans {p q r : StackPipe} (h : p.Grows q) (h' : q.Grows r) : p.Grows r :=
  ⟨h'.live, h.queue.trans h'.queue⟩

/-! ## Taking records -/

namespace StackPipe

variable {p : StackPipe}

/-- A pipe from which the stack has taken the oldest record. -/
def withoutRecord (p : StackPipe) : StackPipe :=
  { p with toStack := { p.toStack with queue := p.toStack.queue.tail } }

theorem takeRecord_fault {fault : Host.Fault} (h : p.inputFault = some fault) :
    p.takeRecord = (p, .error fault) := by
  simp only [takeRecord, h]

theorem takeRecord_nil (hfault : p.inputFault = none) (hqueue : p.toStack.queue = []) :
    p.takeRecord = (p, .error (.os .wouldBlock)) := by
  unfold takeRecord
  split
  · rename_i hf
    rw [hfault] at hf
    cases hf
  · rw [Host.Channel.receive_nil hqueue]

theorem takeRecord_cons (hfault : p.inputFault = none) {d : Bytes} {ds : List Bytes}
    (hqueue : p.toStack.queue = d :: ds) :
    p.takeRecord = (p.withoutRecord, .ok (d.take Record.maxSize)) := by
  unfold takeRecord
  split
  · rename_i hf
    rw [hfault] at hf
    cases hf
  · rw [Host.Channel.receive_cons hqueue, withoutRecord, hqueue, List.tail_cons]

end StackPipe

namespace Relay

variable {σ : Type} (net : NetStack σ) {p : StackPipe}

theorem takeInput_of_closed {r : Relay σ} (h : r.inputOpen = false) (p : StackPipe) :
    takeInput net r p = (r, p) := by
  simp only [takeInput, h, Bool.not_false, ↓reduceIte]

/-- A fault is seen without a change of the pipe, and one that is more than passing is final. -/
theorem takeInput_of_fault {r : Relay σ} (h : r.inputOpen = true) {fault : Host.Fault}
    (hfault : p.inputFault = some fault) :
    takeInput net r p = ({ r with inputOpen := fault.isTransient }, p) := by
  simp only [takeInput, h, StackPipe.takeRecord_fault hfault, Bool.not_true, Bool.false_eq_true,
    ↓reduceIte]
  cases fault.isTransient with
  | true =>
    rw [if_pos rfl, ← h]
  | false => rfl

theorem takeInput_of_nil {r : Relay σ} (h : r.inputOpen = true) (hfault : p.inputFault = none)
    (hqueue : p.toStack.queue = []) : takeInput net r p = (r, p) := by
  have htransient : (Host.Fault.os .wouldBlock).isTransient = true := rfl
  simp only [takeInput, h, StackPipe.takeRecord_nil hfault hqueue, Bool.not_true,
    Bool.false_eq_true, htransient, ↓reduceIte]

theorem takeInput_of_cons {r : Relay σ} (h : r.inputOpen = true) (hfault : p.inputFault = none)
    {d : Bytes} {ds : List Bytes} (hqueue : p.toStack.queue = d :: ds) :
    takeInput net r p = accept net r p.withoutRecord (d.take Record.maxSize) := by
  simp only [takeInput, h, StackPipe.takeRecord_cons hfault hqueue, Bool.not_true,
    Bool.false_eq_true, ↓reduceIte]

/-! ## Emitting -/

/-- A frame of the stack that fits and finds room is queued for the guest and counted. -/
theorem emit_of_not_isFull (h : p.toGuest.IsLive) (hf : p.toGuest.isFull = false) {frame : Bytes}
    (hlen : frame.length ≤ Frame.maxSize) (counters : RelayCounters) :
    emit counters p frame =
      ({ counters with framesOut := counters.framesOut + 1 },
        { p with toGuest := { p.toGuest with queue := p.toGuest.queue ++ [frame] } }) := by
  simp only [emit, if_neg (Nat.not_lt.2 hlen), StackPipe.deliver,
    Host.Channel.send_of_not_isFull h hf]

/-- A frame of the stack that finds no room is dropped and counted. -/
theorem emit_of_isFull (h : p.toGuest.IsLive) (hf : p.toGuest.isFull = true) (frame : Bytes)
    (counters : RelayCounters) :
    emit counters p frame = ({ counters with framesDropped := counters.framesDropped + 1 }, p) := by
  simp only [emit, StackPipe.deliver, Host.Channel.send_of_isFull h hf, ite_self]

/-- What becomes of a frame that fits: it joins the queue towards the guest, or that queue is full
and the frame is dropped and counted. -/
structure Emission (before after : RelayCounters × StackPipe) (frame : Bytes) : Prop where
  toStack : after.2.toStack = before.2.toStack
  inputFault : after.2.inputFault = before.2.inputFault
  queue : after.2.toGuest.queue =
    before.2.toGuest.queue ++ if before.2.toGuest.isFull then [] else [frame]
  dropped : after.1.framesDropped =
    before.1.framesDropped + if before.2.toGuest.isFull then 1 else 0

theorem emit_emission (h : p.toGuest.IsLive) {frame : Bytes} (hlen : frame.length ≤ Frame.maxSize)
    (counters : RelayCounters) : Emission (counters, p) (emit counters p frame) frame := by
  cases hf : p.toGuest.isFull with
  | true =>
    rw [emit_of_isFull h hf]
    refine ⟨rfl, rfl, ?_, ?_⟩
    · simp [hf]
    · simp [hf]
  | false =>
    rw [emit_of_not_isFull h hf hlen]
    refine ⟨rfl, rfl, ?_, ?_⟩
    · simp [hf]
    · simp [hf]

theorem emitAll_grows (h : p.toGuest.IsLive) (counters : RelayCounters) (frames : List Bytes) :
    p.Grows (emitAll counters p frames).2 := by
  have hemits := emitAll_emits counters p frames
  refine ⟨hemits.isLive h, ?_⟩
  rw [hemits.pipe_eq h]
  exact List.prefix_append _ _

/-! ## Rounds -/

theorem accept_grows (h : p.toGuest.IsLive) (r : Relay σ) (datagram : Bytes) :
    p.Grows (accept net r p datagram).2 := by
  unfold accept
  split
  · exact emitAll_grows h _ _
  · exact ⟨h, List.prefix_rfl⟩

/-- Taking a record does not touch the channel towards the guest. -/
theorem takeRecord_grows (h : p.toGuest.IsLive) : p.Grows p.takeRecord.1 := by
  unfold StackPipe.takeRecord
  split
  · exact ⟨h, List.prefix_rfl⟩
  · exact ⟨h, List.prefix_rfl⟩

theorem takeInput_grows (h : p.toGuest.IsLive) (r : Relay σ) : p.Grows (takeInput net r p).2 := by
  have htake := takeRecord_grows h
  unfold takeInput
  split
  · exact ⟨h, List.prefix_rfl⟩
  · split
    · rename_i taken datagram heq
      rw [heq] at htake
      exact htake.trans (accept_grows net htake.live r datagram)
    · rename_i taken fault heq
      rw [heq] at htake
      split <;> exact htake

theorem serve_grows (h : p.toGuest.IsLive) (r : Relay σ) : p.Grows (serve net r p).2 :=
  emitAll_grows h _ _

/-- A round of the relay only adds to what waits for the guest. -/
theorem round_grows (h : p.toGuest.IsLive) (r : Relay σ) : p.Grows (round net r p).2 := by
  have hinput := takeInput_grows net h r
  exact hinput.trans (serve_grows net hinput.live _)

end Relay
end GuestNic
