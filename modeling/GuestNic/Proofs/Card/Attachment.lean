import GuestNic.Nat.Echo
import GuestNic.Proofs.Card.Handlers
import GuestNic.Proofs.Card.Life
import GuestNic.Proofs.Card.Quiescence

/-!
# Which frames an attached handler is given

A handler is attached under the type that the driver names, and looked up under the key of a frame's
type field. The two are the same only for type 0 and for types that are no lengths; a handler under
any other type is never found, and frames with such a type field are given to the handler under
type 0.
-/

namespace GuestNic

namespace Frame

/-- The types that are looked up at all. -/
theorem handlerKey_eq_self_iff (t : UInt16) : handlerKey t = t ↔ t = 0 ∨ maxLengthField < t := by
  unfold handlerKey
  split
  · rename_i hle
    constructor
    · intro hzero
      exact .inl hzero.symm
    · rintro (hzero | hlt)
      · exact hzero.symm
      · exact absurd hle (UInt16.not_le.2 hlt)
  · rename_i hnle
    exact iff_of_true rfl (.inr (UInt16.not_le.1 hnle))

/-- A type that is not its own key is nobody's key. -/
theorem handlerKey_ne_of_ne {t : UInt16} (h : handlerKey t ≠ t) (u : UInt16) :
    handlerKey u ≠ t := by
  rintro rfl
  exact h (handlerKey_idem u)

end Frame

/-- The turn takes the handler of the key away, if there is one. -/
def Turn.detaches (key : UInt16) : Turn → Bool
  | .move (.call call) => call.detaches key
  | _ => false

namespace Card

variable {σ : Type} {c c' : Card σ}

/-! ## A frame that is read -/

/-- The frame of a device that the next round of reception reads, after the link that it leaves. -/
def nextFrame? (c : Card σ) : Option (Link × FrameBuffer) :=
  if c.isResting then none
  else
    match c.link.wait with
    | (link, .ok true) =>
      match link.read c.buffer with
      | (link, frame, .ok (some .device)) => some (link, frame)
      | _ => none
    | _ => none

/-- The card after it has rung for a frame that was read. -/
def rung (c : Card σ) (link : Link) (d : Delivery) : Card σ :=
  { c with
    link
    buffer := .empty
    doorbell := { c.doorbell with isPending := true, delivery := some d }
    counters.interruptsRaised := c.counters.interruptsRaised + 1 }

/-- The card after a frame was read for which there is no handler. -/
def unserved (c : Card σ) (link : Link) : Card σ :=
  { c with
    link
    buffer := .empty
    counters.rxDropped := c.counters.rxDropped + 1 }

variable {link : Link} {frame : FrameBuffer} {type : UInt16}

theorem receive_of_nextFrame (h : c.nextFrame? = some (link, frame)) :
    c.isResting = false ∧ c.receive = { c with link, buffer := frame }.deliver .device := by
  unfold nextFrame? at h
  split at h
  · cases h
  · rename_i hr
    have hr : c.isResting = false := by simpa using hr
    refine ⟨hr, ?_⟩
    split at h
    · rename_i waited hw
      split at h
      · rename_i hread
        cases h
        rw [receive_of_readable hr hw, readFrame, hread]
      · cases h
    · cases h

theorem length_of_typeField? (h : frame.typeField? = some type) :
    Frame.headerSize ≤ frame.contents.length :=
  Frame.typeField?_isSome.1 (Option.isSome_of_eq_some h)

/-- A frame whose key is served is rung for. -/
theorem receive_of_active (hc : c.doorbell.isClosed = !c.isOpen)
    (h : c.nextFrame? = some (link, frame)) (ht : frame.typeField? = some type)
    {routine : Routine} (ha : c.handlers.active? (Frame.handlerKey type) = some routine) :
    c.receive =
      (c.rung link (.handler routine type (frame.contents.take Frame.headerSize) frame),
        [.interrupt]) := by
  obtain ⟨hr, hreceive⟩ := receive_of_nextFrame h
  have hinvocation : c.handlers.invocation? frame.contents = some ⟨routine, type, frame.contents⟩ :=
    (invocation?_eq_map c ht).trans (by rw [show c.handlerFor? type = some routine from ha]; rfl)
  have hprepare := (prepare_device_some (c := { c with link, buffer := frame }) hinvocation).1
  have hopen : c.doorbell.isClosed = false := by
    have hflags : (c.isOpen = true ∧ c.isReceiving = true) ∧ c.doorbell.isPending = false := by
      simpa [isResting] using hr
    rw [hc, hflags.1.1]
    rfl
  rw [hreceive, deliver, hprepare]
  simp only [publish, Doorbell.ring_of_not_isClosed hopen]
  rfl

/-- A frame whose key is not served is dropped. -/
theorem receive_of_not_active (h : c.nextFrame? = some (link, frame))
    (ht : frame.typeField? = some type)
    (ha : c.handlers.active? (Frame.handlerKey type) = none) :
    c.receive = (c.unserved link, []) := by
  obtain ⟨-, hreceive⟩ := receive_of_nextFrame h
  have hinvocation : c.handlers.invocation? frame.contents = none :=
    (invocation?_eq_map c ht).trans (by rw [show c.handlerFor? type = none from ha]; rfl)
  have hprepare := prepare_device_none (c := { c with link, buffer := frame })
    (length_of_typeField? ht) hinvocation
  rw [hreceive, deliver, hprepare]
  rfl

/-! ## Attached handlers stay -/

theorem Receipt.handlers {events : List CardEvent} (h : c.Receipt c' events) :
    c'.handlers = c.handlers := by
  cases h <;> rfl

/-- Only calls touch the handlers. -/
theorem turn_handlers (net : NetStack σ) (hc : c.doorbell.isClosed = !c.isOpen) (t : Turn)
    (ht : ∀ call, t ≠ .move (.call call)) : (c.turn net t).1.handlers = c.handlers := by
  cases t with
  | submit answer o => exact (submit_submits answer c o).spares.1.handlers
  | host act => rfl
  | shutdown =>
    simp only [turn, shutdown]
    split <;> rfl
  | move m =>
    cases m with
    | call call => exact absurd rfl (ht call)
    | service =>
      simp only [turn, move, service]
      split <;> rfl
    | relay =>
      simp only [turn, move, relayRound, onRelay]
      split
      · split <;> rfl
      · rfl
    | receive =>
      exact (receive_receipt hc).handlers

theorem turn_find? (net : NetStack σ) (hc : c.doorbell.isClosed = !c.isOpen) {t : Turn}
    {key : UInt16} (ht : t.detaches key = false) {routine : Routine}
    (hfound : c.handlers.find? key = some routine) :
    (c.turn net t).1.handlers.find? key = some routine := by
  by_cases hcall : ∃ call, t = .move (.call call)
  · obtain ⟨call, rfl⟩ := hcall
    exact perform_find?_of_not_detaches ht hfound
  · rw [turn_handlers net hc t fun call heq => hcall ⟨call, heq⟩]
    exact hfound

end Card

theorem Life.IsSound.after_find? {σ : Type} (net : NetStack σ) (later : List Turn) {l : Life σ}
    (hl : l.IsSound) {key : UInt16} (hkept : ∀ t ∈ later, t.detaches key = false)
    {routine : Routine} (hfound : l.card.handlers.find? key = some routine) :
    (l.after net later).card.handlers.find? key = some routine := by
  induction later generalizing l with
  | nil => exact hfound
  | cons t later ih =>
    have hnow := Card.turn_find? net hl (hkept t (List.mem_cons_self ..)) hfound
    exact ih (hl.after net [t]) (fun t' ht' => hkept t' (List.mem_cons_of_mem t ht')) hnow

namespace Card

variable {σ : Type}

theorem find?_of_attached {c : Card σ} {type : UInt16} {routine : Routine}
    (h : (c.attach type routine).2 = .ok ()) :
    (c.attach type routine).1.handlers.find? type = some routine := by
  unfold attach at h ⊢
  split at h
  · rename_i handlers hattach
    exact ((HandlerTable.find?_attach hattach type).2).trans (if_pos rfl)
  · cases h

/-- A handler that was attached and not taken away since is given every frame whose key is the
type under which it was attached. These are the frames of just this type if the type is 0 or no
length; under any other type it is given nothing, and whether a frame of that type is delivered or
dropped depends on type 0. -/
theorem attached_served (net : NetStack σ) (port : Port) (relay : Option (Relay σ))
    (layout : ReceiveLayout) (past later : List Turn) (type : UInt16) (routine : Routine)
    (hattached :
      (((Life.fresh port relay layout).after net past).card.attach type routine).2 = .ok ())
    (hroutine : routine.isNull = false) (hkept : ∀ t ∈ later, t.detaches type = false) :
    let c := ((((Life.fresh port relay layout).after net past).turn net
      (.move (.call (.attach type routine)))).after net later).card
    c.handlers.active? type = some routine ∧
      (∀ link frame u, c.nextFrame? = some (link, frame) → frame.typeField? = some u →
        c.receive =
          match c.handlers.active? (Frame.handlerKey u) with
          | some served =>
            (c.rung link (.handler served u (frame.contents.take Frame.headerSize) frame),
              [.interrupt])
          | none => (c.unserved link, [])) ∧
      (type = 0 ∨ Frame.maxLengthField < type →
        ∀ link frame, c.nextFrame? = some (link, frame) → frame.typeField? = some type →
          c.receive =
            (c.rung link (.handler routine type (frame.contents.take Frame.headerSize) frame),
              [.interrupt])) ∧
      (¬ (type = 0 ∨ Frame.maxLengthField < type) →
        Frame.handlerKey type = 0 ∧ ∀ u, Frame.handlerKey u ≠ type) := by
  intro c
  have hsound : ((Life.fresh port relay layout).after net past).IsSound :=
    (Life.isSound_fresh port relay layout).after net past
  have hnext := hsound.after net [.move (.call (.attach type routine))]
  have hfound : c.handlers.find? type = some routine :=
    hnext.after_find? net later hkept (find?_of_attached hattached)
  have hactive : c.handlers.active? type = some routine :=
    HandlerTable.active?_eq_some_iff.2 ⟨hfound, hroutine⟩
  have hc : c.doorbell.isClosed = !c.isOpen := hnext.after net later
  refine ⟨hactive, ?_, ?_, ?_⟩
  · intro link frame u hframe hu
    cases ha : c.handlers.active? (Frame.handlerKey u) with
    | some served => exact receive_of_active hc hframe hu ha
    | none => exact receive_of_not_active hframe hu ha
  · intro htype link frame hframe hu
    -- Such a type is its own key, so the lookup finds what was attached.
    have hkey := (Frame.handlerKey_eq_self_iff type).2 htype
    exact receive_of_active hc hframe hu (by rw [hkey, hactive])
  · intro htype
    have hne : Frame.handlerKey type ≠ type := fun hkey =>
      htype ((Frame.handlerKey_eq_self_iff type).1 hkey)
    refine ⟨?_, Frame.handlerKey_ne_of_ne hne⟩
    have hle : type ≤ Frame.maxLengthField := UInt16.not_lt.1 fun hlt => htype (.inr hlt)
    exact if_pos hle

/-- A frame of a protocol whose handler is attached raises the interrupt. -/
theorem attached_served_protocol :
    let net := EchoStack.net
    let fresh : Life EchoStack :=
      .fresh (.raw .sheepNet (.socket (.ofCapacity 1) (.ofCapacity 1))) none ⟨0, 0, 0⟩
    let frame : Bytes := List.replicate 12 0 ++ [8, 0]
    let c := ((fresh.turn net (.move (.call (.attach 0x800 ⟨0x4000⟩)))).after net
      [.move (.call (.arrive (.v4 ⟨0, 0, 0, 0⟩ 0) frame))]).card
    ∃ link read, c.nextFrame? = some (link, read) ∧ read.contents = frame ∧
      c.receive = (c.rung link (.handler ⟨0x4000⟩ 0x800 frame read), [.interrupt]) := by
  intro net fresh frame c
  have hserved := attached_served net (.raw .sheepNet (.socket (.ofCapacity 1) (.ofCapacity 1)))
    none ⟨0, 0, 0⟩ [] [.move (.call (.arrive (.v4 ⟨0, 0, 0, 0⟩ 0) frame))] 0x800 ⟨0x4000⟩ rfl
    (by decide) (by simp [Turn.detaches, Call.detaches])
  have hread : (c.nextFrame?.map fun next => (next.2.contents, next.2.typeField?)) =
      some (frame, some 0x800) := by decide +kernel
  obtain ⟨⟨link, read⟩, hnext, heq⟩ := Option.map_eq_some_iff.1 hread
  obtain ⟨hcontents, htype⟩ := Prod.mk.inj heq
  refine ⟨link, read, hnext, hcontents, ?_⟩
  have hreceive := hserved.2.2.1 (.inr (by decide)) link read hnext htype
  rwa [hcontents, List.take_of_length_le (by decide)] at hreceive

/-- A handler is attached under a type that is a length, and a frame with just this type field is
dropped. -/
theorem attached_length_dropped :
    let fresh : Card EchoStack := onQueues .sheepNet 1 1 ⟨0, 0, 0⟩
    let frame : Bytes := List.replicate 12 0 ++ [0, 5]
    let attached := fresh.attach 5 ⟨0x4000⟩
    let c := (attached.1.arrive (.v4 ⟨0, 0, 0, 0⟩ 0) frame).1
    attached.2 = .ok () ∧ (c.nextFrame?.bind fun next => next.2.typeField?) = some 5 ∧
      c.receive.2 = [] ∧ c.receive.1.counters.rxDropped = 1 ∧
      c.receive.1.doorbell.isPending = false := by
  decide +kernel

end Card
end GuestNic
