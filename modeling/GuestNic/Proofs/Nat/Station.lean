import GuestNic.Proofs.Nat.Datagram
import Mathlib.Data.List.Induction

/-!
# The relay and whatever is sent to it

A relay at its pipe, whose far ends do what they like: datagrams of any content arrive, frames are
fetched or are left until there is no more room, the guest's side goes away, receiving begins to
fail. The stack keeps a journal of the calls that it gets (`NetStack.journaled`), and the books kept
here, `Intake` and `Output`, relate the journal to what arrived and to what was fetched.
-/

namespace GuestNic

open StackCall

/-! ## Histories -/

/-- What can happen at the relay and at the far ends of its pipe. -/
inductive RelayMove where
  /-- A datagram arrives from the guest. -/
  | arrive (datagram : Bytes)
  /-- The guest takes the oldest frame. -/
  | fetch
  /-- The guest's side of the pipe goes away. -/
  | leave
  /-- From now on every receive fails like this, or none does. -/
  | fail (fault : Option Host.Fault)
  /-- The relay takes in at most one datagram. -/
  | takeInput
  /-- The relay lets the stack act. -/
  | serve

def RelayMove.isServe : RelayMove → Bool
  | .serve => true
  | _ => false

/-- A relay at its pipe. -/
structure Station (σ : Type) where
  relay : Relay σ
  pipe : StackPipe

namespace Station

variable {σ : Type}

/-- A relay that has just been started, with room in its pipe for that many datagrams either way. -/
def fresh (stack : σ) (towardsStack towardsGuest : Nat) : Station σ where
  relay := { stack, inputOpen := true, buffer := .empty, counters := {} }
  pipe := {
    toStack := .ofCapacity towardsStack
    toGuest := .ofCapacity towardsGuest
    inputFault := none }

def ofPair (s : Relay σ × StackPipe) : Station σ := ⟨s.1, s.2⟩

variable (net : NetStack σ)

def move (s : Station σ) : RelayMove → Station σ
  | .arrive datagram => { s with pipe.toStack := (s.pipe.toStack.send datagram).1 }
  | .fetch => { s with pipe := (s.pipe.receive Frame.maxSize).1 }
  | .leave => { s with pipe := s.pipe.closeCard }
  | .fail fault => { s with pipe.inputFault := fault }
  | .takeInput => ofPair (s.relay.takeInput net s.pipe)
  | .serve => ofPair (s.relay.serve net s.pipe)

/-- The station after some moves. -/
def after : Station σ → List RelayMove → Station σ
  | s, [] => s
  | s, m :: ms => after (s.move net m) ms

/-- What `see` sees at each move, in order. -/
def log {α : Type} (see : Station σ → RelayMove → List α) : Station σ → List RelayMove → List α
  | _, [] => []
  | s, m :: ms => see s m ++ log see (s.move net m) ms

/-- The datagram that finds room in the pipe in one move. -/
def arrivedNow (s : Station σ) : RelayMove → List Bytes
  | .arrive datagram => if (s.pipe.toStack.send datagram).2.isOk then [datagram] else []
  | _ => []

/-- The frames that leave the pipe at the guest's end in one move: a fetch takes one, and all that
wait are lost when the guest's side goes away. -/
def leftNow (s : Station σ) : RelayMove → List Bytes
  | .fetch => s.pipe.toGuest.queue.take 1
  | .leave => s.pipe.toGuest.queue
  | _ => []

/-- The datagrams that arrived, in order. -/
def arrived (s : Station σ) (moves : List RelayMove) : List Bytes := log net arrivedNow s moves

/-- The frames that left towards the guest, in order. -/
def left (s : Station σ) (moves : List RelayMove) : List Bytes := log net leftNow s moves

@[simp] theorem after_nil (s : Station σ) : s.after net [] = s := rfl

theorem after_append (s : Station σ) (ms ns : List RelayMove) :
    s.after net (ms ++ ns) = (s.after net ms).after net ns := by
  induction ms generalizing s with
  | nil => rfl
  | cons m ms ih => exact ih _

theorem after_snoc (s : Station σ) (ms : List RelayMove) (m : RelayMove) :
    s.after net (ms ++ [m]) = (s.after net ms).move net m := after_append net s ms [m]

theorem log_snoc {α : Type} (see : Station σ → RelayMove → List α) (s : Station σ)
    (ms : List RelayMove) (m : RelayMove) :
    log net see s (ms ++ [m]) = log net see s ms ++ see (s.after net ms) m := by
  induction ms generalizing s with
  | nil => exact List.append_nil _
  | cons m' ms ih =>
    rw [List.cons_append, log, ih, log, after, List.append_assoc]

/-! ## What taking in can do -/

/-- Everything that the relay can do when it takes in a datagram. -/
inductive TakesInput (s : Station σ) : Station σ → Prop where
  /-- Nothing can be had, or the input is closed. -/
  | nothing : TakesInput s s
  | closed {fault : Host.Fault} (hfault : s.pipe.inputFault = some fault)
      (ht : fault.isTransient = false) : TakesInput s { s with relay.inputOpen := false }
  | corrupt {d : Bytes} {ds : List Bytes} (hq : s.pipe.toStack.queue = d :: ds)
      (hno : Record.frame? d = none) (buffer : FrameBuffer) :
      TakesInput s {
        relay := { s.relay with
          buffer
          counters.corruptRecords := s.relay.counters.corruptRecords + 1 }
        pipe := s.pipe.withoutRecord }
  | record {d f : Bytes} {ds : List Bytes} (hq : s.pipe.toStack.queue = d :: ds)
      (hf : Record.frame? d = some f) (buffer : FrameBuffer)
      {emitted : RelayCounters × StackPipe}
      (he : emitted = Relay.emitAll
        { s.relay.counters with framesIn := s.relay.counters.framesIn + 1 }
        s.pipe.withoutRecord (net.input f s.relay.stack).2) :
      TakesInput s {
        relay := { s.relay with
          stack := (net.input f s.relay.stack).1
          buffer
          counters := emitted.1 }
        pipe := emitted.2 }

theorem takesInput (s : Station σ) : TakesInput net s (s.move net .takeInput) := by
  obtain ⟨r, p⟩ := s
  show TakesInput net ⟨r, p⟩ (ofPair (r.takeInput net p))
  cases hopen : r.inputOpen with
  | false =>
    rw [Relay.takeInput_of_closed net hopen]
    exact .nothing
  | true =>
    cases hfault : p.inputFault with
    | some fault =>
      rw [Relay.takeInput_of_fault net hopen hfault]
      cases ht : fault.isTransient with
      | true =>
        rw [← hopen]
        exact .nothing
      | false => exact .closed hfault ht
    | none =>
      cases hq : p.toStack.queue with
      | nil =>
        rw [Relay.takeInput_of_nil net hopen hfault hq]
        exact .nothing
      | cons d ds =>
        rw [Relay.takeInput_of_cons net hopen hfault hq]
        -- What the receive buffer cuts off makes no difference to whether there is a frame.
        cases hf : Record.frame? d with
        | none =>
          have hcut : Record.frame? (d.take Record.maxSize) = none := by
            rw [Record.frame?_take]
            exact hf
          obtain ⟨buffer, haccept⟩ := Relay.accept_of_frame?_eq_none net r p.withoutRecord hcut
          rw [haccept]
          exact .corrupt hq hf buffer
        | some f =>
          have hcut : Record.frame? (d.take Record.maxSize) = some f := by
            rw [Record.frame?_take]
            exact hf
          obtain ⟨buffer, haccept⟩ := Relay.accept_of_frame? net r p.withoutRecord hcut
          rw [haccept]
          exact .record hq hf buffer rfl

/-! ## The books -/

section

variable {s s' : Station (σ × List StackCall)} {arrived left taken : List Bytes} {fates : List Fate}

/-- The calls that the stack got. -/
def calls (s : Station (σ × List StackCall)) : List StackCall := s.relay.stack.2

/-- What came in: the datagrams in `taken` were taken in, the frames of the records among them were
handed to the stack, and the others were counted. -/
structure Intake (s : Station (σ × List StackCall)) (arrived taken : List Bytes) : Prop where
  arrived : arrived = taken ++ s.pipe.toStack.queue
  handed : inputs s.calls = taken.filterMap Record.frame?
  framesIn : s.relay.counters.framesIn = (taken.filterMap Record.frame?).length
  corruptRecords : s.relay.counters.corruptRecords =
    taken.countP fun d => (Record.frame? d).isNone

/-- What went out: every frame that the stack emitted met one of two fates, and the relay counted
either; those that were queued have left the pipe or still wait in it. -/
structure Output (s : Station (σ × List StackCall)) (left : List Bytes) (fates : List Fate) :
    Prop where
  emitted : fates.map Fate.frame = emissions s.calls
  long : ∀ fate ∈ fates, Frame.maxSize < fate.frame.length → fate.isQueued = false
  framesOut : s.relay.counters.framesOut = (Fate.queued fates).length
  framesDropped : s.relay.counters.framesDropped = Fate.dropped fates
  delivered : Fate.queued fates = left ++ s.pipe.toGuest.queue

/-- Frames that are emitted meet their fates. -/
theorem Output.emits (h : Output s left fates) {counters : RelayCounters} {pipe : StackPipe}
    {frames : List Bytes}
    (he : Relay.Emits counters pipe (s'.relay.counters, s'.pipe)
      (Relay.fates pipe.toGuest.room frames))
    (hcalls : emissions s'.calls = emissions s.calls ++ frames)
    (hout : counters.framesOut = s.relay.counters.framesOut)
    (hdropped : counters.framesDropped = s.relay.counters.framesDropped)
    (hguest : pipe.toGuest = s.pipe.toGuest) :
    Output s' left (fates ++ Relay.fates pipe.toGuest.room frames) where
  emitted := by rw [List.map_append, h.emitted, Relay.fates_frames, hcalls]
  long := by
    intro fate hfate hlen
    rcases List.mem_append.1 hfate with hfate | hfate
    · exact h.long fate hfate hlen
    · exact Relay.isQueued_of_lt hfate hlen
  framesOut := by
    have hcounters : s'.relay.counters = _ := he.counters
    rw [hcounters, Fate.queued_append, List.length_append, ← h.framesOut, ← hout]
  framesDropped := by
    have hcounters : s'.relay.counters = _ := he.counters
    rw [hcounters, Fate.dropped_append, ← h.framesDropped, ← hdropped]
  delivered := by
    have hqueue : s'.pipe.toGuest.queue = _ := he.queue
    rw [hqueue, Fate.queued_append, h.delivered, hguest, List.append_assoc]

end

variable {s s' : Station (σ × List StackCall)} {arrived left taken : List Bytes} {fates : List Fate}

/-- Taking in keeps the books. -/
theorem takeInput_books (hin : Intake s arrived taken) (hout : Output s left fates)
    (h : TakesInput net.journaled s s') :
    ∃ taken' fates', Intake s' arrived taken' ∧ Output s' left fates' := by
  cases h with
  | nothing => exact ⟨taken, fates, hin, hout⟩
  | closed =>
    refine ⟨taken, fates, ⟨hin.arrived, hin.handed, hin.framesIn, hin.corruptRecords⟩, ?_⟩
    exact ⟨hout.emitted, hout.long, hout.framesOut, hout.framesDropped, hout.delivered⟩
  | @corrupt d ds hq hno buffer =>
    have hnone : [d].filterMap Record.frame? = [] := by simp [hno]
    refine ⟨taken ++ [d], fates, ⟨?_, ?_, ?_, ?_⟩, ?_⟩
    · simp [hin.arrived, hq, StackPipe.withoutRecord]
    · rw [List.filterMap_append, hnone, List.append_nil]
      exact hin.handed
    · rw [List.filterMap_append, hnone, List.append_nil]
      exact hin.framesIn
    · rw [List.countP_append, ← hin.corruptRecords]
      simp [hno]
    · exact ⟨hout.emitted, hout.long, hout.framesOut, hout.framesDropped, hout.delivered⟩
  | @record d f ds hq hf buffer emitted he =>
    have hsome : [d].filterMap Record.frame? = [f] := by simp [hf]
    have hemits := Relay.emitAll_emits
      { s.relay.counters with framesIn := s.relay.counters.framesIn + 1 } s.pipe.withoutRecord
      (net.journaled.input f s.relay.stack).2
    rw [← he] at hemits
    refine ⟨taken ++ [d], _, ⟨?_, ?_, ?_, ?_⟩, hout.emits hemits ?_ rfl rfl rfl⟩
    · rw [hemits.toStack]
      simp [hin.arrived, hq, StackPipe.withoutRecord]
    · rw [List.filterMap_append, hsome, ← hin.handed]
      exact inputs_snoc _ _
    · rw [List.filterMap_append, hsome, List.length_append, ← hin.framesIn, hemits.counters]
      rfl
    · rw [List.countP_append, ← hin.corruptRecords, hemits.counters]
      simp [hf]
    · exact emissions_snoc _ _

theorem serve_books (hin : Intake s arrived taken) (hout : Output s left fates) :
    ∃ fates', Intake (s.move net.journaled .serve) arrived taken ∧
      Output (s.move net.journaled .serve) left fates' := by
  have hemits := Relay.emitAll_emits s.relay.counters s.pipe (net.journaled.act s.relay.stack).2
  refine ⟨_, ⟨?_, ?_, ?_, ?_⟩, hout.emits hemits (emissions_snoc _ _) rfl rfl rfl⟩
  · rw [hin.arrived]
    exact congrArg (taken ++ ·.queue) hemits.toStack.symm
  · rw [← hin.handed]
    refine (inputs_snoc _ _).trans (List.append_nil _)
  · rw [← hin.framesIn]
    exact (congrArg RelayCounters.framesIn hemits.counters).trans rfl
  · rw [← hin.corruptRecords]
    exact (congrArg RelayCounters.corruptRecords hemits.counters).trans rfl

/-- What the far ends of the pipe do keeps the books, for they do it behind the relay's back. -/
theorem outside_books (hin : Intake s arrived taken) (hout : Output s left fates) (m : RelayMove)
    (hrelay : (s.move net.journaled m).relay = s.relay)
    (hstack : (s.move net.journaled m).pipe.toStack.queue =
      s.pipe.toStack.queue ++ s.arrivedNow m)
    (hguest : s.pipe.toGuest.queue =
      s.leftNow m ++ (s.move net.journaled m).pipe.toGuest.queue) :
    Intake (s.move net.journaled m) (arrived ++ s.arrivedNow m) taken ∧
      Output (s.move net.journaled m) (left ++ s.leftNow m) fates := by
  have hcalls : (s.move net.journaled m).calls = s.calls :=
    congrArg (fun r => r.stack.2) hrelay
  refine ⟨⟨?_, ?_, ?_, ?_⟩, ⟨?_, hout.long, ?_, ?_, ?_⟩⟩
  · rw [hstack, hin.arrived, List.append_assoc]
  · rw [hcalls]
    exact hin.handed
  · rw [hrelay]
    exact hin.framesIn
  · rw [hrelay]
    exact hin.corruptRecords
  · rw [hcalls]
    exact hout.emitted
  · rw [hrelay]
    exact hout.framesOut
  · rw [hrelay]
    exact hout.framesDropped
  · rw [hout.delivered, hguest, List.append_assoc]

/-- Every move keeps the books. -/
theorem move_books (hin : Intake s arrived taken) (hout : Output s left fates) (m : RelayMove) :
    ∃ taken' fates',
      Intake (s.move net.journaled m) (arrived ++ s.arrivedNow m) taken' ∧
        Output (s.move net.journaled m) (left ++ s.leftNow m) fates' := by
  cases m with
  | arrive d =>
    refine ⟨taken, fates, outside_books net hin hout (.arrive d) rfl ?_ rfl⟩
    exact Host.Channel.queue_send _ d
  | fetch =>
    refine ⟨taken, fates, outside_books net hin hout .fetch rfl (List.append_nil _).symm ?_⟩
    cases hq : s.pipe.toGuest.queue with
    | nil =>
      simp only [leftNow, hq, move, StackPipe.receive, Host.Channel.receive_nil hq]
      rfl
    | cons d ds =>
      simp only [leftNow, hq, move, StackPipe.receive, Host.Channel.receive_cons hq]
      rfl
  | leave =>
    refine ⟨taken, fates, outside_books net hin hout .leave rfl (List.append_nil _).symm ?_⟩
    exact (List.append_nil _).symm
  | fail fault =>
    exact ⟨taken, fates, outside_books net hin hout (.fail fault) rfl (List.append_nil _).symm rfl⟩
  | takeInput =>
    obtain ⟨taken', fates', hin', hout'⟩ :=
      takeInput_books net hin hout (takesInput net.journaled s)
    refine ⟨taken', fates', ?_, ?_⟩
    · exact (List.append_nil arrived).symm ▸ hin'
    · exact (List.append_nil left).symm ▸ hout'
  | serve =>
    obtain ⟨fates', hin', hout'⟩ := serve_books net hin hout
    refine ⟨taken, fates', ?_, ?_⟩
    · exact (List.append_nil arrived).symm ▸ hin'
    · exact (List.append_nil left).symm ▸ hout'

/-- After every history the books are right. -/
theorem after_books (stack : σ) (towardsStack towardsGuest : Nat) (moves : List RelayMove) :
    let start : Station (σ × List StackCall) := fresh (stack, []) towardsStack towardsGuest
    ∃ taken fates,
      Intake (start.after net.journaled moves) (start.arrived net.journaled moves) taken ∧
      Output (start.after net.journaled moves) (start.left net.journaled moves) fates := by
  intro start
  induction moves using List.reverseRecOn with
  | nil => exact ⟨[], [], ⟨rfl, rfl, rfl, rfl⟩, ⟨rfl, by simp, rfl, rfl, rfl⟩⟩
  | append_singleton ms m ih =>
    obtain ⟨taken, fates, hin, hout⟩ := ih
    rw [after_snoc, Station.arrived, log_snoc, Station.left, log_snoc]
    exact move_books net hin hout m

/-! ## The journal is not noticed -/

/-- The same station with the stack seen through `view`. -/
def mapStack {τ : Type} (view : σ → τ) (s : Station σ) : Station τ :=
  ⟨s.relay.mapStack view, s.pipe⟩

variable {net}

theorem move_mapStack {τ : Type} {other : NetStack τ} {view : σ → τ}
    (h : net.Simulates other view) (s : Station σ) (m : RelayMove) :
    (s.mapStack view).move other m = (s.move net m).mapStack view := by
  cases m with
  | arrive | fetch | leave | fail => rfl
  | takeInput => exact congrArg ofPair (Relay.takeInput_mapStack h s.relay s.pipe)
  | serve => exact congrArg ofPair (Relay.serve_mapStack h s.relay s.pipe)

theorem after_mapStack {τ : Type} {other : NetStack τ} {view : σ → τ}
    (h : net.Simulates other view) (s : Station σ) (moves : List RelayMove) :
    (s.mapStack view).after other moves = (s.after net moves).mapStack view := by
  induction moves generalizing s with
  | nil => rfl
  | cons m ms ih =>
    rw [after, move_mapStack h]
    exact ih _

variable (net)

/-! ## How often the stack acts -/

theorem move_completions (s : Station (σ × List StackCall)) (m : RelayMove) :
    completions (s.move net.journaled m).calls =
      completions s.calls + if m.isServe then 1 else 0 := by
  cases m with
  | arrive | fetch | leave | fail => rfl
  | takeInput =>
    have htakes := takesInput net.journaled s
    generalize s.move net.journaled .takeInput = s' at htakes ⊢
    cases htakes with
    | nothing | closed | corrupt => rfl
    | record => exact completions_snoc _ _
  | serve => exact completions_snoc _ _

/-- The stack is let act once for every time it is polled for, whatever else happens. -/
theorem after_completions (s : Station (σ × List StackCall)) (moves : List RelayMove) :
    completions (s.after net.journaled moves).calls =
      completions s.calls + moves.countP RelayMove.isServe := by
  induction moves generalizing s with
  | nil => rfl
  | cons m ms ih =>
    rw [after, ih, move_completions, List.countP_cons]
    omega

/-! ## A closed input -/

theorem move_of_closed {s : Station (σ × List StackCall)} (h : s.relay.inputOpen = false)
    (m : RelayMove) :
    (s.move net.journaled m).relay.inputOpen = false ∧
      inputs (s.move net.journaled m).calls = inputs s.calls := by
  cases m with
  | arrive | fetch | leave | fail => exact ⟨h, rfl⟩
  | takeInput =>
    rw [move, Relay.takeInput_of_closed net.journaled h]
    exact ⟨h, rfl⟩
  | serve => exact ⟨h, (inputs_snoc _ _).trans (List.append_nil _)⟩

/-- Once the input is closed nothing is handed to the stack any more. -/
theorem after_of_closed {s : Station (σ × List StackCall)} (h : s.relay.inputOpen = false)
    (moves : List RelayMove) : inputs (s.after net.journaled moves).calls = inputs s.calls := by
  induction moves generalizing s with
  | nil => rfl
  | cons m ms ih =>
    obtain ⟨hclosed, hinputs⟩ := move_of_closed net h m
    exact (ih hclosed).trans hinputs

/-- A receive that fails with more than a passing fault closes the input. -/
theorem closed_of_fault {s : Station σ} {fault : Host.Fault}
    (hfault : s.pipe.inputFault = some fault) (ht : fault.isTransient = false) :
    s.move net .takeInput = { s with relay.inputOpen := false } := by
  cases hopen : s.relay.inputOpen with
  | false =>
    rw [move, Relay.takeInput_of_closed net hopen, ← hopen]
    rfl
  | true =>
    rw [move, Relay.takeInput_of_fault net hopen hfault, ht]
    rfl

/-- Nothing but such a fault does. -/
theorem move_isOpen {s : Station σ} (hopen : s.relay.inputOpen = true)
    (hfault : ∀ fault, s.pipe.inputFault = some fault → fault.isTransient = true) {m : RelayMove}
    (hm : ∀ fault, m = .fail (some fault) → fault.isTransient = true) :
    (s.move net m).relay.inputOpen = true ∧
      ∀ fault, (s.move net m).pipe.inputFault = some fault → fault.isTransient = true := by
  cases m with
  | arrive | fetch | leave => exact ⟨hopen, hfault⟩
  | fail fault =>
    refine ⟨hopen, ?_⟩
    intro fault' heq
    exact hm fault' (congrArg RelayMove.fail heq)
  | takeInput =>
    have htakes := takesInput net s
    generalize s.move net .takeInput = s' at htakes ⊢
    cases htakes with
    | nothing | corrupt => exact ⟨hopen, hfault⟩
    | closed hf ht =>
      rw [hfault _ hf] at ht
      cases ht
    | record _ _ _ he =>
      refine ⟨hopen, ?_⟩
      intro fault heq
      rw [he, Relay.emitAll_inputFault] at heq
      exact hfault fault heq
  | serve =>
    refine ⟨hopen, ?_⟩
    intro fault heq
    have hsame := Relay.emitAll_inputFault s.pipe s.relay.counters (net.act s.relay.stack).2
    exact hfault fault (hsame.symm.trans heq)

theorem after_isOpen {s : Station σ} (hopen : s.relay.inputOpen = true)
    (hfault : ∀ fault, s.pipe.inputFault = some fault → fault.isTransient = true)
    {moves : List RelayMove}
    (hm : ∀ fault, .fail (some fault) ∈ moves → fault.isTransient = true) :
    (s.after net moves).relay.inputOpen = true := by
  induction moves generalizing s with
  | nil => exact hopen
  | cons m ms ih =>
    have hfirst : ∀ fault, m = .fail (some fault) → fault.isTransient = true := by
      rintro fault rfl
      exact hm fault List.mem_cons_self
    obtain ⟨hopen', hfault'⟩ := move_isOpen net hopen hfault hfirst
    exact ih hopen' hfault' fun fault hmem => hm fault (List.mem_cons_of_mem _ hmem)

/-! ## A corrupt datagram -/

/-- The station with a relay that has counted one corrupt datagram more. -/
def corrupted (s : Station σ) (buffer : FrameBuffer) : Station σ :=
  ⟨s.relay.corrupted buffer, s.pipe⟩

theorem move_corrupted (s : Station σ) (buffer : FrameBuffer) (m : RelayMove) :
    ∃ buffer', (s.corrupted buffer).move net m = (s.move net m).corrupted buffer' := by
  cases m with
  | arrive | fetch | leave | fail => exact ⟨buffer, rfl⟩
  | takeInput =>
    obtain ⟨buffer', htake⟩ := s.relay.takeInput_corrupted net s.pipe buffer
    exact ⟨buffer', congrArg ofPair htake⟩
  | serve => exact ⟨buffer, congrArg ofPair (s.relay.serve_corrupted net s.pipe buffer)⟩

/-- Whatever happens from there on, that count is all that the stations differ in. -/
theorem after_corrupted (s : Station σ) (buffer : FrameBuffer) (moves : List RelayMove) :
    ∃ buffer', (s.corrupted buffer).after net moves = (s.after net moves).corrupted buffer' := by
  induction moves generalizing s buffer with
  | nil => exact ⟨buffer, rfl⟩
  | cons m ms ih =>
    obtain ⟨buffer', hmove⟩ := move_corrupted net s buffer m
    rw [after, hmove]
    exact ih _ _

/-- Taking in what is no record leaves the station as if it had never come, but for the count. -/
theorem takeInput_of_corrupt {s : Station σ} (hopen : s.relay.inputOpen = true)
    (hfault : s.pipe.inputFault = none) {d : Bytes} {ds : List Bytes}
    (hq : s.pipe.toStack.queue = d :: ds) (hno : Record.frame? d = none) :
    ∃ buffer, s.move net .takeInput =
      corrupted { s with pipe.toStack.queue := ds } buffer := by
  have hcut : Record.frame? (d.take Record.maxSize) = none := by
    rw [Record.frame?_take]
    exact hno
  obtain ⟨buffer, haccept⟩ := Relay.accept_of_frame?_eq_none net s.relay s.pipe.withoutRecord hcut
  refine ⟨buffer, ?_⟩
  rw [move, Relay.takeInput_of_cons net hopen hfault hq, haccept, StackPipe.withoutRecord, hq]
  rfl

/-- A relay whose input is open takes in the oldest datagram, whatever it is. -/
theorem takeInput_queue {s : Station σ} (hopen : s.relay.inputOpen = true)
    (hfault : s.pipe.inputFault = none) :
    (s.move net .takeInput).pipe.toStack.queue = s.pipe.toStack.queue.tail := by
  cases hq : s.pipe.toStack.queue with
  | nil =>
    rw [move, Relay.takeInput_of_nil net hopen hfault hq]
    exact hq
  | cons d ds =>
    have hrest : s.pipe.withoutRecord.toStack.queue = ds := by
      rw [StackPipe.withoutRecord, hq, List.tail_cons]
    rw [move, Relay.takeInput_of_cons net hopen hfault hq]
    exact (congrArg Host.Channel.queue (Relay.accept_toStack net s.relay _ _)).trans hrest

/-! ## The contract of the relay -/

/-- The contract of the relay, for every stack and after every history, in which datagrams of any
content arrive and the far ends of the pipe do what they like. The journal is not noticed by the
stack. The frames handed to the stack are those of the records among the datagrams taken in, each
once and in the order of arrival, and every other datagram is counted as corrupt. Every frame that
the stack emitted was either queued for the guest or dropped, and is counted as the one or the other;
one that is too long is dropped; those that were queued left the pipe, or wait in it, unchanged and
in the order in which they were emitted. A corrupt datagram is never noticed again, but for the
count. The stack is let act every time; after a receive that failed for good it is not handed
anything any more, and short of that each turn takes in the oldest datagram. -/
theorem datagrams_judged (net : NetStack σ) (stack : σ) (towardsStack towardsGuest : Nat)
    (past : List RelayMove) :
    let start : Station (σ × List StackCall) := fresh (stack, []) towardsStack towardsGuest
    let s := start.after net.journaled past
    s.mapStack Prod.fst = (fresh stack towardsStack towardsGuest).after net past ∧
    (∃ taken, start.arrived net.journaled past = taken ++ s.pipe.toStack.queue ∧
      inputs s.calls = taken.filterMap Record.frame? ∧
      s.relay.counters.framesIn = (taken.filterMap Record.frame?).length ∧
      s.relay.counters.corruptRecords = taken.countP fun d => (Record.frame? d).isNone) ∧
    (∃ fates : List Fate, fates.map Fate.frame = emissions s.calls ∧
      (∀ fate ∈ fates, 1516 < fate.frame.length → fate.isQueued = false) ∧
      s.relay.counters.framesOut = (Fate.queued fates).length ∧
      s.relay.counters.framesDropped = Fate.dropped fates ∧
      Fate.queued fates = start.left net.journaled past ++ s.pipe.toGuest.queue) ∧
    (∀ d ds, s.relay.inputOpen = true → s.pipe.inputFault = none →
      s.pipe.toStack.queue = d :: ds → Record.frame? d = none →
      ∀ future, ∃ buffer,
        (s.move net.journaled .takeInput).after net.journaled future =
          (Station.after net.journaled { s with pipe.toStack.queue := ds } future).corrupted
            buffer) ∧
    completions s.calls = past.countP RelayMove.isServe ∧
    (∀ fault, s.pipe.inputFault = some fault → fault.isTransient = false → ∀ future,
      inputs ((s.move net.journaled .takeInput).after net.journaled future).calls =
          inputs s.calls ∧
        completions ((s.move net.journaled .takeInput).after net.journaled future).calls =
          completions s.calls + future.countP RelayMove.isServe) ∧
    ((∀ fault, .fail (some fault) ∈ past → fault.isTransient = true) →
      s.relay.inputOpen = true ∧ (s.pipe.inputFault = none →
        (s.move net.journaled .takeInput).pipe.toStack.queue = s.pipe.toStack.queue.tail)) := by
  intro start s
  obtain ⟨taken, fates, hin, hout⟩ := after_books net stack towardsStack towardsGuest past
  have hcompletions := after_completions net start past
  refine ⟨?_, ⟨taken, hin.arrived, hin.handed, hin.framesIn, hin.corruptRecords⟩,
    ⟨fates, hout.emitted, hout.long, hout.framesOut, hout.framesDropped, hout.delivered⟩,
    ?_, ?_, ?_, ?_⟩
  · exact (after_mapStack net.journaled_simulates start past).symm
  · intro d ds hopen hfault hq hno future
    obtain ⟨buffer, htake⟩ := takeInput_of_corrupt net.journaled hopen hfault hq hno
    rw [htake]
    exact after_corrupted net.journaled _ buffer future
  · exact hcompletions.trans (Nat.zero_add _)
  · intro fault hfault ht future
    rw [closed_of_fault net.journaled hfault ht]
    constructor
    · exact after_of_closed net rfl future
    · exact after_completions net _ future
  · intro hpassing
    refine ⟨after_isOpen net.journaled rfl (fun fault hf => by cases hf) hpassing, ?_⟩
    exact takeInput_queue net.journaled (after_isOpen net.journaled rfl
      (fun fault hf => by cases hf) hpassing)

end Station
end GuestNic
