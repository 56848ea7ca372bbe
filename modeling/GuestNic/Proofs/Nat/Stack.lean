import GuestNic.Nat.Relay

/-!
# Stacks seen through a map of their states

The relay calls a stack in two ways only: it hands over a frame, and it lets the stack act on what
it watches. A map from the states of one stack to those of another that respects both carries over
to everything the relay does (`Relay.takeInput_mapStack`, `Relay.serve_mapStack`). Such maps are used
to forget a journal of the calls, and to forget what a stack does only for itself.
-/

namespace GuestNic

variable {σ τ : Type}

namespace NetStack

/-! ## Acting -/

/-- What a stack does when the relay polls for it. -/
def act (net : NetStack σ) (s : σ) : σ × List Bytes :=
  let (stack, set, _) := net.watch .empty s
  net.complete (set.poll (net.sense stack)) stack

/-- Left to itself the stack does nothing. -/
def IsQuiet (net : NetStack σ) : Prop := ∀ s, net.act s = (s, [])

/-- Seen through `view`, one stack behaves like another. -/
structure Simulates (net : NetStack σ) (other : NetStack τ) (view : σ → τ) : Prop where
  input : ∀ frame s,
    other.input frame (view s) = (view (net.input frame s).1, (net.input frame s).2)
  act : ∀ s, other.act (view s) = (view (net.act s).1, (net.act s).2)

theorem Simulates.refl (net : NetStack σ) : net.Simulates net id := ⟨fun _ _ => rfl, fun _ => rfl⟩

/-! ## Answering -/

/-- What a stack emits for each of the frames that are handed to it one after the other. -/
def answers (net : NetStack σ) (s : σ) : List Bytes → List (List Bytes)
  | [] => []
  | frame :: frames =>
    let (s, emitted) := net.input frame s
    emitted :: net.answers s frames

/-- The stack that knows of itself only what it is going to answer. -/
def answering : NetStack (List Bytes → List (List Bytes)) where
  start s := .ok s
  addRule _ s := (s, .ok ())
  input frame s := (fun frames => (s (frame :: frames)).tail, (s [frame]).headD [])
  watch set s := (s, set, 0)
  sense _ _ := .none
  complete _ s := (s, [])

theorem answering_isQuiet : answering.IsQuiet := fun _ => rfl

/-- A stack that emits nothing when it acts, and answers no differently afterwards, is quiet as far
as anybody can see. -/
theorem answers_simulates {net : NetStack σ} (hnone : ∀ s, (net.act s).2 = [])
    (hsame : ∀ s, net.answers (net.act s).1 = net.answers s) :
    net.Simulates answering net.answers where
  input _ _ := rfl
  act s := by
    rw [hnone, hsame]
    exact answering_isQuiet _

end NetStack

/-! ## The relay -/

namespace Relay

/-- The same relay with its stack seen through `view`. -/
def mapStack (view : σ → τ) (r : Relay σ) : Relay τ where
  stack := view r.stack
  inputOpen := r.inputOpen
  buffer := r.buffer
  counters := r.counters

@[simp] theorem mapStack_stack (view : σ → τ) (r : Relay σ) :
    (r.mapStack view).stack = view r.stack := rfl

@[simp] theorem mapStack_inputOpen (view : σ → τ) (r : Relay σ) :
    (r.mapStack view).inputOpen = r.inputOpen := rfl

@[simp] theorem mapStack_buffer (view : σ → τ) (r : Relay σ) :
    (r.mapStack view).buffer = r.buffer := rfl

@[simp] theorem mapStack_counters (view : σ → τ) (r : Relay σ) :
    (r.mapStack view).counters = r.counters := rfl

theorem serve_eq (net : NetStack σ) (r : Relay σ) (p : StackPipe) :
    serve net r p =
      ({ r with
          stack := (net.act r.stack).1
          counters := (emitAll r.counters p (net.act r.stack).2).1 },
        (emitAll r.counters p (net.act r.stack).2).2) := rfl

variable {net : NetStack σ} {other : NetStack τ} {view : σ → τ}

theorem accept_mapStack (h : net.Simulates other view) (r : Relay σ) (p : StackPipe) (d : Bytes) :
    accept other (r.mapStack view) p d =
      ((accept net r p d).1.mapStack view, (accept net r p d).2) := by
  rcases hdecode : Record.decode d r.buffer with ⟨buffer, _ | _⟩
  · simp only [accept, mapStack_buffer, hdecode]
    rfl
  · simp only [accept, mapStack_buffer, mapStack_stack, hdecode, h.input]
    rfl

theorem takeInput_mapStack (h : net.Simulates other view) (r : Relay σ) (p : StackPipe) :
    takeInput other (r.mapStack view) p =
      ((takeInput net r p).1.mapStack view, (takeInput net r p).2) := by
  cases hopen : r.inputOpen with
  | false => simp only [takeInput, mapStack_inputOpen, hopen, Bool.not_false, ↓reduceIte]
  | true =>
    rcases htake : p.takeRecord with ⟨taken, fault | d⟩
    · simp only [takeInput, mapStack_inputOpen, hopen, htake]
      cases fault.isTransient <;> rfl
    · simp only [takeInput, mapStack_inputOpen, hopen, htake]
      exact accept_mapStack h r taken d

theorem serve_mapStack (h : net.Simulates other view) (r : Relay σ) (p : StackPipe) :
    serve other (r.mapStack view) p = ((serve net r p).1.mapStack view, (serve net r p).2) := by
  simp only [serve_eq, mapStack_stack, h.act]
  rfl

theorem rounds_mapStack (h : net.Simulates other view) (n : Nat) (r : Relay σ) (p : StackPipe) :
    rounds other n (r.mapStack view) p =
      ((rounds net n r p).1.mapStack view, (rounds net n r p).2) := by
  induction n generalizing r p with
  | zero => rfl
  | succ n ih =>
    simp only [rounds, round, takeInput_mapStack h, serve_mapStack h, ih]

end Relay

/-! ## The journal -/

/-- A call that the relay makes to its stack, with the frames that the stack emits in it. -/
inductive StackCall where
  | input (frame : Bytes) (emitted : List Bytes)
  | complete (emitted : List Bytes)

namespace StackCall

/-- The frame that is handed over. -/
def input? : StackCall → Option Bytes
  | .input frame _ => some frame
  | .complete _ => none

def emitted : StackCall → List Bytes
  | .input _ emitted => emitted
  | .complete emitted => emitted

/-- The frames handed to the stack, in order. -/
def inputs (calls : List StackCall) : List Bytes := calls.filterMap input?

/-- The frames that the stack emitted, in order. -/
def emissions (calls : List StackCall) : List Bytes := calls.flatMap emitted

/-- How often the stack was let act on what it watches. -/
def completions (calls : List StackCall) : Nat := calls.countP fun call => call.input?.isNone

theorem inputs_snoc (calls : List StackCall) (call : StackCall) :
    inputs (calls ++ [call]) = inputs calls ++ call.input?.toList := by
  rw [inputs, List.filterMap_append, List.filterMap_cons]
  cases call.input? <;> rfl

theorem emissions_snoc (calls : List StackCall) (call : StackCall) :
    emissions (calls ++ [call]) = emissions calls ++ call.emitted := by
  simp [emissions]

theorem completions_snoc (calls : List StackCall) (call : StackCall) :
    completions (calls ++ [call]) = completions calls + if call.input?.isNone then 1 else 0 := by
  rw [completions, List.countP_append, List.countP_singleton]
  rfl

end StackCall

/-- The stack with a journal of the calls that it gets. -/
def NetStack.journaled (net : NetStack σ) : NetStack (σ × List StackCall) where
  start s := (net.start s.1).map fun stack => (stack, s.2)
  addRule rule s :=
    let (stack, r) := net.addRule rule s.1
    ((stack, s.2), r)
  input frame s :=
    let (stack, frames) := net.input frame s.1
    ((stack, s.2 ++ [.input frame frames]), frames)
  watch set s :=
    let (stack, set, wait) := net.watch set s.1
    ((stack, s.2), set, wait)
  sense s := net.sense s.1
  complete set s :=
    let (stack, frames) := net.complete set s.1
    ((stack, s.2 ++ [.complete frames]), frames)

/-- The journal does not change what the stack does. -/
theorem NetStack.journaled_simulates (net : NetStack σ) :
    net.journaled.Simulates net Prod.fst := ⟨fun _ _ => rfl, fun _ => rfl⟩

namespace Relay

variable (net : NetStack σ) (stack : σ) (journal : List StackCall) (rules : List Forwarding.Rule)

/-- Rules are installed before anything is entered in the journal. -/
theorem installAll_journaled :
    installAll net.journaled (stack, journal) rules =
      (((installAll net stack rules).1, journal), (installAll net stack rules).2) := by
  induction rules generalizing stack with
  | nil => rfl
  | cons rule rules ih =>
    have hadd : net.journaled.addRule rule (stack, journal) =
        (((net.addRule rule stack).1, journal), (net.addRule rule stack).2) := rfl
    simp only [installAll, hadd, ih]

/-- A relay starts with the journal that it was given. -/
theorem start_journaled :
    start net.journaled (stack, journal) rules = (start net stack rules).map fun started =>
      ({ started.1 with stack := (started.1.stack, journal) }, started.2) := by
  have hjournaled : net.journaled.start (stack, journal) =
      (net.start stack).map fun stack => (stack, journal) := rfl
  cases hstart : net.start stack with
  | error fault => simp only [start, hjournaled, hstart, Except.map]
  | ok stack => simp only [start, hjournaled, hstart, Except.map, installAll_journaled]

end Relay
end GuestNic
