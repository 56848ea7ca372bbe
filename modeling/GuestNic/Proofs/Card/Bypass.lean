import GuestNic.Proofs.Card.Quiescence
import GuestNic.Proofs.Card.Refit
import GuestNic.Proofs.Card.Tunnel
import GuestNic.Proofs.Runs

/-!
# Tunnels bypass the handler table

Two cards on a tunnel that differ in their handlers alone stay that way, whatever becomes of the
tables meanwhile, and nothing that can be seen of them differs. So a history goes on as if the calls
that touch the table had been left out of it.
-/

namespace GuestNic

/-- The move is a call that is meant for the handler table. -/
def Move.isTable : Move → Bool
  | .call c => c.isTable
  | _ => false

namespace Card

variable {σ : Type} {c : Card σ}

/-- The card with another handler table. -/
def withHandlers (c : Card σ) (table : HandlerTable) : Card σ := { c with handlers := table }

/-! ## Calls -/

/-- A call that is meant for the table changes nothing else and is not seen. -/
theorem perform_of_isTable {call : Call} (h : call.isTable = true) :
    ∃ table, c.perform call = (c.withHandlers table, []) := by
  cases call with
  | attach type routine =>
    simp only [perform, attach]
    cases c.handlers.attach type routine with
    | ok table => exact ⟨table, rfl⟩
    | error fault => exact ⟨c.handlers, rfl⟩
  | detach type =>
    simp only [perform, detach]
    cases c.handlers.detach type with
    | ok table => exact ⟨table, rfl⟩
    | error fault => exact ⟨c.handlers, rfl⟩
  | reset => exact ⟨.empty, rfl⟩
  | transmit | transmitFrame | arrive => cases h

variable (table : HandlerTable)

/-- Another table is a change that nothing looks at but the sorting of a frame of the device. -/
def retabling : Refit σ σ where
  handlers _ := table
  relay := id

theorem withHandlers_eq_refit : c.withHandlers table = c.refit (retabling table) := rfl

theorem retabling_sendsAlike : (retabling table : Refit σ σ).SendsAlike := {}

/-- No other call looks at the table. -/
theorem perform_withHandlers {call : Call} (h : call.isTable = false) :
    (c.withHandlers table).perform call =
      ((c.perform call).1.withHandlers table, (c.perform call).2) :=
  perform_refit (retabling_sendsAlike table) (fun htable => by cases h.symm.trans htable) c

/-! ## Reception -/

/-- All frames of a tunnel come from peers. -/
theorem origin_of_tunnel {l : Link} {t : Tunnel} (h : l.port = .tunnel t) (buffer : FrameBuffer)
    (origin : Origin) (hread : (l.read buffer).2.2 = .ok (some origin)) :
    ∃ peer, origin = .peer peer := by
  cases hq : t.inbox with
  | nil =>
    obtain ⟨_, -, heq⟩ := Link.read_tunnel_nil h hq buffer
    rw [heq] at hread
    cases hread
  | cons front rest =>
    obtain ⟨peer, d⟩ := front
    obtain ⟨_, -, heq⟩ := Link.read_tunnel_cons h hq buffer
    rw [heq] at hread
    refine ⟨peer, ?_⟩
    simp only [Showing.of] at hread
    split at hread
    · cases hread
    · cases hread
      rfl

theorem receive_withHandlers {t : Tunnel} (h : c.link.port = .tunnel t) :
    (c.withHandlers table).receive = (c.receive.1.withHandlers table, c.receive.2) := by
  refine receive_refit (retabling_sendsAlike table).pollsAlike rfl ?_
  -- Only frames of a device would be looked up in the table.
  intro link origin hwait hread
  obtain rfl : link = c.link := (Prod.mk.inj (hwait.symm.trans (Link.wait_tunnel h))).1
  exact .inr (origin_of_tunnel h c.buffer origin hread)

/-! ## Single moves -/

variable (net : NetStack σ)

theorem IsTunnelling.withHandlers (h : c.IsTunnelling) : (c.withHandlers table).IsTunnelling :=
  ⟨h.isTunnel, h.isOpen, h.isReceiving, h.isClosed, h.isPending, h.delivery, h.rxDropped⟩

theorem move_of_isTable {m : Move} (h : m.isTable = true) :
    ∃ table, c.move net m = (c.withHandlers table, []) := by
  cases m with
  | call call => exact perform_of_isTable h
  | service | relay | receive => cases h

/-- On a tunnel no move other than those that are meant for it looks at the table. -/
theorem move_withHandlers (h : c.IsTunnelling) {m : Move} (hm : m.isTable = false) :
    (c.withHandlers table).move net m =
      ((c.move net m).1.withHandlers table, (c.move net m).2) := by
  obtain ⟨t, ht⟩ := h.isTunnel
  cases m with
  | call call => exact perform_withHandlers table hm
  | service =>
    have hservice := service_refit (retabling_sendsAlike table).toCountsAlike c
    simp only [move, withHandlers_eq_refit, hservice]
  | relay =>
    have ht' : (c.withHandlers table).link.port = .tunnel t := ht
    simp only [move, relayRound_of_tunnel net ht, relayRound_of_tunnel net ht']
  | receive => exact receive_withHandlers table ht

/-- What is seen of a card on a tunnel has nothing to do with its table. -/
structure IsBlind {α : Type} (see : Card σ → Move → List α) : Prop where
  table : ∀ (c : Card σ) {m : Move}, m.isTable = true → see c m = []
  other : ∀ {c : Card σ}, c.IsTunnelling → ∀ (table : HandlerTable) {m : Move},
    m.isTable = false → see (c.withHandlers table) m = see c m
  idle : ∀ {c : Card σ}, c.receive = (c, []) → see c .receive = []

theorem isBlind_events : IsBlind fun (c : Card σ) m => (c.move net m).2 where
  table c m hm := by
    obtain ⟨table, hmove⟩ := move_of_isTable (c := c) net hm
    simp only [hmove]
  other h table m hm := by simp only [move_withHandlers table net h hm]
  idle h := congrArg Prod.snd h

theorem isBlind_peerArrived : IsBlind fun (c : Card σ) m => c.peerArrived m where
  table c m hm := by
    cases m with
    | call call =>
      cases call with
      | attach | detach | reset => rfl
      | transmit | transmitFrame | arrive => cases hm
    | service | relay | receive => cases hm
  other {c} h table m hm := by
    cases m with
    | call call =>
      cases call with
      | attach | detach | reset | transmit | transmitFrame => rfl
      | arrive peer frame =>
        have harrive := arrive_refit (retabling_sendsAlike table).toKeepsWiring c peer frame
        simp only [peerArrived, withHandlers_eq_refit, harrive]
    | service | relay | receive => rfl
  idle _ := rfl

theorem isBlind_peerRead : IsBlind fun (c : Card σ) m => c.peerRead m where
  table c m hm := by
    cases m with
    | call | service | relay => rfl
    | receive => cases hm
  other {c} h table m hm := by
    obtain ⟨t, ht⟩ := h.isTunnel
    cases m with
    | call | service | relay => rfl
    | receive =>
      simp only [peerRead, receive_withHandlers table ht]
      rfl
  idle {c} h := by simp only [peerRead, h, Nat.sub_self, List.take_zero]

/-! ## Histories -/

variable {α : Type} {see : Card σ → Move → List α}

/-- The moves of a history that are not meant for the table. -/
def apartFromTable (moves : List Move) : List Move := moves.filter fun m => !m.isTable

/-- Histories, with what `see` sees of them. -/
def course (see : Card σ → Move → List α) : Course (Card σ) Move α where
  next c m := (c.move net m).1
  see := see
  after := after net
  seen := log net see

/-- Beside a card on a tunnel, one with another table does without the calls for the table. -/
theorem course_follows (hsee : IsBlind see) :
    (course net see).Follows (course net see) Move.isTable fun c c' =>
      c.IsTunnelling ∧ c' = c.withHandlers table where
  hidden {c c' m} hrel hm := by
    obtain ⟨h, rfl⟩ := hrel
    obtain ⟨table', hmove⟩ := move_of_isTable (c := c) net hm
    refine ⟨⟨(move_tunnelBalanced net h m).isTunnelling, ?_⟩, hsee.table c hm⟩
    simp only [course, hmove]
    rfl
  shared {c c' m} hrel hm := by
    obtain ⟨h, rfl⟩ := hrel
    refine ⟨⟨(move_tunnelBalanced net h m).isTunnelling, ?_⟩, (hsee.other h table hm).symm⟩
    simp only [course, move_withHandlers table net h hm]

/-- A history leads where the rest of it leads without the calls that are meant for the table, and
the same can be seen on the way. -/
theorem history_apartFromTable (h : c.IsTunnelling) (hsee : IsBlind see) (moves : List Move) :
    (c.withHandlers table).after net (apartFromTable moves) =
        (c.after net moves).withHandlers table ∧
      log net see (c.withHandlers table) (apartFromTable moves) = log net see c moves := by
  obtain ⟨⟨-, hafter⟩, hlog⟩ := (course_follows table net hsee).run ⟨h, rfl⟩ moves
  exact ⟨hafter, hlog.symm⟩

/-- Two histories that differ in the calls for the table alone show the same. -/
theorem log_eq_of_apartFromTable (h : c.IsTunnelling) (hsee : IsBlind see) {ms ns : List Move}
    (heq : apartFromTable ms = apartFromTable ns) : log net see c ms = log net see c ns := by
  have hms := (history_apartFromTable c.handlers net h hsee ms).2
  have hns := (history_apartFromTable c.handlers net h hsee ns).2
  rw [← hms, ← hns, heq]

/-- They lead to cards that differ in their handlers alone. -/
theorem after_eq_of_apartFromTable (h : c.IsTunnelling) {ms ns : List Move}
    (heq : apartFromTable ms = apartFromTable ns) :
    ∃ table, c.after net ns = (c.after net ms).withHandlers table := by
  have hsee := isBlind_events net
  have hms := (history_apartFromTable (c.after net ns).handlers net h hsee ms).1
  have hns := (history_apartFromTable (c.after net ns).handlers net h hsee ns).1
  rw [← heq, hms] at hns
  exact ⟨_, hns.symm⟩

/-! ## Settled histories -/

/-- Reception finds nothing to do. -/
def IsIdle (c : Card σ) : Prop := c.isResting = true ∨ c.inbox = []

theorem receive_of_isIdle (h : c.IsTunnelling) (hi : c.IsIdle) : c.receive = (c, []) := by
  obtain ⟨t, ht⟩ := h.isTunnel
  rcases hi with hr | hq
  · exact receive_of_resting hr
  · cases hr : c.isResting with
    | true => exact receive_of_resting hr
    | false =>
      have hwait := Link.wait_tunnel ht
      rw [← inbox_of_port ht, hq] at hwait
      exact receive_of_idle hr hwait

/-- A round of reception finds nothing to do, or reads the datagram in front. -/
theorem receive_inbox (h : c.IsTunnelling) :
    c.IsIdle ∨ ∃ front, c.inbox = front :: c.receive.1.inbox := by
  obtain ⟨t, ht⟩ := h.isTunnel
  have hround := receive_tunnelRound ht h.isClosed
  generalize c.receive = result at hround ⊢
  obtain ⟨c', events⟩ := result
  rw [IsIdle, inbox_of_port ht]
  cases hround with
  | rest hrest => exact .inl hrest
  | runt _ hq => exact .inr ⟨_, hq⟩
  | raised _ hq => exact .inr ⟨_, hq⟩

/-- After as many rounds of reception as datagrams wait there is nothing left to do. -/
theorem after_receive_isIdle (h : c.IsTunnelling) {n : Nat} (hn : c.inbox.length ≤ n) :
    (c.after net (List.replicate n .receive)).IsIdle := by
  induction n generalizing c with
  | zero => exact .inr (List.eq_nil_of_length_eq_zero (Nat.le_zero.1 hn))
  | succ n ih =>
    rcases receive_inbox h with hidle | ⟨front, hinbox⟩
    · rw [after_receive_of_eq net (receive_of_isIdle h hidle)]
      exact hidle
    · have hlen : c.receive.1.inbox.length ≤ n := by
        rw [hinbox, List.length_cons] at hn
        omega
      exact ih (receive_tunnelBalanced h).isTunnelling hlen

/-- Without a relay to wait for, only reception has to settle. -/
theorem settling_of_tunnel (h : c.IsTunnelling) :
    c.settling net = List.replicate (c.inbox.length + 1) .receive := by
  obtain ⟨t, ht⟩ := h.isTunnel
  have hrounds : c.relayRounds = 0 := by
    unfold relayRounds
    rw [ht]
    cases c.isOpen <;> rfl
  rw [settling, hrounds, inbox_of_port ht, List.replicate_zero, List.nil_append, after_nil, ht]
  rfl

theorem settling_isIdle (h : c.IsTunnelling) : (c.after net (c.settling net)).IsIdle := by
  rw [settling_of_tunnel net h]
  exact after_receive_isIdle net h (Nat.le_succ _)

theorem log_receive_of_isIdle (h : c.IsTunnelling) (hi : c.IsIdle) (hsee : IsBlind see) (n : Nat) :
    log net see c (List.replicate n .receive) = [] := by
  have hsame := receive_of_isIdle h hi
  induction n with
  | zero => rfl
  | succ n ih => rw [List.replicate_succ, log, hsee.idle hsame, move, hsame, ih, List.nil_append]

/-- A move, and what settles after it. -/
def settledMove (c : Card σ) (m : Move) : List Move := m :: (c.move net m).1.settling net

/-- Histories in which everything settles after each move, with what `see` sees of them. -/
def settledCourse (see : Card σ → Move → List α) : Course (Card σ) Move α where
  next c m := c.after net (c.settledMove net m)
  see c m := log net see c (c.settledMove net m)
  after c moves := c.after net (c.settled net moves)
  seen c moves := log net see c (c.settled net moves)
  after_cons c m _ := c.after_append net (c.settledMove net m) _
  seen_cons c m _ := log_append net see c (c.settledMove net m) _

/-- To settle on a tunnel takes no calls for the table. -/
theorem settledMove_withHandlers (h : c.IsTunnelling) {m : Move} (hm : m.isTable = false) :
    (c.withHandlers table).settledMove net m = apartFromTable (c.settledMove net m) := by
  have hnext := (move_tunnelBalanced net h m).isTunnelling
  have hkeep : apartFromTable (c.settledMove net m) =
      m :: apartFromTable ((c.move net m).1.settling net) :=
    List.filter_cons_of_pos (by simp [hm])
  rw [hkeep, settledMove, move_withHandlers table net h hm, settling_of_tunnel net hnext,
    settling_of_tunnel net (hnext.withHandlers table)]
  exact congrArg (m :: ·)
    (List.filter_eq_self.2 fun m hm => by rw [List.eq_of_mem_replicate hm]; rfl).symm

/-- A call for the table leaves nothing to settle. -/
theorem settledMove_of_isTable (h : c.IsTunnelling) (hi : c.IsIdle) (hsee : IsBlind see) {m : Move}
    (hm : m.isTable = true) :
    (∃ table, c.after net (c.settledMove net m) = c.withHandlers table) ∧
      log net see c (c.settledMove net m) = [] := by
  have hnext := (move_tunnelBalanced net h m).isTunnelling
  obtain ⟨table, hmove⟩ := move_of_isTable (c := c) net hm
  have hidle : (c.withHandlers table).IsIdle := hi
  rw [hmove] at hnext
  rw [settledMove, after, log, hmove, settling_of_tunnel net hnext, hsee.table c hm,
    after_receive_of_eq net (receive_of_isIdle hnext hidle),
    log_receive_of_isIdle net hnext hidle hsee]
  exact ⟨⟨table, rfl⟩, rfl⟩

theorem settledCourse_follows (hsee : IsBlind see) :
    (settledCourse net see).Follows (settledCourse net see) Move.isTable fun c c' =>
      (c.IsTunnelling ∧ c.IsIdle) ∧ c' = c.withHandlers table where
  hidden {c c' m} hrel hm := by
    obtain ⟨⟨h, hi⟩, rfl⟩ := hrel
    obtain ⟨⟨table', hafter⟩, hlog⟩ := settledMove_of_isTable net h hi hsee hm
    simp only [settledCourse, hafter]
    exact ⟨⟨⟨h.withHandlers table', hi⟩, rfl⟩, hlog⟩
  shared {c c' m} hrel hm := by
    obtain ⟨⟨h, -⟩, rfl⟩ := hrel
    have hnext := (move_tunnelBalanced net h m).isTunnelling
    have hsettled := (after_tunnelBalanced net h (c.settledMove net m)).isTunnelling
    obtain ⟨hafter, hlog⟩ := history_apartFromTable table net h hsee (c.settledMove net m)
    rw [← settledMove_withHandlers table net h hm] at hafter hlog
    exact ⟨⟨⟨hsettled, settling_isIdle net hnext⟩, hafter⟩, hlog.symm⟩

/-- The same for histories in which everything settles after each move. -/
theorem settled_apartFromTable (h : c.IsTunnelling) (hi : c.IsIdle) (hsee : IsBlind see)
    (moves : List Move) :
    log net see (c.withHandlers table)
        ((c.withHandlers table).settled net (apartFromTable moves)) =
      log net see c (c.settled net moves) :=
  ((settledCourse_follows table net hsee).run ⟨⟨h, hi⟩, rfl⟩ moves).2.symm

theorem log_settled_eq_of_apartFromTable (h : c.IsTunnelling) (hi : c.IsIdle) (hsee : IsBlind see)
    {ms ns : List Move} (heq : apartFromTable ms = apartFromTable ns) :
    log net see c (c.settled net ms) = log net see c (c.settled net ns) := by
  have hms := settled_apartFromTable c.handlers net h hi hsee ms
  have hns := settled_apartFromTable c.handlers net h hi hsee ns
  rw [← hms, ← hns, heq]

end Card
end GuestNic
