import GuestNic.Card.Basic
import GuestNic.Link.Open
import GuestNic.Settings.Basic

/-!
# Opening a card

From settings to a running card. On the way notes are taken of everything worth telling; some of
them are alerts to the user.
-/

namespace GuestNic

/-- Why a card could not be opened. -/
inductive OpenFault where
  | noLink
  | link (fault : LinkFault)
  | stackMissing
  | relay (fault : RelayFault)
  | thread (fault : Host.Fault)
deriving DecidableEq, Repr

def OpenFault.message : OpenFault → String
  | .noLink => "no network transport configured"
  | .link fault => fault.message
  | .stackMissing =>
    "the slirp transport needs a user-mode network stack, none was supplied"
  | .relay fault => s!"cannot start NAT pump: {fault.message}"
  | .thread fault => s!"cannot start Ethernet reception thread: {fault.message}"

/-- What the emulator provides to a card that is opened. -/
structure Embedding (σ : Type) where
  host : HostAccess
  layout : ReceiveLayout
  /-- The network stack for NAT mode. -/
  stack : Option σ

/-- Something worth telling about an opening. -/
inductive Notice where
  | malformedRule (e : Forwarding.Malformed)
  | rule (outcome : RuleOutcome)
  | tunnelBound (port : UInt16)
  | addressUnknown (fault : Host.Fault)
  | opened (address : HardwareAddress) (kind : PortKind)
  | failed (fault : OpenFault)
  /-- The settings leave the network off. -/
  | disabled
  /-- The settings name no link. -/
  | unconfigured
  /-- There will be no card. -/
  | unavailable (fault : OpenFault)
deriving DecidableEq, Repr

/-- The text with which the user is alerted. -/
def Notice.alert? : Notice → Option String
  | .malformedRule e => some e.message
  | .rule (.refused fault) => some fault.message
  | .failed fault => some fault.message
  | _ => none

/-- What came of opening: the notices in order, and the result. -/
structure Opening (α : Type) where
  notices : List Notice
  result : α

namespace Card

variable {σ : Type} (net : NetStack σ)

/-- What there is to tell about a link that was opened. -/
def linkNotices (link : Link) : List Notice :=
  match link.port with
  | .tunnel t => [.tunnelBound t.port]
  | _ => []

/-- Whether the address of a port is a substitute. -/
def addressNotices (port : Port) : List Notice :=
  match port.hardwareAddress with
  | some (.error fault) => [.addressUnknown fault]
  | _ => []

/-- Start a card without a relay. -/
def start (link : Link) (layout : ReceiveLayout) : Opening (Card σ) :=
  let c : Card σ := ofLink link none layout
  ⟨addressNotices link.port ++ [.opened c.address c.kind], c⟩

/-- Start a card in NAT mode with its relay. The rules have been installed when a thread is
refused. -/
def startNat (link : Link) (layout : ReceiveLayout) (stack : σ) (rules : List Forwarding.Rule)
    (grants : HostGrants := .all) : Opening (Except OpenFault (Card σ)) :=
  match Relay.start net stack rules with
  | .error fault => ⟨[], .error (.relay fault)⟩
  | .ok (relay, outcomes) =>
    match Relay.launch grants.relayInput grants.relayThread, grants.receptionThread with
    | .error fault, _ => ⟨outcomes.map Notice.rule, .error (.relay fault)⟩
    | .ok (), .error fault => ⟨outcomes.map Notice.rule, .error (.thread fault)⟩
    | .ok (), .ok () =>
      let c := ofLink link (some relay) layout
      ⟨outcomes.map Notice.rule ++ [.opened c.address c.kind], .ok c⟩

/-- Where nothing is refused, all depends on the stack. -/
theorem startNat_all (link : Link) (layout : ReceiveLayout) (stack : σ)
    (rules : List Forwarding.Rule) :
    startNat net link layout stack rules =
      match Relay.start net stack rules with
      | .error fault => ⟨[], .error (.relay fault)⟩
      | .ok (relay, outcomes) =>
        let c := ofLink link (some relay) layout
        ⟨outcomes.map Notice.rule ++ [.opened c.address c.kind], .ok c⟩ := by
  unfold startNat
  cases Relay.start net stack rules <;> rfl

/-- Open the link that was chosen and start the card. -/
def openChoice (choice : LinkChoice) (s : Settings) (e : Embedding σ)
    (grants : HostGrants := .all) : Opening (Except OpenFault (Card σ)) :=
  match choice, e.stack with
  | .nat, none => ⟨[], .error .stackMissing⟩
  | choice, stack =>
    let (rules, errors) := s.forwarding
    let malformed := errors.map Notice.malformedRule
    match Link.openAt e.host choice grants with
    | .error fault => ⟨malformed, .error (.link fault)⟩
    | .ok link =>
      match choice, stack with
      | .nat, some stack =>
        let o := startNat net link e.layout stack rules grants
        ⟨malformed ++ linkNotices link ++ o.notices, o.result⟩
      | _, _ =>
        match grants.receptionThread with
        | .error fault =>
          ⟨malformed ++ linkNotices link ++ addressNotices link.port, .error (.thread fault)⟩
        | .ok () =>
          let o := start link e.layout
          ⟨malformed ++ linkNotices link ++ o.notices, .ok o.result⟩

/-- Open a card by settings. Every failure but that of no link being named is told. -/
def openWith (s : Settings) (e : Embedding σ) (grants : HostGrants := .all) :
    Opening (Except OpenFault (Card σ)) :=
  match s.choice? with
  | none => ⟨[], .error .noLink⟩
  | some choice =>
    let o := openChoice net choice s e grants
    match o.result with
    | .ok _ => o
    | .error fault => ⟨o.notices ++ [.failed fault], o.result⟩

end Card
end GuestNic
