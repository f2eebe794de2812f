import TunnelFirewall.Engine.Outcome

/-!
# The engine's collaborators

The engine decides; all that outlives a packet belongs to its collaborators: who owns a flow,
what the policy says, which sessions are open, and the forwarding of what is allowed. They are
functions on a state of their own. A dialogue is a computation that calls them, and the only
way to call one is through this module, so that the calls kept beside the value are exactly
those that were made, in order.
-/
namespace TunnelFirewall

/-- The functions behind the engine, on a state of type `σ`. -/
structure Collaborators (σ : Type) where
  /-- There is a session for the flow of this packet. -/
  hasSession : Packet → σ → Bool × σ
  /-- Who owns a flow. -/
  resolveOwner : FlowQuery → σ → Owner × σ
  /-- What the policy says about a flow: nothing to refuse it. -/
  allowAddress : FlowRecord → σ → Option Redirect × σ
  /-- The policy blocks this server name for this owner. -/
  blockDomain : String → Owner → σ → Bool × σ
  forwardIcmp : Packet → Owner → σ → σ
  forwardUdp : Packet → Owner → Option Redirect → σ → σ
  forwardTcp : Packet → Owner → Option Redirect → σ → σ
  /-- Ends a UDP flow that the policy refused. -/
  refuseUdp : Packet → Owner → σ → σ
  forgetOwners : σ → σ

/-- A call to a collaborator, with its answer. -/
inductive Call
  | sessionCheck (packet : Packet) (found : Bool)
  | ownerLookup (query : FlowQuery) (owner : Owner)
  | addressCheck (record : FlowRecord) (redirect : Option Redirect)
  | domainCheck (hostname : String) (owner : Owner) (blocked : Bool)
  | icmp (packet : Packet) (owner : Owner)
  | udp (packet : Packet) (owner : Owner) (redirect : Option Redirect)
  | tcp (packet : Packet) (owner : Owner) (redirect : Option Redirect)
  | udpRefusal (packet : Packet) (owner : Owner)
  | ownerReset
deriving DecidableEq

/-- The end of a dialogue: its value, the collaborators' state, and the calls in order. -/
structure Exchange (σ α : Type) where
  value : α
  state : σ
  calls : List Call

/-- A computation that calls collaborators. -/
def Dialogue (σ α : Type) : Type := Collaborators σ → σ → Exchange σ α

namespace Dialogue

variable {σ α β : Type}

def value (a : α) : Dialogue σ α := fun _ s => ⟨a, s, []⟩

def andThen (first : Dialogue σ α) (second : α → Dialogue σ β) : Dialogue σ β := fun host s =>
  let a := first host s
  let b := second a.value host a.state
  ⟨b.value, b.state, a.calls ++ b.calls⟩

instance : Monad (Dialogue σ) where
  pure := value
  bind := andThen

@[simp] theorem pure_apply (a : α) (host : Collaborators σ) (s : σ) :
    (pure a : Dialogue σ α) host s = ⟨a, s, []⟩ := rfl

@[simp] theorem bind_apply (first : Dialogue σ α) (second : α → Dialogue σ β)
    (host : Collaborators σ) (s : σ) :
    (first >>= second) host s =
      ⟨(second (first host s).value host (first host s).state).value,
        (second (first host s).value host (first host s).state).state,
        (first host s).calls ++ (second (first host s).value host (first host s).state).calls⟩ :=
  rfl

def askSession (p : Packet) : Dialogue σ Bool := fun host s =>
  let (found, s) := host.hasSession p s
  ⟨found, s, [.sessionCheck p found]⟩

def askOwner (query : FlowQuery) : Dialogue σ Owner := fun host s =>
  let (owner, s) := host.resolveOwner query s
  ⟨owner, s, [.ownerLookup query owner]⟩

def askAddress (record : FlowRecord) : Dialogue σ (Option Redirect) := fun host s =>
  let (redirect, s) := host.allowAddress record s
  ⟨redirect, s, [.addressCheck record redirect]⟩

def askDomain (hostname : String) (owner : Owner) : Dialogue σ Bool := fun host s =>
  let (blocked, s) := host.blockDomain hostname owner s
  ⟨blocked, s, [.domainCheck hostname owner blocked]⟩

/-- Forwards a packet by its protocol. -/
def forward (p : Packet) (owner : Owner) (redirect : Option Redirect) : Dialogue σ Unit :=
  fun host s =>
    if p.isIcmp then ⟨(), host.forwardIcmp p owner s, [.icmp p owner]⟩
    else if p.isUdp then ⟨(), host.forwardUdp p owner redirect s, [.udp p owner redirect]⟩
    else ⟨(), host.forwardTcp p owner redirect s, [.tcp p owner redirect]⟩

/-- Ends a UDP flow that the policy refused. -/
def refuseUdp (p : Packet) (owner : Owner) : Dialogue σ Unit := fun host s =>
  ⟨(), host.refuseUdp p owner s, [.udpRefusal p owner]⟩

/-- Makes the collaborators forget the owners they know. -/
def forgetOwners : Dialogue σ Unit := fun host s => ⟨(), host.forgetOwners s, [.ownerReset]⟩

end Dialogue

end TunnelFirewall
