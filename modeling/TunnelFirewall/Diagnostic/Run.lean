import TunnelFirewall.Diagnostic.Flows

/-!
# Runs of the diagnostic program

Each line of the input may hold a packet in hexadecimal. Blank lines, comments, lines that are
no packet and packets that are too long are passed over. Every other packet goes through the
engine, and an allowed TCP payload of an open connection through inspection as well; what comes
of it is one line of output.
-/
namespace TunnelFirewall.Diagnostic

variable [HexDecoder]

/-- The bytes of the packet that a line holds, if it is to be taken. -/
def packetOfLine? (mtu : Nat) (line : String) : Option Bytes :=
  match Text.trim line.toList with
  | [] => none
  | '#' :: _ => none
  | text =>
    match Hex.decode (String.ofList text) with
    | .ok bytes => if bytes.length ≤ mtu then some bytes else none
    | .error _ => none

/-- What came of a packet: the engine's answer, and the verdict on its payload if it was
inspected. -/
structure Report where
  outcome : Outcome
  verdict : Option Tls.Verdict
deriving DecidableEq

/-- The line of output about a packet. -/
def Report.text (report : Report) : String :=
  match report.verdict with
  | some (.captured name) => report.outcome.text ++ " sni=" ++ name
  | some .block => report.outcome.text ++ " tls=blocked"
  | _ => report.outcome.text

/-- A diagnostic program at work. -/
structure State where
  engine : Engine
  blocked : List String
  desk : Desk

namespace State

def start (config : Config) (blocked : List String) : State where
  engine := { settings := config.engine }
  blocked := blocked
  desk := { cache := { ttl := config.cache.ttl.toNat, root := config.cache.root } }

/-- Inspects the payload of an allowed packet: it has to belong to an open TCP connection. A
connection that is to be blocked is closed. -/
def inspect (around : Surroundings) (bytes : Bytes) (state : State) :
    Option Tls.Verdict × State :=
  match Packet.ofBytes state.engine.settings.verifyIPv4Checksum bytes with
  | .error _ => (none, state)
  | .ok p =>
    let key := FlowKey.ofPacket p
    match p.tcpPayload, state.desk.flows.session? key with
    | [], _ | _, none => (none, state)
    | payload, some session =>
      let inspection :=
        state.engine.inspectTls payload session (collaborators state.blocked around) state.desk
      let (verdict, session, engine) := inspection.value
      let desk := inspection.state
      let flows :=
        if verdict.isBlock then desk.flows.eraseTcp key else desk.flows.setSession key session
      (some verdict, { state with engine, desk := { desk with flows } })

def take (around : Surroundings) (bytes : Bytes) (state : State) : Report × State :=
  let answer :=
    state.engine.dispatch bytes state.desk.flows.size (collaborators state.blocked around)
      state.desk
  let (outcome, engine) := answer.value
  let state := { state with engine, desk := answer.state }
  if outcome.isAllowed then
    let (verdict, state) := state.inspect around bytes
    (⟨outcome, verdict⟩, state)
  else (⟨outcome, none⟩, state)

def takeLine (around : Surroundings) (line : String) (state : State) : Option Report × State :=
  match packetOfLine? state.engine.settings.mtu.toNat line with
  | some bytes =>
    let (report, state) := state.take around bytes
    (some report, state)
  | none => (none, state)

/-- Takes line after line, each in its surroundings, up to the first that is no text. -/
def run : List (Option String × Surroundings) → State → List Report × Option IoFailure
  | [], _ => ([], none)
  | (none, _) :: _, _ => ([], some .notText)
  | (some line, around) :: rest, state =>
    let (report, state) := state.takeLine around line
    let (reports, failure) := run rest state
    (report.toList ++ reports, failure)

end State

end TunnelFirewall.Diagnostic
