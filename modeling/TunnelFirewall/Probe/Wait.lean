import TunnelFirewall.Probe.Datagram

/-!
# Waiting for the tunnel

The system may route nothing into a new tunnel until some traffic leaves the device. So while
the tunnel's descriptor does not become readable, a small datagram is sent to a random public
address each time a wait has passed. What the clock and the descriptor answer are the inputs of the
wait, one turn after another; chance and the sink have states of their own.
-/
namespace TunnelFirewall.Probe

/-- What a descriptor is watched for. -/
inductive Interest
  | readable
  | writable
deriving DecidableEq

/-- What a poll reported about a descriptor. -/
structure Events where
  readable : Bool := false
  writable : Bool := false
  error : Bool := false
  hangup : Bool := false
  /-- The descriptor is not open. -/
  invalid : Bool := false
deriving DecidableEq

/-- How one poll ended. -/
inductive PollEnd
  /-- A signal came; the poll is to be repeated. -/
  | interrupted
  | failed (failure : IoFailure)
  | expired
  | events (events : Events)
deriving DecidableEq

/-- What was reported about a descriptor is what it was watched for. -/
def Events.has (events : Events) : Interest → Bool
  | .readable => events.readable
  | .writable => events.writable

/-- What the polls of one wait come to: ready or not, a failure, or nothing yet. A descriptor in
error or hung up is ready, since the next read tells why. -/
def readiness (interest : Interest) : List PollEnd → Option (Except IoFailure Bool)
  | [] => none
  | .interrupted :: rest => readiness interest rest
  | .failed failure :: _ => some (.error failure)
  | .expired :: _ => some (.ok false)
  | .events events :: _ =>
    if events.invalid then some (.error .badDescriptor)
    else if events.error || events.hangup then some (.ok true)
    else some (.ok (events.has interest))

/-- The descriptor is ready at once, as far as one can tell. -/
def isReady (interest : Interest) (polls : List PollEnd) : Bool :=
  match readiness interest polls with
  | some (.ok ready) => ready
  | _ => false

/-- What a wait has done so far. -/
structure Report where
  /-- Waits that passed. -/
  iterations : UInt64 := 0
  /-- Datagrams that the sink took. -/
  sent : UInt64 := 0
  /-- Random addresses that were no targets. -/
  skipped : UInt64 := 0
  /-- Datagrams that the sink refused. -/
  sendErrors : UInt64 := 0
deriving DecidableEq

/-- How a wait ended. Times are in nanoseconds. -/
inductive Ending
  | up (elapsed : Nat)
  | timedOut (elapsed : Nat)
  | pollFailed (failure : IoFailure)
  /-- The inputs are used up and the wait goes on. -/
  | waiting
deriving DecidableEq

/-- Why a tunnel was not seen to come up. -/
inductive Error
  | timeout (elapsed : Nat) (sent : UInt64)
  | poll (failure : IoFailure)
  | socket (failure : IoFailure)
deriving DecidableEq

namespace Error

def message : Error → String
  | .timeout elapsed _ => s!"Tunnel not readable after {elapsed / 1000000}ms"
  | .poll failure => "poll failed: " ++ failure.message
  | .socket failure => "Failed to create probe socket: " ++ failure.message

/-- A later try may find the tunnel up. -/
def isRecoverable : Error → Bool
  | .timeout .. => true
  | _ => false

end Error

/-- How long a poll may last, in nanoseconds: an interval, but not past the overall timeout. -/
def pollTimeout (settings : ProbeSettings) (elapsed : Nat) : Nat :=
  min (settings.pollInterval.toNat * 1000000) (settings.overallTimeout.toNat * 1000000 - elapsed)

/-- The milliseconds that a poll is given: whole ones, and no more than 31 bits hold. -/
def pollMilliseconds (timeout : Nat) : Nat := min (timeout / 1000000) 2147483647

/-- The inputs of one turn of a wait. Times are in nanoseconds since the start of the wait. -/
structure Turn where
  /-- The clock at the start of the turn. -/
  elapsed : Nat
  /-- What polls of the descriptor report, one after the other, given so many milliseconds. -/
  polls : Nat → List PollEnd
  /-- The clock behind the polls. -/
  elapsedAfter : Nat

/-- What the polls of a turn report, given as much time as they may take. -/
def Turn.reports (settings : ProbeSettings) (turn : Turn) : List PollEnd :=
  turn.polls (pollMilliseconds (pollTimeout settings turn.elapsed))

/-- A sink for datagrams, on a state of its own: it takes a number of bytes or fails. -/
abbrev Sink (σ : Type) := Datagram → σ → Except IoFailure Nat × σ

/-- A wait: what it has done, the datagrams offered to the sink in order, and the states of chance
and the sink. -/
structure Wait (ρ σ : Type) where
  report : Report := {}
  offered : List Datagram := []
  random : ρ
  sink : σ

namespace Wait

variable {ρ σ : Type}

/-- Offers a datagram to the sink, and counts how the sink answers. -/
def send (sink : Sink σ) (datagram : Datagram) (wait : Wait ρ σ) : Wait ρ σ :=
  let (answer, after) := sink datagram wait.sink
  let report :=
    match answer with
    | .ok _ => { wait.report with sent := wait.report.sent + 1 }
    | .error _ => { wait.report with sendErrors := wait.report.sendErrors + 1 }
  { wait with report, offered := wait.offered ++ [datagram], sink := after }

section

variable [Networks] (settings : ProbeSettings) (chance : Chance ρ) (sink : Sink σ)

/-- One try: a random datagram is sent, unless its address is no target. -/
def probe (version : IpVersion) (wait : Wait ρ σ) : Wait ρ σ :=
  let (datagram?, random) := randomProbe? chance settings version wait.random
  match datagram? with
  | some datagram => send sink datagram { wait with random }
  | none => { wait with report.skipped := wait.report.skipped + 1, random }

/-- What is done when a wait has passed: one try, and one with IPv6 too if that is asked for. -/
def probes (wait : Wait ρ σ) : Wait ρ σ :=
  let wait := { wait with report.iterations := wait.report.iterations + 1 }
  let wait := wait.probe settings chance sink .v4
  if settings.ipv6 then wait.probe settings chance sink .v6 else wait

/-- Waits through the given turns. The clock is looked at before the descriptor, and again when
the descriptor is ready. -/
def run : List Turn → Wait ρ σ → Wait ρ σ × Ending
  | [], wait => (wait, .waiting)
  | turn :: rest, wait =>
    if settings.overallTimeout.toNat * 1000000 ≤ turn.elapsed then (wait, .timedOut turn.elapsed)
    else
      match readiness .readable (turn.reports settings) with
      | none => (wait, .waiting)
      | some (.error failure) => (wait, .pollFailed failure)
      | some (.ok true) => (wait, .up turn.elapsedAfter)
      | some (.ok false) => run rest (wait.probes settings chance sink)

end

def error? (wait : Wait ρ σ) : Ending → Option Error
  | .timedOut elapsed => some (.timeout elapsed wait.report.sent)
  | .pollFailed failure => some (.poll failure)
  | .up _ | .waiting => none

end Wait

/-- Why a sink that has a socket for IPv6 only if `ipv6` holds cannot send to an address. -/
def sendFailure? (ipv6 : Bool) : Address → Option IoFailure
  | .v4 _ => none
  | .v6 _ => if ipv6 then none else some ⟨.unsupported, "IPv6 probing disabled"⟩

end TunnelFirewall.Probe
