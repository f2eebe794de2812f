import TunnelFirewall.Proofs.Engine.Drop
import TunnelFirewall.Proofs.Engine.Inspection

/-!
# Conservation of packets

Every packet that an engine takes is counted as received and once more by what became of it; the
inspection of payloads and the end of the work leave these counters alone. So after any sequence of
calls the counters agree with the outcomes that were returned, as long as 64 bits hold them.
-/
namespace TunnelFirewall

/-- What became of a packet, without the particulars. -/
inductive Fate
  | allowed
  | blocked
  | malformed
  | unsupported
  | capped
deriving DecidableEq

def Outcome.fate : Outcome → Fate
  | .allowed .. => .allowed
  | .blocked _ => .blocked
  | .dropped (.malformed _) => .malformed
  | .dropped (.unsupportedProtocol _) => .unsupported
  | .dropped (.sessionLimit ..) => .capped

/-- A packet that an engine has taken, and what it answered. -/
structure Taken where
  bytes : Bytes
  outcome : Outcome

/-- The length of the longest of these packets, zero if there is none. -/
def longest (packets : List Bytes) : Nat := (packets.map List.length).foldl max 0

/-- How many of these packets came to this end. -/
def tally (fate : Fate) (taken : List Taken) : Nat := (taken.map fun t => t.outcome.fate).count fate

theorem longest_append_singleton (packets : List Bytes) (bytes : Bytes) :
    longest (packets ++ [bytes]) = max (longest packets) bytes.length := by
  simp [longest, List.foldl_append]

theorem tally_append_singleton (fate : Fate) (taken : List Taken) (t : Taken) :
    tally fate (taken ++ [t]) = tally fate taken + if t.outcome.fate = fate then 1 else 0 := by
  simp [tally, List.count_append, List.count_singleton]

/-- Every packet comes to one end. -/
theorem length_eq_sum_tally (taken : List Taken) :
    taken.length = tally .allowed taken + tally .blocked taken + tally .malformed taken +
      tally .unsupported taken + tally .capped taken := by
  unfold tally
  induction taken with
  | nil => rfl
  | cons t rest ih =>
    simp only [List.length_cons, List.map_cons, List.count_cons, beq_iff_eq, ih]
    cases t.outcome.fate with
    | allowed => simp; omega
    | blocked => simp; omega
    | malformed => simp; omega
    | unsupported => simp; omega
    | capped => simp; omega

namespace Stats

/-- The counter of the packets that came to this end. -/
def counter (s : Stats) : Fate → UInt64
  | .allowed => s.allowed
  | .blocked => s.blocked
  | .malformed => s.droppedMalformed
  | .unsupported => s.droppedUnsupported
  | .capped => s.droppedSessionLimit

theorem counter_receive (length : Nat) (s : Stats) (fate : Fate) :
    (s.receive length).counter fate = s.counter fate := by
  cases fate <;> rfl

/-- An outcome moves its own counter and no other. -/
theorem counter_count (outcome : Outcome) (s : Stats) (fate : Fate) :
    (s.count outcome).counter fate = s.counter fate + if outcome.fate = fate then 1 else 0 := by
  rcases outcome with (e | protocol | ⟨openSessions, max⟩) | ⟨protocol, redirect⟩ | protocol
  all_goals cases fate <;> simp [count, counter, Outcome.fate]

theorem received_count (outcome : Outcome) (s : Stats) :
    (s.count outcome).received = s.received ∧
      (s.count outcome).maxPacketLength = s.maxPacketLength := by
  rcases outcome with (e | protocol | ⟨openSessions, max⟩) | ⟨protocol, redirect⟩ | protocol
  all_goals exact ⟨rfl, rfl⟩

theorem counter_countVerdict (verdict : Tls.Verdict) (s : Stats) (fate : Fate) :
    (s.countVerdict verdict).counter fate = s.counter fate := by
  rw [countVerdict_eq]
  cases fate <;> rfl

/-- The counters stand where these packets put them. -/
structure Balances (s : Stats) (taken : List Taken) : Prop where
  received : s.received = UInt64.ofNat taken.length
  counter : ∀ fate, s.counter fate = UInt64.ofNat (tally fate taken)
  longest : s.maxPacketLength.toNat = min (longest (taken.map Taken.bytes)) (UInt64.size - 1)

variable {s : Stats} {taken : List Taken}

theorem balances_start : Balances {} [] where
  received := rfl
  counter fate := by cases fate <;> rfl
  longest := rfl

theorem Balances.take (h : s.Balances taken) (bytes : Bytes) (outcome : Outcome) :
    ((s.receive bytes.length).count outcome).Balances (taken ++ [⟨bytes, outcome⟩]) where
  received := by
    rw [(received_count outcome _).1, List.length_append, List.length_singleton, UInt64.ofNat_add,
      ← h.received]
    rfl
  counter fate := by
    rw [counter_count, counter_receive, h.counter, tally_append_singleton, UInt64.ofNat_add]
    split
    · rfl
    · rfl
  longest := by
    rw [(received_count outcome _).2, toNat_maxPacketLength_receive, h.longest, List.map_append,
      List.map_singleton, longest_append_singleton]
    dsimp only
    omega

theorem Balances.countVerdict (h : s.Balances taken) (verdict : Tls.Verdict) :
    (s.countVerdict verdict).Balances taken where
  received := by rw [countVerdict_eq]; exact h.received
  counter fate := by rw [counter_countVerdict]; exact h.counter fate
  longest := by rw [countVerdict_eq]; exact h.longest

end Stats

/-- What an engine may be asked to do. -/
inductive Engine.Request
  | dispatch (bytes : Bytes) (openSessions : Nat)
  | inspect (payload : Bytes) (session : Tls.Session)
  | shutdown

/-- The packet that comes with a request. -/
def Engine.Request.packet? : Engine.Request → Option Bytes
  | .dispatch bytes _ => some bytes
  | .inspect _ _ => none
  | .shutdown => none

/-- The packets that come with these requests, in order. -/
def submitted (requests : List Engine.Request) : List Bytes :=
  requests.filterMap Engine.Request.packet?

/-- An engine at work, with the collaborators' state and the packets it has taken. -/
structure Service (σ : Type) where
  engine : Engine
  state : σ
  taken : List Taken := []

namespace Service

variable {σ : Type}

def step (host : Collaborators σ) (w : Service σ) : Engine.Request → Service σ
  | .dispatch bytes openSessions =>
    let x := w.engine.dispatch bytes openSessions host w.state
    ⟨x.value.2, x.state, w.taken ++ [⟨bytes, x.value.1⟩]⟩
  | .inspect payload session =>
    let x := w.engine.inspectTls payload session host w.state
    ⟨x.value.2.2, x.state, w.taken⟩
  | .shutdown =>
    let x := w.engine.shutdown host w.state
    ⟨x.value, x.state, w.taken⟩

def run (host : Collaborators σ) (w : Service σ) (requests : List Engine.Request) : Service σ :=
  requests.foldl (step host) w

variable {host : Collaborators σ} {w : Service σ}

theorem step_balances (h : w.engine.stats.Balances w.taken) (request : Engine.Request) :
    (w.step host request).engine.stats.Balances (w.step host request).taken := by
  cases request with
  | dispatch bytes openSessions =>
    simp only [step, Engine.dispatch_eq]
    exact h.take bytes _
  | inspect payload session =>
    simp only [step, Engine.inspectTls_eq]
    exact h.countVerdict _
  | shutdown => exact h

theorem run_balances (h : w.engine.stats.Balances w.taken) (requests : List Engine.Request) :
    (w.run host requests).engine.stats.Balances (w.run host requests).taken := by
  induction requests generalizing w with
  | nil => exact h
  | cons request requests ih => exact ih (step_balances h request)

theorem taken_run (requests : List Engine.Request) :
    (w.run host requests).taken.map Taken.bytes =
      w.taken.map Taken.bytes ++ submitted requests := by
  induction requests generalizing w with
  | nil => simp [run, submitted]
  | cons request requests ih =>
    change ((w.step host request).run host requests).taken.map Taken.bytes = _
    rw [ih]
    cases request with
    | dispatch bytes openSessions => simp [step, submitted, Engine.Request.packet?]
    | inspect payload session =>
      simp [step, submitted, List.filterMap_cons, Engine.Request.packet?]
    | shutdown => simp [step, submitted, List.filterMap_cons, Engine.Request.packet?]

end Service

/-- Conservation of packets. A new engine is called in any order, whatever its collaborators do,
with fewer than 2 ^ 64 packets among the calls. Each of these packets has one outcome. The packets
received are those allowed, blocked and dropped together, and the sum of the dropped ones does not
overflow. The counter of an outcome is the number of packets that had it, and the longest length is
that of the longest packet, as far as 64 bits go. -/
theorem Engine.counters_balance {σ : Type} (settings : EngineSettings) (host : Collaborators σ)
    (s : σ) (requests : List Engine.Request) (few : (submitted requests).length < UInt64.size) :
    let w : Service σ := Service.run host ⟨{ settings }, s, []⟩ requests
    let stats := w.engine.stats
    w.taken.map Taken.bytes = submitted requests ∧
      stats.received.toNat = (submitted requests).length ∧
      stats.received.toNat = stats.allowed.toNat + stats.blocked.toNat + stats.dropped.toNat ∧
      stats.dropped.toNat = stats.droppedMalformed.toNat + stats.droppedUnsupported.toNat +
        stats.droppedSessionLimit.toNat ∧
      stats.allowed.toNat = tally .allowed w.taken ∧
      stats.blocked.toNat = tally .blocked w.taken ∧
      stats.droppedMalformed.toNat = tally .malformed w.taken ∧
      stats.droppedUnsupported.toNat = tally .unsupported w.taken ∧
      stats.droppedSessionLimit.toNat = tally .capped w.taken ∧
      stats.maxPacketLength.toNat = min (longest (submitted requests)) (UInt64.size - 1) := by
  intro w stats
  have hbalance : stats.Balances w.taken := Service.run_balances Stats.balances_start requests
  have htaken : w.taken.map Taken.bytes = submitted requests := Service.taken_run requests
  have hlength : w.taken.length = (submitted requests).length := by
    rw [← htaken, List.length_map]
  have hsum := length_eq_sum_tally w.taken
  have hcounter (fate : Fate) : (stats.counter fate).toNat = tally fate w.taken := by
    -- No tally exceeds the number of packets, so no counter has gone round.
    rw [hbalance.counter]
    apply UInt64.toNat_ofNat_of_lt'
    cases fate <;> omega
  have hallowed : stats.allowed.toNat = tally .allowed w.taken := hcounter .allowed
  have hblocked : stats.blocked.toNat = tally .blocked w.taken := hcounter .blocked
  have hmalformed : stats.droppedMalformed.toNat = tally .malformed w.taken := hcounter .malformed
  have hunsupported : stats.droppedUnsupported.toNat = tally .unsupported w.taken :=
    hcounter .unsupported
  have hcapped : stats.droppedSessionLimit.toNat = tally .capped w.taken := hcounter .capped
  have hreceived : stats.received.toNat = (submitted requests).length := by
    rw [hbalance.received, hlength]
    exact UInt64.toNat_ofNat_of_lt' few
  have hdropped : stats.dropped.toNat = stats.droppedMalformed.toNat +
      stats.droppedUnsupported.toNat + stats.droppedSessionLimit.toNat := by
    unfold UInt64.size at few
    rw [Stats.dropped, UInt64.toNat_add, UInt64.toNat_add]
    omega
  have hlongest := hbalance.longest
  rw [htaken] at hlongest
  exact ⟨htaken, hreceived, by omega, hdropped, hallowed, hblocked, hmalformed, hunsupported,
    hcapped, hlongest⟩

section Example

/-- Collaborators that know no session and no owner, and refuse nothing. -/
def lenientHost : Collaborators Unit where
  hasSession _ s := (false, s)
  resolveOwner _ s := (.notFound, s)
  allowAddress _ s := (some {}, s)
  blockDomain _ _ s := (false, s)
  forwardIcmp _ _ s := s
  forwardUdp _ _ _ s := s
  forwardTcp _ _ _ s := s
  refuseUdp _ _ s := s
  forgetOwners s := s

/-- A ping, a payload, a buffer that is no packet, and the end. -/
def pingRequests : List Engine.Request :=
  [.dispatch [69, 0, 0, 28, 0, 0, 0, 0, 64, 1, 0, 0, 10, 0, 0, 1, 192, 0, 2, 1,
      8, 0, 0, 0, 0, 0, 0, 0] 0,
    .inspect [23, 3, 3] {}, .dispatch [] 0, .shutdown]

theorem Engine.counters_balance_ping :
    (submitted pingRequests).length < UInt64.size ∧
      let w : Service Unit :=
        Service.run lenientHost ⟨{ settings := { verifyIPv4Checksum := false } }, (), []⟩
          pingRequests
      let stats := w.engine.stats
      stats.received.toNat = 2 ∧
        stats.received.toNat = stats.allowed.toNat + stats.blocked.toNat + stats.dropped.toNat ∧
        stats.allowed.toNat = 1 ∧ stats.droppedMalformed.toNat = 1 ∧
        stats.maxPacketLength.toNat = 28 := by
  have few : (submitted pingRequests).length < UInt64.size := by decide
  obtain ⟨-, hreceived, hsum, -, hallowed, -, hmalformed, -, -, hlongest⟩ :=
    Engine.counters_balance { verifyIPv4Checksum := false } lenientHost () pingRequests few
  exact ⟨few, hreceived, hsum, hallowed.trans (by decide +kernel),
    hmalformed.trans (by decide +kernel), hlongest.trans (by decide)⟩

end Example

end TunnelFirewall
