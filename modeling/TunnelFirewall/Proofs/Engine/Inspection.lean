import TunnelFirewall.Proofs.Engine.Course
import TunnelFirewall.Proofs.Tls.Findings

/-!
# The inspection of a TLS session

The payloads of one session are looked at one after another. Up to the first that tells a server
name nothing happens; this one gives the session its name; from then on the policy is asked about
that name with every payload that is application data, and about nothing else.
-/
namespace TunnelFirewall

open Tls (Names Nameless IsApplicationData)

variable {σ : Type}

def Tls.Verdict.isCapture : Tls.Verdict → Bool
  | .captured _ => true
  | _ => false

/-- One look at a payload: the verdict, the session after it and the calls it took. -/
structure Look where
  payload : Bytes
  verdict : Tls.Verdict
  session : Tls.Session
  calls : List Call

/-- The counters with as many more names as the looks captured, and as many more blocks as they
ended in. -/
def Stats.countLooks (looks : List Look) (stats : Stats) : Stats :=
  { stats with
    tlsHostnames := stats.tlsHostnames +
      UInt64.ofNat (looks.countP fun look => look.verdict.isCapture)
    tlsBlocked := stats.tlsBlocked + UInt64.ofNat (looks.countP fun look => look.verdict.isBlock) }

theorem Stats.countVerdict_eq (verdict : Tls.Verdict) (stats : Stats) :
    stats.countVerdict verdict = { stats with
      tlsHostnames := stats.tlsHostnames + if verdict.isCapture then 1 else 0
      tlsBlocked := stats.tlsBlocked + if verdict.isBlock then 1 else 0 } := by
  cases verdict <;> simp [countVerdict, Tls.Verdict.isCapture, Tls.Verdict.isBlock]

theorem Stats.countLooks_append (looks : List Look) (look : Look) (stats : Stats) :
    stats.countLooks (looks ++ [look]) = (stats.countLooks looks).countVerdict look.verdict := by
  have one (p : Look → Bool) : UInt64.ofNat ((looks ++ [look]).countP p) =
      UInt64.ofNat (looks.countP p) + if p look then 1 else 0 := by
    rw [List.countP_append, List.countP_singleton, UInt64.ofNat_add]
    split <;> rfl
  rw [countVerdict_eq]
  simp only [countLooks, one, UInt64.add_assoc]

namespace Look

/-- The payload tells no name and is let pass; the session stays without one. -/
structure Silent (owner : Owner) (look : Look) : Prop where
  nameless : Nameless look.payload
  verdict : look.verdict = .allow
  session : look.session = ⟨owner, none⟩
  calls : look.calls = []

/-- The payload tells this name, which the session takes. -/
structure Captures (owner : Owner) (name : String) (look : Look) : Prop where
  names : Names look.payload name
  nonempty : name ≠ ""
  verdict : look.verdict = .captured name
  session : look.session = ⟨owner, some name⟩
  calls : look.calls = []

/-- The session has this name and keeps it. The policy is asked about it exactly if the payload is
application data, and its answer is the verdict. -/
structure Follows (owner : Owner) (name : String) (look : Look) : Prop where
  session : look.session = ⟨owner, some name⟩
  asks : IsApplicationData look.payload → ∃ blocked,
    look.calls = [.domainCheck name owner blocked] ∧
      look.verdict = if blocked then .block else .allow
  passes : ¬IsApplicationData look.payload → look.calls = [] ∧ look.verdict = .allow

end Look

/-- The looks at a session from its start on, and the name it has in the end. -/
inductive SessionCourse (owner : Owner) : Option String → List Look → Prop
  | silent {looks : List Look} (silent : ∀ look ∈ looks, look.Silent owner) :
      SessionCourse owner none looks
  | named {earlier later : List Look} {first : Look} {name : String}
      (silent : ∀ look ∈ earlier, look.Silent owner) (captures : first.Captures owner name)
      (follows : ∀ look ∈ later, look.Follows owner name) :
      SessionCourse owner (some name) (earlier ++ first :: later)

namespace Engine

open Dialogue

/-- What one look at a payload can come to. -/
inductive Inspection (payload : Bytes) (session : Tls.Session) :
    Tls.Verdict → Tls.Session → List Call → Prop
  | captures {name : String} (unnamed : session.hostname = none) (names : Names payload name) :
      Inspection payload session (.captured name) { session with hostname := some name } []
  | checks {name : String} {blocked : Bool} (known : session.hostname = some name)
      (data : IsApplicationData payload) :
      Inspection payload session (if blocked then .block else .allow) session
        [.domainCheck name session.owner blocked]
  | passes (nameless : session.hostname = none → Nameless payload)
      (other : ∀ name, session.hostname = some name → name ≠ "" → ¬IsApplicationData payload) :
      Inspection payload session .allow session []

theorem inspectPayload_inspection (payload : Bytes) (session : Tls.Session)
    (host : Collaborators σ) (s : σ) :
    Inspection payload session (inspectPayload payload session host s).value.1
      (inspectPayload payload session host s).value.2
      (inspectPayload payload session host s).calls := by
  have ready : Tls.inspect payload session.hostname = .readyToDecide ↔ _ :=
    Tls.inspect_eq_readyToDecide_iff
  unfold inspectPayload
  cases found : Tls.inspect payload session.hostname with
  | hostname name =>
    have names := Tls.names_of_inspect found
    cases unnamed : session.hostname with
    | none =>
      simp only [Tls.Session.record, unnamed, true_and, if_pos names.ne_empty, pure_apply]
      exact .captures unnamed names
    | some known =>
      -- A later name is not taken; its payload is a handshake record, so nobody is asked.
      simp only [Tls.Session.record, unnamed, reduceCtorEq, false_and, if_false, pure_apply]
      exact .passes (by simp [unnamed]) fun _ _ _ => names.not_isApplicationData
  | readyToDecide =>
    obtain ⟨data, name, known, -⟩ := ready.1 found
    rw [Option.mem_def] at known
    simp only [known]
    exact .checks known data
  | _ =>
    have unnamed (name : String) : Tls.inspect payload session.hostname ≠ .hostname name := by
      rw [found]
      nofun
    refine .passes (fun _ => Tls.nameless_of_inspect unnamed) fun name known nonempty data => ?_
    rw [ready.2 ⟨data, name, known, nonempty⟩] at found
    cases found

theorem genuine_askDomain (hostname : String) (owner : Owner) :
    Genuine (askDomain hostname owner : Dialogue σ Bool) :=
  fun _ _ => .single rfl

theorem genuine_inspectPayload (payload : Bytes) (session : Tls.Session) :
    Genuine (inspectPayload payload session : Dialogue σ (Tls.Verdict × Tls.Session)) := by
  unfold inspectPayload
  cases Tls.inspect payload session.hostname with
  | readyToDecide =>
    cases session.hostname with
    | none => exact genuine_pure _
    | some name => exact (genuine_askDomain name session.owner).bind fun _ => genuine_pure _
  | _ => exact genuine_pure _

theorem inspectTls_eq (engine : Engine) (payload : Bytes) (session : Tls.Session)
    (host : Collaborators σ) (s : σ) :
    engine.inspectTls payload session host s =
      let x := inspectPayload payload session host s
      ⟨(x.value.1, x.value.2, { engine with stats := engine.stats.countVerdict x.value.1 }),
        x.state, x.calls⟩ := by
  simp [inspectTls]

theorem Inspection.course {payload : Bytes} {session session' : Tls.Session}
    {verdict : Tls.Verdict} {calls : List Call} {looks : List Look}
    (h : Inspection payload session verdict session' calls)
    (course : SessionCourse session.owner session.hostname looks) :
    session'.owner = session.owner ∧
      SessionCourse session.owner session'.hostname
        (looks ++ [⟨payload, verdict, session', calls⟩]) := by
  obtain ⟨owner, hostname⟩ := session
  cases course with
  | silent silent =>
    cases h with
    | @captures name unnamed names =>
      exact ⟨rfl, .named silent ⟨names, names.ne_empty, rfl, rfl, rfl⟩ (List.forall_mem_nil _)⟩
    | checks known => cases known
    | passes nameless other =>
      refine ⟨rfl, .silent fun look mem => ?_⟩
      rcases List.mem_append.1 mem with before | now
      · exact silent look before
      · obtain rfl := List.mem_singleton.1 now
        exact ⟨nameless rfl, rfl, rfl, rfl⟩
  | @named earlier later first name silent captures follows =>
    -- The session keeps its name, so all there is to see is that this look follows it.
    suffices last : session' = ⟨owner, some name⟩ ∧
        Look.Follows owner name ⟨payload, verdict, session', calls⟩ by
      obtain ⟨rfl, last⟩ := last
      refine ⟨rfl, ?_⟩
      rw [List.append_assoc, List.cons_append]
      refine .named silent captures fun look mem => ?_
      rcases List.mem_append.1 mem with before | now
      · exact follows look before
      · obtain rfl := List.mem_singleton.1 now
        exact last
    cases h with
    | captures unnamed => cases unnamed
    | @checks _ blocked known data =>
      obtain rfl := Option.some.inj known
      exact ⟨rfl, rfl, fun _ => ⟨blocked, rfl, rfl⟩, fun other => absurd data other⟩
    | passes nameless other =>
      exact ⟨rfl, rfl, fun data => absurd data (other name rfl captures.nonempty),
        fun _ => ⟨rfl, rfl⟩⟩

end Engine

/-- An engine that watches one session, with the collaborators' state and the looks so far. -/
structure Watch (σ : Type) where
  engine : Engine
  session : Tls.Session
  state : σ
  looks : List Look

namespace Watch

def step (host : Collaborators σ) (w : Watch σ) (payload : Bytes) : Watch σ :=
  let x := w.engine.inspectTls payload w.session host w.state
  ⟨x.value.2.2, x.value.2.1, x.state,
    w.looks ++ [⟨payload, x.value.1, x.value.2.1, x.calls⟩]⟩

/-- The payloads of the session arrive in this order. -/
def run (host : Collaborators σ) (w : Watch σ) (payloads : List Bytes) : Watch σ :=
  payloads.foldl (step host) w

/-- The watch has come from this engine, owner and state. The session has gone its course, the
calls were answered, and the counters stand where the verdicts put them. -/
structure From (host : Collaborators σ) (engine : Engine) (owner : Owner) (s : σ) (w : Watch σ) :
    Prop where
  owned : w.session.owner = owner
  course : SessionCourse owner w.session.hostname w.looks
  replays : host.Replays s (w.looks.flatMap Look.calls) w.state
  counted : w.engine = { engine with stats := engine.stats.countLooks w.looks }

variable {host : Collaborators σ} {engine : Engine} {owner : Owner} {s : σ} {w : Watch σ}

theorem step_from (payload : Bytes) (h : From host engine owner s w) :
    From host engine owner s (w.step host payload) := by
  have before : SessionCourse w.session.owner w.session.hostname w.looks := by
    rw [h.owned]
    exact h.course
  obtain ⟨owned, course⟩ :=
    (Engine.inspectPayload_inspection payload w.session host w.state).course before
  rw [h.owned] at owned course
  simp only [step, Engine.inspectTls_eq]
  refine ⟨owned, course, ?_, ?_⟩
  · simp only [List.flatMap_append, List.flatMap_singleton]
    exact h.replays.append (Engine.genuine_inspectPayload payload w.session host w.state)
  · rw [h.counted, Stats.countLooks_append]

theorem run_from (payloads : List Bytes) (h : From host engine owner s w) :
    From host engine owner s (w.run host payloads) := by
  induction payloads generalizing w with
  | nil => exact h
  | cons payload payloads ih => exact ih (step_from payload h)

theorem payloads_run (payloads : List Bytes) :
    (w.run host payloads).looks.map Look.payload = w.looks.map Look.payload ++ payloads := by
  induction payloads generalizing w with
  | nil => simp [run]
  | cons payload payloads ih =>
    change ((w.step host payload).run host payloads).looks.map Look.payload = _
    rw [ih]
    simp [step]

theorem start_from (host : Collaborators σ) (engine : Engine) (owner : Owner) (s : σ) :
    From host engine owner s ⟨engine, { owner := owner }, s, []⟩ where
  owned := rfl
  course := .silent (List.forall_mem_nil _)
  replays := .nil s
  counted := by simp [Stats.countLooks]

end Watch

/-- The law of a TLS session. Whatever payloads arrive for a session that starts without a name,
and whatever the policy answers, there is one look for each payload, the looks follow the course
of a session and leave it with the owner it had and the name of that course, the calls of the
looks are the ones that the collaborators answered, and the two counters of the engine have grown
by the captures and the blocks, while nothing else about it has changed. -/
theorem Engine.inspectTls_session (engine : Engine) (owner : Owner) (host : Collaborators σ)
    (s : σ) (payloads : List Bytes) :
    let w : Watch σ := Watch.run host ⟨engine, { owner := owner }, s, []⟩ payloads
    w.looks.map Look.payload = payloads ∧
      w.session.owner = owner ∧
      SessionCourse owner w.session.hostname w.looks ∧
      host.Replays s (w.looks.flatMap Look.calls) w.state ∧
      w.engine = { engine with stats := engine.stats.countLooks w.looks } := by
  intro w
  have h : w.From host engine owner s :=
    Watch.run_from payloads (Watch.start_from host engine owner s)
  exact ⟨Watch.payloads_run payloads, h.owned, h.course, h.replays, h.counted⟩

section Example

/-- A ClientHello that names the server `a.example`. -/
def exampleHello : Bytes :=
  [22, 3, 1, 0, 62, 1] ++ List.replicate 37 0 ++
    [0, 0, 0, 0, 0, 18, 0, 0, 0, 14, 0, 12, 0, 0, 9, 97, 46, 101, 120, 97, 109, 112, 108, 101]

/-- Application data before and behind the hello: the first is let pass unasked, and about the
second the policy is asked. -/
theorem Engine.inspectTls_session_example :
    let data : Bytes := [23, 3, 3, 0, 0]
    let w := Watch.run (.steady none true) ⟨{ settings := {} }, { owner := .notFound }, (), []⟩
      [data, exampleHello, data]
    w.session.hostname = some "a.example" ∧
      ∃ earlier first later, w.looks = earlier ++ first :: later ∧
        first.Captures .notFound "a.example" ∧
        (∀ look ∈ earlier, look.verdict = .allow ∧ look.calls = []) ∧
        ∀ look ∈ later, look.payload = data → ∃ blocked,
          look.calls = [.domainCheck "a.example" .notFound blocked] ∧
            look.verdict = if blocked then .block else .allow := by
  intro data w
  obtain ⟨-, -, course, -, -⟩ :=
    Engine.inspectTls_session { settings := {} } .notFound (.steady none true) ()
      [data, exampleHello, data]
  have hname : w.session.hostname = some "a.example" := by decide +kernel
  change SessionCourse .notFound w.session.hostname w.looks at course
  refine ⟨hname, ?_⟩
  rw [hname] at course
  generalize w.looks = looks at course ⊢
  cases course with
  | @named earlier later first _ silent captures follows =>
    refine ⟨earlier, first, later, rfl, captures, ?_, ?_⟩
    · exact fun look hlook => ⟨(silent look hlook).verdict, (silent look hlook).calls⟩
    · intro look hlook hpayload
      apply (follows look hlook).asks
      rw [hpayload]
      exact ⟨3, [3, 0, 0], rfl, by decide⟩

end Example

end TunnelFirewall
