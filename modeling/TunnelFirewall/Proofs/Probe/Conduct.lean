import TunnelFirewall.Probe.Wait
import TunnelFirewall.Proofs.Outer.Probe

/-!
# The conduct of a wait

The clock and the polls alone decide how many turns of a wait pass and how it ends. The datagrams
are drawn for the turns that passed, so nothing is sent from the turn on in which the descriptor was
ready, a poll failed or the time was up, and no answer of the sink changes that. Each datagram goes
to a public address. The counters hold what was done as far as 64 bits go.
-/
namespace TunnelFirewall.Probe

/-- The polls of one wait, signals passed over, come to this. -/
inductive Polled : List PollEnd → Except IoFailure Bool → Prop
  | interrupted {polls : List PollEnd} {result : Except IoFailure Bool} (h : Polled polls result) :
      Polled (.interrupted :: polls) result
  | failed (failure : IoFailure) (polls : List PollEnd) :
      Polled (.failed failure :: polls) (.error failure)
  | invalid {events : Events} (h : events.invalid = true) (polls : List PollEnd) :
      Polled (.events events :: polls) (.error .badDescriptor)
  | ready {events : Events} (h : events.invalid = false)
      (hready : events.error = true ∨ events.hangup = true ∨ events.readable = true)
      (polls : List PollEnd) : Polled (.events events :: polls) (.ok true)
  | expired (polls : List PollEnd) : Polled (.expired :: polls) (.ok false)
  | quiet {events : Events} (h : events.invalid = false) (herror : events.error = false)
      (hhangup : events.hangup = false) (hreadable : events.readable = false)
      (polls : List PollEnd) : Polled (.events events :: polls) (.ok false)

theorem readiness_eq_some_iff {polls : List PollEnd} {result : Except IoFailure Bool} :
    readiness .readable polls = some result ↔ Polled polls result := by
  constructor
  · intro h
    induction polls with
    | nil => cases h
    | cons poll polls ih =>
      cases poll with
      | interrupted => exact .interrupted (ih h)
      | failed failure => cases h; exact .failed failure polls
      | expired => cases h; exact .expired polls
      | events events =>
        rw [readiness] at h
        cases hinvalid : events.invalid with
        | true =>
          simp only [hinvalid, if_true, Option.some.injEq] at h
          subst h
          exact .invalid hinvalid polls
        | false =>
          by_cases hready : events.error = true ∨ events.hangup = true ∨ events.readable = true
          · have hresult : result = .ok true := by
              rcases hready with h' | h' | h' <;> simp_all [Events.has]
            rw [hresult]
            exact .ready hinvalid hready polls
          · simp only [not_or, Bool.not_eq_true] at hready
            obtain ⟨herror, hhangup, hreadable⟩ := hready
            simp only [hinvalid, herror, hhangup, hreadable, Events.has, Bool.or_false,
              Bool.false_eq_true, if_false, Option.some.injEq] at h
            subst h
            exact .quiet hinvalid herror hhangup hreadable polls
  · intro h
    induction h with
    | interrupted h ih => exact ih
    | failed failure polls => rfl
    | invalid h polls => simp [readiness, h]
    | ready h hready polls =>
      rcases hready with h' | h' | h' <;> simp [readiness, Events.has, h, h']
    | expired polls => rfl
    | quiet h herror hhangup hreadable polls =>
      simp [readiness, Events.has, h, herror, hhangup, hreadable]

/-- The overall timeout in nanoseconds. -/
def timeLimit (settings : ProbeSettings) : Nat := settings.overallTimeout.toNat * 1000000

/-- The time is not up and the descriptor is not ready. -/
structure Turn.Passes (settings : ProbeSettings) (turn : Turn) : Prop where
  inTime : turn.elapsed < timeLimit settings
  unready : Polled (turn.reports settings) (.ok false)

/-- The turns of a wait that pass before anything else, and how the wait ends after them. -/
inductive Course (settings : ProbeSettings) (passed : List Turn) : List Turn → Ending → Prop
  | unended : Course settings passed passed .waiting
  | unanswered {turn : Turn} (later : List Turn) (htime : turn.elapsed < timeLimit settings)
      (hpolls : ∀ result, ¬Polled (turn.reports settings) result) :
      Course settings passed (passed ++ turn :: later) .waiting
  | timeUp {turn : Turn} (later : List Turn) (htime : timeLimit settings ≤ turn.elapsed) :
      Course settings passed (passed ++ turn :: later) (.timedOut turn.elapsed)
  | failed {turn : Turn} (later : List Turn) (htime : turn.elapsed < timeLimit settings)
      {failure : IoFailure} (hpolls : Polled (turn.reports settings) (.error failure)) :
      Course settings passed (passed ++ turn :: later) (.pollFailed failure)
  | ready {turn : Turn} (later : List Turn) (htime : turn.elapsed < timeLimit settings)
      (hpolls : Polled (turn.reports settings) (.ok true)) :
      Course settings passed (passed ++ turn :: later) (.up turn.elapsedAfter)

theorem Course.cons {settings : ProbeSettings} {passed turns : List Turn} {ending : Ending}
    (turn : Turn) (h : Course settings passed turns ending) :
    Course settings (turn :: passed) (turn :: turns) ending := by
  cases h with
  | unended => exact .unended
  | unanswered later htime hpolls => exact .unanswered later htime hpolls
  | timeUp later htime => exact .timeUp later htime
  | failed later htime hpolls => exact .failed later htime hpolls
  | ready later htime hpolls => exact .ready later htime hpolls

theorem Course.length_le {settings : ProbeSettings} {passed turns : List Turn} {ending : Ending}
    (h : Course settings passed turns ending) : passed.length ≤ turns.length := by
  cases h with
  | unended => exact Nat.le_refl _
  | unanswered | timeUp | failed | ready => exact (List.sublist_append_left _ _).length_le

/-- The versions that are tried when a wait has passed. -/
def versions (settings : ProbeSettings) : List IpVersion :=
  .v4 :: if settings.ipv6 then [.v6] else []

/-- How many probes a turn tries. -/
def tries (settings : ProbeSettings) : Nat := if settings.ipv6 then 2 else 1

theorem length_versions (settings : ProbeSettings) :
    (versions settings).length = tries settings := by
  unfold versions tries
  split <;> rfl

theorem ipv6_of_mem_versions {settings : ProbeSettings} (h : .v6 ∈ versions settings) :
    settings.ipv6 = true := by
  cases hipv6 : settings.ipv6 with
  | true => rfl
  | false => simp [versions, hipv6] at h

/-- What a sink answers to datagrams one after the other, and its state then. -/
def Sink.replay {σ : Type} (sink : Sink σ) (s : σ) :
    List Datagram → List (Except IoFailure Nat) × σ
  | [] => ([], s)
  | datagram :: rest =>
    ((sink datagram s).1 :: (Sink.replay sink (sink datagram s).2 rest).1,
      (Sink.replay sink (sink datagram s).2 rest).2)

theorem Sink.replay_append {σ : Type} (sink : Sink σ) (s : σ) (front : List Datagram)
    (datagram : Datagram) :
    sink.replay s (front ++ [datagram]) =
      ((sink.replay s front).1 ++ [(sink datagram (sink.replay s front).2).1],
        (sink datagram (sink.replay s front).2).2) := by
  induction front generalizing s with
  | nil => rfl
  | cons first front ih => simp only [List.cons_append, Sink.replay, ih]

theorem Sink.length_replay {σ : Type} (sink : Sink σ) (s : σ) (datagrams : List Datagram) :
    (sink.replay s datagrams).1.length = datagrams.length := by
  induction datagrams generalizing s with
  | nil => rfl
  | cons datagram datagrams ih => rw [Sink.replay, List.length_cons, ih, List.length_cons]

/-- How many datagrams were taken. -/
def taken (answers : List (Except IoFailure Nat)) : Nat := answers.countP Except.isOk

/-- How many datagrams were refused. -/
def refused (answers : List (Except IoFailure Nat)) : Nat := answers.countP fun a => !a.isOk

theorem taken_append (answers : List (Except IoFailure Nat)) (answer : Except IoFailure Nat) :
    taken (answers ++ [answer]) = taken answers + answer.isOk.toNat := by
  cases answer <;> simp [taken, Except.isOk, Except.toBool]

theorem refused_append (answers : List (Except IoFailure Nat)) (answer : Except IoFailure Nat) :
    refused (answers ++ [answer]) = refused answers + (!answer.isOk).toNat := by
  cases answer <;> simp [refused, Except.isOk, Except.toBool]

theorem taken_add_refused (answers : List (Except IoFailure Nat)) :
    taken answers + refused answers = answers.length := by
  have hsplit := List.length_eq_countP_add_countP (l := answers) Except.isOk
  simp only [Bool.not_eq_true, Bool.decide_eq_false] at hsplit
  exact hsplit.symm

section

variable [Networks] {ρ : Type}

/-- The datagrams that tries of these versions make, one after the other. -/
def randomProbes (settings : ProbeSettings) (chance : Chance ρ) :
    List IpVersion → StateM ρ (List Datagram)
  | [] => return []
  | version :: rest => do
    let datagram? ← randomProbe? chance settings version
    let later ← randomProbes settings chance rest
    return datagram?.toList ++ later

/-- What tries of these versions make, the last one after the others. -/
theorem randomProbes_append (settings : ProbeSettings) (chance : Chance ρ)
    (front : List IpVersion) (version : IpVersion) (r : ρ) :
    randomProbes settings chance (front ++ [version]) r =
      ((randomProbes settings chance front r).1 ++ (randomProbe? chance settings version
          (randomProbes settings chance front r).2).1.toList,
        (randomProbe? chance settings version (randomProbes settings chance front r).2).2) := by
  have hcons (version : IpVersion) (rest : List IpVersion) (r : ρ) :
      randomProbes settings chance (version :: rest) r =
        ((randomProbe? chance settings version r).1.toList ++
            (randomProbes settings chance rest (randomProbe? chance settings version r).2).1,
          (randomProbes settings chance rest (randomProbe? chance settings version r).2).2) := rfl
  induction front generalizing r with
  | nil =>
    rw [List.nil_append, hcons]
    exact congrArg (·, _) (List.append_nil _)
  | cons first front ih => rw [List.cons_append, hcons, hcons, ih, List.append_assoc]

theorem isProbe_of_mem_randomProbes (hnetworks : Networks.Lawful) {chance : Chance ρ}
    (hchance : chance.Lawful) {settings : ProbeSettings} {tried : List IpVersion}
    (htried : ∀ version ∈ tried, version ∈ versions settings) {r : ρ} {datagram : Datagram}
    (h : datagram ∈ (randomProbes settings chance tried r).1) : datagram.IsProbe settings := by
  induction tried generalizing r with
  | nil => cases h
  | cons version tried ih =>
    obtain ⟨hversion, htried⟩ := List.forall_mem_cons.1 htried
    rcases List.mem_append.1 h with hfirst | hlater
    · rw [Option.mem_toList] at hfirst
      apply isProbe_of_randomProbe? hnetworks hchance _ hfirst
      rintro rfl
      exact ipv6_of_mem_versions hversion
    · exact ih htried hlater

end

/-- The versions that are tried in so many turns. -/
def versionsIn (settings : ProbeSettings) (turns : Nat) : List IpVersion :=
  (List.replicate turns (versions settings)).flatten

theorem length_versionsIn (settings : ProbeSettings) (turns : Nat) :
    (versionsIn settings turns).length = turns * tries settings := by
  rw [versionsIn, List.length_flatten, List.map_replicate, List.sum_replicate_nat, length_versions]

theorem mem_versions_of_mem_versionsIn {settings : ProbeSettings} {turns : Nat}
    {version : IpVersion} (h : version ∈ versionsIn settings turns) :
    version ∈ versions settings := by
  obtain ⟨row, hrow, hversion⟩ := List.mem_flatten.1 h
  rwa [List.eq_of_mem_replicate hrow] at hversion

/-- The report of a wait in which so many turns passed and the sink gave these answers: each turn is
one iteration with as many tries as there are versions, every try is counted once, and what the sink
took and refused is counted. This holds as far as 64 bits go, and exactly if the tries are fewer. -/
structure Report.Balances (settings : ProbeSettings) (turns : Nat)
    (answers : List (Except IoFailure Nat)) (report : Report) : Prop where
  iterations : report.iterations = .ofNat turns
  tried : report.sent + report.skipped + report.sendErrors =
    report.iterations * .ofNat (tries settings)
  sent : report.sent = .ofNat (taken answers)
  sendErrors : report.sendErrors = .ofNat (refused answers)
  inRange : turns * tries settings < UInt64.size →
    report.iterations.toNat = turns ∧
    report.sent.toNat + report.skipped.toNat + report.sendErrors.toNat =
      report.iterations.toNat * tries settings ∧
    report.sent.toNat = taken answers ∧ report.sendErrors.toNat = refused answers

namespace Wait

variable [Networks] {ρ σ : Type} {settings : ProbeSettings} {chance : Chance ρ} {sink : Sink σ}
  {r : ρ} {s : σ} {tried : List IpVersion} {wait : Wait ρ σ}

/-- After these tries the datagrams that they drew have been offered, the report counts the sink's
answers to them and the tries without a datagram, as far as 64 bits go, and chance and the sink are
as they were left. -/
structure Counts (settings : ProbeSettings) (chance : Chance ρ) (sink : Sink σ) (r : ρ) (s : σ)
    (tried : List IpVersion) (wait : Wait ρ σ) : Prop where
  offered : wait.offered = (randomProbes settings chance tried r).1
  random : wait.random = (randomProbes settings chance tried r).2
  sent : wait.report.sent = .ofNat (taken (sink.replay s wait.offered).1)
  sendErrors : wait.report.sendErrors = .ofNat (refused (sink.replay s wait.offered).1)
  skipped : wait.report.skipped = .ofNat (tried.length - wait.offered.length)
  offered_le : wait.offered.length ≤ tried.length
  sink : wait.sink = (sink.replay s wait.offered).2

theorem Counts.start (settings : ProbeSettings) (chance : Chance ρ) (sink : Sink σ) (r : ρ)
    (s : σ) : Counts settings chance sink r s [] { random := r, sink := s } where
  offered := rfl
  random := rfl
  sent := rfl
  sendErrors := rfl
  skipped := rfl
  offered_le := Nat.le_refl 0
  sink := rfl

/-- What one try can do. -/
inductive Tries (settings : ProbeSettings) (chance : Chance ρ) (sink : Sink σ)
    (version : IpVersion) (wait : Wait ρ σ) : Wait ρ σ → Prop
  | skipped {random : ρ}
      (hdraw : randomProbe? chance settings version wait.random = (none, random)) :
      Tries settings chance sink version wait
        ⟨{ wait.report with skipped := wait.report.skipped + 1 }, wait.offered, random, wait.sink⟩
  | taken {datagram : Datagram} {random : ρ} {size : Nat} {after : σ}
      (hdraw : randomProbe? chance settings version wait.random = (some datagram, random))
      (hanswer : sink datagram wait.sink = (.ok size, after)) :
      Tries settings chance sink version wait
        ⟨{ wait.report with sent := wait.report.sent + 1 }, wait.offered ++ [datagram], random,
          after⟩
  | refused {datagram : Datagram} {random : ρ} {failure : IoFailure} {after : σ}
      (hdraw : randomProbe? chance settings version wait.random = (some datagram, random))
      (hanswer : sink datagram wait.sink = (.error failure, after)) :
      Tries settings chance sink version wait
        ⟨{ wait.report with sendErrors := wait.report.sendErrors + 1 },
          wait.offered ++ [datagram], random, after⟩

theorem probe_tries (settings : ProbeSettings) (chance : Chance ρ) (sink : Sink σ)
    (version : IpVersion) (wait : Wait ρ σ) :
    Tries settings chance sink version wait (wait.probe settings chance sink version) := by
  cases hdraw : randomProbe? chance settings version wait.random with
  | mk datagram? random =>
    cases datagram? with
    | none =>
      rw [probe, hdraw]
      exact .skipped hdraw
    | some datagram =>
      rcases hanswer : sink datagram wait.sink with ⟨_ | size, after⟩
      · simp only [probe, hdraw, send, hanswer]
        exact .refused hdraw hanswer
      · simp only [probe, hdraw, send, hanswer]
        exact .taken hdraw hanswer

variable {version : IpVersion} {next : Wait ρ σ}

theorem Tries.iterations_eq (h : Tries settings chance sink version wait next) :
    next.report.iterations = wait.report.iterations := by
  cases h <;> rfl

theorem Counts.step (hcounts : Counts settings chance sink r s tried wait)
    (h : Tries settings chance sink version wait next) :
    Counts settings chance sink r s (tried ++ [version]) next := by
  obtain ⟨hoffered, hrandom, hsent, herrors, hskipped, hle, hsink⟩ := hcounts
  have hdrawn := randomProbes_append settings chance tried version r
  rw [← hoffered, ← hrandom] at hdrawn
  have hreplay := sink.replay_append s wait.offered
  rw [← hsink] at hreplay
  have hone (n : Nat) : UInt64.ofNat (n + 1) = .ofNat n + 1 := UInt64.ofNat_add n 1
  -- every field comes down to what this try adds to what was counted before
  cases h with
  | skipped hdraw =>
    rw [hdraw] at hdrawn
    constructor <;> simp [hdrawn, hsent, herrors, hskipped, hsink, Nat.succ_sub hle, hone]
    omega
  | taken hdraw hanswer =>
    rw [hdraw] at hdrawn
    constructor <;> simp [hdrawn, hreplay, hanswer, taken_append, refused_append, Except.isOk,
      Except.toBool, hsent, herrors, hskipped, hone, hle]
  | refused hdraw hanswer =>
    rw [hdraw] at hdrawn
    constructor <;> simp [hdrawn, hreplay, hanswer, taken_append, refused_append, Except.isOk,
      Except.toBool, hsent, herrors, hskipped, hone, hle]

theorem Counts.probes (h : Counts settings chance sink r s tried wait) :
    Counts settings chance sink r s (tried ++ versions settings)
      (wait.probes settings chance sink) := by
  have hstart : Counts settings chance sink r s tried
      { wait with report.iterations := wait.report.iterations + 1 } :=
    ⟨h.offered, h.random, h.sent, h.sendErrors, h.skipped, h.offered_le, h.sink⟩
  have hfirst := hstart.step (probe_tries settings chance sink .v4 _)
  unfold Wait.probes versions
  split
  · have hsecond := hfirst.step (probe_tries settings chance sink .v6 _)
    rwa [List.append_assoc] at hsecond
  · exact hfirst

theorem iterations_probes (settings : ProbeSettings) (chance : Chance ρ) (sink : Sink σ)
    (wait : Wait ρ σ) :
    (wait.probes settings chance sink).report.iterations = wait.report.iterations + 1 := by
  have hprobe (version : IpVersion) (wait : Wait ρ σ) :
      (wait.probe settings chance sink version).report.iterations = wait.report.iterations :=
    (probe_tries settings chance sink version wait).iterations_eq
  unfold probes
  split
  · rw [hprobe, hprobe]
  · rw [hprobe]

/-- The wait after so many turns that all pass. -/
def afterTurns (settings : ProbeSettings) (chance : Chance ρ) (sink : Sink σ) :
    Nat → Wait ρ σ → Wait ρ σ
  | 0, wait => wait
  | turns + 1, wait => afterTurns settings chance sink turns (wait.probes settings chance sink)

theorem Counts.afterTurns (h : Counts settings chance sink r s tried wait) (turns : Nat) :
    Counts settings chance sink r s (tried ++ versionsIn settings turns)
      (wait.afterTurns settings chance sink turns) := by
  induction turns generalizing tried wait with
  | zero =>
    rw [versionsIn, List.replicate_zero, List.flatten_nil, List.append_nil]
    exact h
  | succ turns ih =>
    have hrest := ih h.probes
    rwa [List.append_assoc] at hrest

theorem iterations_afterTurns (settings : ProbeSettings) (chance : Chance ρ) (sink : Sink σ)
    (wait : Wait ρ σ) (turns : Nat) :
    (wait.afterTurns settings chance sink turns).report.iterations =
      wait.report.iterations + .ofNat turns := by
  induction turns generalizing wait with
  | zero => exact (UInt64.add_zero _).symm
  | succ turns ih =>
    rw [afterTurns, ih, iterations_probes, UInt64.add_assoc, Nat.add_comm, UInt64.ofNat_add]
    rfl

/-- Some turns pass, whatever chance and the sink do, and the next one ends the wait. -/
theorem run_course (settings : ProbeSettings) (turns : List Turn) :
    ∃ passed ending, (∀ turn ∈ passed, turn.Passes settings) ∧
      Course settings passed turns ending ∧
      ∀ {ρ σ : Type} (chance : Chance ρ) (sink : Sink σ) (wait : Wait ρ σ),
        run settings chance sink turns wait =
          (wait.afterTurns settings chance sink passed.length, ending) := by
  induction turns with
  | nil => exact ⟨[], .waiting, by simp, .unended, fun chance sink wait => rfl⟩
  | cons turn turns ih =>
    by_cases htime : settings.overallTimeout.toNat * 1000000 ≤ turn.elapsed
    · refine ⟨[], .timedOut turn.elapsed, by simp, .timeUp turns htime, ?_⟩
      intro ρ σ chance sink wait
      exact if_pos htime
    · have hinTime : turn.elapsed < timeLimit settings := Nat.lt_of_not_le htime
      cases hpolls : readiness .readable (turn.reports settings) with
      | none =>
        refine ⟨[], .waiting, by simp, .unanswered turns hinTime ?_, ?_⟩
        · intro result hpolled
          rw [readiness_eq_some_iff.2 hpolled] at hpolls
          cases hpolls
        · intro ρ σ chance sink wait
          rw [run, if_neg htime, hpolls]
          rfl
      | some result =>
        have hpolled := readiness_eq_some_iff.1 hpolls
        cases result with
        | error failure =>
          refine ⟨[], .pollFailed failure, by simp, .failed turns hinTime hpolled, ?_⟩
          intro ρ σ chance sink wait
          rw [run, if_neg htime, hpolls]
          rfl
        | ok isReady =>
          cases isReady with
          | true =>
            refine ⟨[], .up turn.elapsedAfter, by simp, .ready turns hinTime hpolled, ?_⟩
            intro ρ σ chance sink wait
            rw [run, if_neg htime, hpolls]
            rfl
          | false =>
            obtain ⟨passed, ending, hpassed, hcourse, hafter⟩ := ih
            refine ⟨turn :: passed, ending, ?_, hcourse.cons turn, ?_⟩
            · intro other hother
              rcases List.mem_cons.1 hother with rfl | hother
              · exact ⟨hinTime, hpolled⟩
              · exact hpassed other hother
            · intro ρ σ chance sink wait
              rw [run, if_neg htime, hpolls]
              exact hafter chance sink (wait.probes settings chance sink)

/-- Every try was taken, refused or skipped, so the three counters come to the tries. -/
theorem Counts.balances {turns : Nat}
    (h : Counts settings chance sink r s (versionsIn settings turns) wait)
    (hiterations : wait.report.iterations = .ofNat turns) :
    wait.report.Balances settings turns (sink.replay s wait.offered).1 := by
  have hsplit := taken_add_refused (sink.replay s wait.offered).1
  have hle := h.offered_le
  have hskipped := h.skipped
  rw [Sink.length_replay] at hsplit
  rw [length_versionsIn] at hle hskipped
  constructor
  case iterations => exact hiterations
  case sent => exact h.sent
  case sendErrors => exact h.sendErrors
  case tried =>
    rw [h.sent, hskipped, h.sendErrors, hiterations, ← UInt64.ofNat_add, ← UInt64.ofNat_add,
      ← UInt64.ofNat_mul]
    congr 1
    omega
  case inRange =>
    intro hfew
    have hturns : turns ≤ turns * tries settings := by
      apply Nat.le_mul_of_pos_right
      unfold tries
      split <;> decide
    have hexact {n : Nat} (hn : n ≤ turns * tries settings) : (UInt64.ofNat n).toNat = n :=
      UInt64.toNat_ofNat_of_lt' (Nat.lt_of_le_of_lt hn hfew)
    rw [h.sent, hskipped, h.sendErrors, hiterations, hexact hturns, hexact (by omega),
      hexact (by omega), hexact (by omega)]
    refine ⟨rfl, ?_, rfl, rfl⟩
    omega

/-- How a wait is conducted. Turns pass as long as there is time and the polls find nothing, and
the next turn ends the wait, whatever chance and the sink do. The sink gets what is drawn for the
turns that passed, less the reserved addresses, and nothing else, and each datagram may be sent. The
report counts the turns, their tries and the answers of the sink, and so does the error of a
timeout. -/
theorem run_conduct (hnetworks : Networks.Lawful) (settings : ProbeSettings) (turns : List Turn) :
    ∃ passed ending, (∀ turn ∈ passed, turn.Passes settings) ∧
      Course settings passed turns ending ∧
      ∀ {ρ : Type} (chance : Chance ρ) (r : ρ),
        let drawn := (randomProbes settings chance (versionsIn settings passed.length) r).1
        (chance.Lawful → ∀ datagram ∈ drawn, datagram.IsProbe settings) ∧
        ∀ {σ : Type} (sink : Sink σ) (s : σ),
          let x := run settings chance sink turns { random := r, sink := s }
          let answers := (sink.replay s x.1.offered).1
          x.2 = ending ∧
            x.1.offered = drawn ∧
            x.1.sink = (sink.replay s x.1.offered).2 ∧
            x.1.report.Balances settings passed.length answers ∧
            ∀ elapsed sent, x.1.error? x.2 = some (.timeout elapsed sent) →
              sent = x.1.report.sent := by
  obtain ⟨passed, ending, hpassed, hcourse, hrun⟩ := run_course settings turns
  refine ⟨passed, ending, hpassed, hcourse, ?_⟩
  intro ρ chance r drawn
  constructor
  · intro hchance datagram hdatagram
    apply isProbe_of_mem_randomProbes hnetworks hchance _ hdatagram
    exact fun version => mem_versions_of_mem_versionsIn
  · intro σ sink s x answers
    have hx : x = _ := hrun chance sink { random := r, sink := s }
    have hcounts : Counts settings chance sink r s (versionsIn settings passed.length) x.1 := by
      rw [hx]
      exact (Counts.start settings chance sink r s).afterTurns passed.length
    have hiterations : x.1.report.iterations = .ofNat passed.length := by
      rw [hx, iterations_afterTurns]
      exact UInt64.zero_add _
    refine ⟨by rw [hx], hcounts.offered, hcounts.sink, hcounts.balances hiterations, ?_⟩
    intro elapsed sent herror
    cases hending : x.2 with
    | timedOut time =>
      rw [hending] at herror
      cases herror
      rfl
    | up _ | pollFailed _ | waiting => rw [hending] at herror; cases herror

end Wait

section Example

/-- A descriptor that becomes ready after one wait, behind a signal. -/
def oneWait : List Turn :=
  [⟨0, fun _ => [.expired], 0⟩,
    ⟨300000000, fun _ => [.interrupted, .events { readable := true }], 400000000⟩]

/-- A sink that refuses every other datagram. -/
def everyOther : Sink Bool := fun datagram refuses =>
  (if refuses then .error .badDescriptor else .ok datagram.payload.length, !refuses)

theorem run_conduct_oneWait :
    let settings : ProbeSettings := { ipv6 := true, minSize := 9, maxSize := 3 }
    let x := Wait.run settings congruential everyOther oneWait { random := 7, sink := true }
    x.2 = .up 400000000 ∧ (∀ datagram ∈ x.1.offered, datagram.IsProbe settings) ∧
      x.1.report.sent.toNat + x.1.report.skipped.toNat + x.1.report.sendErrors.toNat =
        x.1.report.iterations.toNat * 2 := by
  intro settings
  dsimp only
  obtain ⟨passed, ending, hpassed, hcourse, hrun⟩ :=
    Wait.run_conduct prefixNetworks_lawful settings oneWait
  obtain ⟨hprobes, hsinks⟩ := hrun congruential 7
  obtain ⟨-, hoffered, -, hbalances, -⟩ := hsinks everyOther true
  have htries : tries settings = 2 := rfl
  have hfew : passed.length * tries settings < UInt64.size := by
    have hle : passed.length ≤ 2 := hcourse.length_le
    rw [htries]
    unfold UInt64.size
    omega
  have hlimit : settings.overallTimeout.toNat = 60000 := rfl
  have hsum := (hbalances.inRange hfew).2.1
  rw [htries] at hsum
  refine ⟨?_, ?_, hsum⟩
  · simp [Wait.run, oneWait, hlimit, Turn.reports, readiness, Events.has]
  · rw [hoffered]
    exact hprobes congruential_lawful

end Example

end TunnelFirewall.Probe
