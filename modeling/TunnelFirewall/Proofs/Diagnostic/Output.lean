import TunnelFirewall.Proofs.Diagnostic.Blocking
import TunnelFirewall.Proofs.Diagnostic.Independence
import TunnelFirewall.Proofs.Text.Line

/-!
# The output of a run

What a run prints is settled by the engine's settings, the blocked domains and the packets that its
input offers. The lines that offer none, the connection tables and the time make no difference. A
report is one line of output, unless it quotes a server name in which a line ends.
-/
namespace TunnelFirewall.Diagnostic

namespace Journal

variable [HexDecoder]

theorem bytes_run (j : Journal) (packets : List (Bytes × Surroundings)) :
    (j.run packets).entries.map Entry.bytes =
      j.entries.map Entry.bytes ++ packets.map Prod.fst := by
  induction packets generalizing j with
  | nil => simp [run]
  | cons packet packets ih =>
    have hstep := ih (j.step packet)
    simpa [run, step, entry] using hstep

theorem run_alike {j j' : Journal} (halike : j.state.Alike j'.state)
    (hentries : j.entries = j'.entries) {packets packets' : List (Bytes × Surroundings)}
    (hsame : packets.map Prod.fst = packets'.map Prod.fst) :
    (j.run packets).entries = (j'.run packets').entries := by
  induction packets generalizing j j' packets' with
  | nil =>
    obtain rfl : packets' = [] := by simpa using hsame.symm
    exact hentries
  | cons packet packets ih =>
    obtain ⟨packet', rest, rfl, hbytes, hrest⟩ := List.map_eq_cons_iff.1 hsame.symm
    obtain ⟨bytes, around⟩ := packet
    obtain ⟨bytes', around'⟩ := packet'
    obtain rfl : bytes' = bytes := hbytes
    -- The same bytes in two surroundings: the states may come apart in their owners, no further.
    obtain ⟨hreport, hafter⟩ := State.take_alike halike bytes' around around'
    have hstep : (j.step (bytes', around)).entries = (j'.step (bytes', around')).entries := by
      simp only [step, entry, hreport, hentries]
    exact ih hafter hstep hrest.symm

end Journal

section Lines

variable [HexDecoder] {mtu : Nat} {line : String} {bytes : Bytes} {lines : List (Option String)}
  {taken : List Bytes}

/-- The line, trimmed, is neither empty nor a comment, and spells the bytes of a packet that is not
too long. -/
structure Accepts (mtu : Nat) (line : String) (bytes : Bytes) : Prop where
  filled : Text.trim line.toList ≠ []
  uncommented : (Text.trim line.toList).head? ≠ some '#'
  spells : Hex.decode (String.ofList (Text.trim line.toList)) = .ok bytes
  short : bytes.length ≤ mtu

theorem packetOfLine?_eq_some_iff :
    packetOfLine? mtu line = some bytes ↔ Accepts mtu line bytes := by
  unfold packetOfLine?
  split
  case h_1 empty =>
    have hrefused : ¬Accepts mtu line bytes := fun h => h.filled empty
    simp [hrefused]
  case h_2 rest comment =>
    have hrefused : ¬Accepts mtu line bytes := fun h => h.uncommented (by rw [comment]; rfl)
    simp [hrefused]
  case h_3 filled uncommented =>
    have haccepts : Accepts mtu line bytes ↔
        Hex.decode (String.ofList (Text.trim line.toList)) = .ok bytes ∧ bytes.length ≤ mtu := by
      constructor
      · intro h
        exact ⟨h.spells, h.short⟩
      · rintro ⟨spells, short⟩
        refine ⟨filled, fun hhead => ?_, spells, short⟩
        obtain ⟨rest, comment⟩ := List.head?_eq_some_iff.1 hhead
        exact uncommented rest comment
    rw [haccepts]
    cases Hex.decode (String.ofList (Text.trim line.toList)) with
    | error e => simp
    | ok other =>
      simp only [Option.ite_none_right_eq_some, Option.some.injEq, Except.ok.injEq]
      constructor
      · rintro ⟨short, rfl⟩
        exact ⟨rfl, short⟩
      · rintro ⟨rfl, short⟩
        exact ⟨short, rfl⟩

theorem packetOfLine?_eq_none_iff :
    packetOfLine? mtu line = none ↔ ∀ bytes, ¬Accepts mtu line bytes := by
  simp only [Option.eq_none_iff_forall_ne_some, ← packetOfLine?_eq_some_iff, ne_eq]

/-- The accepted lines are, in order, those of the packets taken. -/
inductive Sift (mtu : Nat) : List (Option String) → List Bytes → Prop
  | done : Sift mtu [] []
  | accepted {line : String} {bytes : Bytes} {lines : List (Option String)} {taken : List Bytes}
      (accepts : Accepts mtu line bytes) (rest : Sift mtu lines taken) :
      Sift mtu (some line :: lines) (bytes :: taken)
  | skipped {line : String} {lines : List (Option String)} {taken : List Bytes}
      (skips : ∀ bytes, ¬Accepts mtu line bytes) (rest : Sift mtu lines taken) :
      Sift mtu (some line :: lines) taken

theorem sift_iff : Sift mtu lines taken ↔
    lines.all Option.isSome ∧ lines.filterMap (·.bind (packetOfLine? mtu)) = taken := by
  constructor
  · intro h
    induction h with
    | done => simp
    | @accepted line bytes lines taken accepts rest ih =>
      simpa [packetOfLine?_eq_some_iff.2 accepts] using ih
    | @skipped line lines taken skips rest ih =>
      simpa [packetOfLine?_eq_none_iff.2 skips] using ih
  · rintro ⟨hall, rfl⟩
    induction lines with
    | nil => exact .done
    | cons line lines ih =>
      obtain ⟨hline, hrest⟩ := Bool.and_eq_true_iff.1 hall
      obtain ⟨line, rfl⟩ := Option.isSome_iff_exists.1 hline
      cases taken : packetOfLine? mtu line with
      | none =>
        have skips := packetOfLine?_eq_none_iff.1 taken
        simpa [taken] using Sift.skipped skips (ih hrest)
      | some bytes =>
        have accepts := packetOfLine?_eq_some_iff.1 taken
        simpa [taken] using Sift.accepted accepts (ih hrest)

theorem Sift.packets_eq (h : Sift mtu lines taken) {input : List (Option String × Surroundings)}
    (hlines : input.map Prod.fst = lines) : (packets mtu input).map Prod.fst = taken := by
  induction h generalizing input with
  | done =>
    obtain rfl : input = [] := by simpa using hlines
    rfl
  | accepted accepts rest ih =>
    obtain ⟨⟨line, around⟩, input, rfl, rfl, hrest⟩ := List.map_eq_cons_iff.1 hlines
    simp [packets, packetOfLine?_eq_some_iff.2 accepts, ih hrest]
  | @skipped line lines taken skips rest ih =>
    obtain ⟨⟨line, around⟩, input, rfl, rfl, hrest⟩ := List.map_eq_cons_iff.1 hlines
    simp [packets, packetOfLine?_eq_none_iff.2 skips, ih hrest]

theorem failure_run {input : List (Option String × Surroundings)}
    (h : ∀ line ∈ input.map Prod.fst, line.isSome) (state : State) :
    (state.run input).2 = none := by
  induction input generalizing state with
  | nil => rfl
  | cons entry input ih =>
    obtain ⟨line, around⟩ := entry
    obtain ⟨hline, hrest⟩ := List.forall_mem_cons.1 h
    obtain ⟨line, rfl⟩ := Option.isSome_iff_exists.1 hline
    exact ih hrest _

end Lines

section Text

/-- No line ends within the text. -/
def Unbroken (text : String) : Prop := '\n' ∉ text.toList

instance (text : String) : Decidable (Unbroken text) :=
  inferInstanceAs (Decidable ('\n' ∉ text.toList))

theorem unbroken_append {front back : String} :
    Unbroken (front ++ back) ↔ Unbroken front ∧ Unbroken back := by
  simp [Unbroken]

theorem unbroken_number (n : Nat) : Unbroken (toString n) := by
  have hdigit : ∀ c ∈ Nat.toDigits 10 n, c.isDigit := fun c hc =>
    Nat.isDigit_of_mem_toDigits (by decide) (by decide) hc
  intro hmem
  rw [Nat.toString_eq_repr, Nat.toList_repr] at hmem
  exact absurd (hdigit '\n' hmem) (by decide)

theorem unbroken_name (layer : Layer) : Unbroken layer.name := by
  cases layer with
  | _ => decide

theorem unbroken_error (e : PacketError) : Unbroken e.message := by
  unfold PacketError.message
  cases e with
  | empty => decide
  | unsupportedVersion version => exact unbroken_append.2 ⟨by decide, unbroken_number version⟩
  | truncated layer need got =>
    simp only [unbroken_append, unbroken_number, unbroken_name, true_and, and_true]
    decide
  | fragmented offset => exact unbroken_append.2 ⟨by decide, unbroken_number offset⟩
  | invalidHeaderLength headerLength packetLength =>
    simp only [unbroken_append, unbroken_number, and_true]
    decide
  | lengthMismatch declared actual =>
    simp only [unbroken_append, unbroken_number, and_true]
    decide
  | badChecksum => decide

theorem unbroken_reason (reason : DropReason) : Unbroken reason.message := by
  unfold DropReason.message
  cases reason with
  | malformed e => exact unbroken_append.2 ⟨by decide, unbroken_error e⟩
  | unsupportedProtocol protocol =>
    exact unbroken_append.2 ⟨by decide, unbroken_number protocol.toNat⟩
  | sessionLimit openSessions max =>
    simp only [unbroken_append, unbroken_number, and_true, true_and]
    decide

theorem unbroken_outcome_take [HexDecoder] (around : Surroundings) (bytes : Bytes) (state : State) :
    Unbroken (state.take around bytes).1.outcome.text := by
  have hdispatch := dispatch_passage state.engine bytes state.blocked around state.desk
  rw [outcome_take]
  cases admitted : state.desk.flows.passage state.engine.settings bytes with
  | error reason =>
    rw [admitted] at hdispatch
    rw [hdispatch.1]
    unfold Outcome.text
    simp only [unbroken_append, unbroken_reason, and_true]
    decide
  | ok p =>
    rw [admitted] at hdispatch
    rw [hdispatch.1]
    exact unbroken_append.2 ⟨by decide, unbroken_number p.protocol.toNat⟩

/-- A report is one line unless it quotes a name that is none. -/
theorem unbroken_text_iff {report : Report} (outcome : Unbroken report.outcome.text) :
    Unbroken report.text ↔ ∀ name, report.verdict = some (.captured name) → Unbroken name := by
  unfold Report.text
  split
  case h_1 name captured =>
    have hmark : Unbroken " sni=" := by decide
    simp [captured, unbroken_append, outcome, hmark]
  case h_2 blocked =>
    have hmark : Unbroken " tls=blocked" := by decide
    simp [blocked, unbroken_append, outcome, hmark]
  case h_3 other _ =>
    constructor
    · intro _ name captured
      exact absurd captured (other name)
    · exact fun _ => outcome

/-- What is printed when these lines are, one after another. -/
def printed (lines : List String) : String := String.join (lines.map (· ++ "\n"))

theorem count_printed_cons (line : String) (lines : List String) :
    (printed (line :: lines)).toList.count '\n' =
      line.toList.count '\n' + 1 + (printed lines).toList.count '\n' := by
  have hfeed : "\n".toList.count '\n' = 1 := by decide
  simp only [printed, List.map_cons, String.join_cons, String.toList_append, List.count_append,
    hfeed]

theorem length_le_count_printed (lines : List String) :
    lines.length ≤ (printed lines).toList.count '\n' := by
  induction lines with
  | nil => exact Nat.zero_le _
  | cons line lines ih =>
    rw [count_printed_cons, List.length_cons]
    omega

theorem count_printed_eq_iff (lines : List String) :
    (printed lines).toList.count '\n' = lines.length ↔ ∀ line ∈ lines, Unbroken line := by
  induction lines with
  | nil => simp [printed]
  | cons line lines ih =>
    have hlength := length_le_count_printed lines
    have hline : Unbroken line ↔ line.toList.count '\n' = 0 := List.count_eq_zero.symm
    rw [count_printed_cons, List.length_cons, List.forall_mem_cons, hline, ← ih]
    omega

/-- The text is made of as many lines as there are packets. -/
def IsLinePer (packets : List Bytes) (text : String) : Prop :=
  ∃ lines : List String, lines.length = packets.length ∧ (∀ line ∈ lines, Unbroken line) ∧
    text = printed lines

theorem isLinePer_printed_iff {packets : List Bytes} {lines : List String}
    (h : lines.length = packets.length) :
    IsLinePer packets (printed lines) ↔ ∀ line ∈ lines, Unbroken line := by
  constructor
  · -- As many line feeds as lines leave none to stand within a line.
    rintro ⟨others, hlength, unbroken, hsame⟩
    have hcount := (count_printed_eq_iff others).2 unbroken
    rw [← count_printed_eq_iff, hsame, hcount, hlength, h]
  · exact fun unbroken => ⟨lines, h, unbroken, rfl⟩

end Text

/-- A run of the diagnostic program: its configuration, the domains it is told to block, the text on
its standard input, and the surroundings in which it takes each line. -/
structure Trial where
  config : Config
  blocked : List String
  input : String
  around : Nat → Surroundings

namespace Trial

variable [HexDecoder] {trial first second : Trial} {packets : List Bytes}

def lines (trial : Trial) : List (Option String × Surroundings) :=
  (Line.texts (Utf8.encode trial.input)).mapIdx fun index line => (line, trial.around index)

/-- The reports of the run, and its failure if it has one. -/
def result (trial : Trial) : List Report × Option IoFailure :=
  (State.start trial.config trial.blocked).run trial.lines

def journal (trial : Trial) : Journal :=
  Journal.ofInput trial.config trial.blocked trial.lines

/-- The text on the standard output. -/
def output (trial : Trial) : String := printed (trial.result.1.map Report.text)

/-- The accepted lines of the input are those of these packets. -/
def Offers (trial : Trial) (packets : List Bytes) : Prop :=
  Sift trial.config.engine.mtu.toNat (Line.texts (Utf8.encode trial.input)) packets

omit [HexDecoder] in
theorem map_fst_lines (trial : Trial) :
    trial.lines.map Prod.fst = Line.texts (Utf8.encode trial.input) := by
  unfold lines
  rw [List.mapIdx_eq_zipIdx_map, List.map_map]
  exact List.zipIdx_map_fst 0 _

theorem failure_eq_none (trial : Trial) : trial.result.2 = none := by
  apply failure_run
  rw [map_fst_lines]
  exact fun line => Line.isSome_of_mem_texts

theorem Offers.packets_eq (h : trial.Offers packets) :
    (Diagnostic.packets trial.config.engine.mtu.toNat trial.lines).map Prod.fst = packets :=
  Sift.packets_eq h trial.map_fst_lines

theorem reports_eq (trial : Trial) :
    trial.result.1 = trial.journal.entries.map Entry.report :=
  Journal.ofInput_reports trial.config trial.blocked trial.lines

theorem Offers.bytes_eq (h : trial.Offers packets) :
    trial.journal.entries.map Entry.bytes = packets := by
  rw [journal, Journal.ofInput, Journal.bytes_run, h.packets_eq]
  rfl

theorem unbroken_outcome {report : Report} (h : report ∈ trial.result.1) :
    Unbroken report.outcome.text := by
  rw [reports_eq] at h
  obtain ⟨entry, hmem, rfl⟩ := List.mem_map.1 h
  obtain ⟨before, after, hsplit⟩ := List.append_of_mem hmem
  obtain ⟨j, packet, -, -, rfl⟩ := Journal.exists_of_run (P := fun _ => True)
    (fun _ _ _ => trivial) trivial hsplit
  exact unbroken_outcome_take packet.2 packet.1 j.state

theorem Offers.isLinePer_iff (h : trial.Offers packets) : IsLinePer packets trial.output ↔
    ∀ report ∈ trial.result.1, ∀ name, report.verdict = some (.captured name) → Unbroken name := by
  have hlength : (trial.result.1.map Report.text).length = packets.length := by
    rw [← h.bytes_eq, reports_eq]
    simp only [List.length_map]
  rw [output, isLinePer_printed_iff hlength, List.forall_mem_map]
  constructor
  · exact fun unbroken report hmem =>
      (unbroken_text_iff (unbroken_outcome hmem)).1 (unbroken report hmem)
  · exact fun unbroken report hmem =>
      (unbroken_text_iff (unbroken_outcome hmem)).2 (unbroken report hmem)

/-- The entries are those of the packets alone, wherever they are taken. -/
theorem Offers.entries_eq (h : trial.Offers packets) (around : Surroundings) :
    trial.journal.entries = (Journal.run ⟨State.start trial.config trial.blocked, []⟩
      (packets.map fun bytes => (bytes, around))).entries := by
  have hself : (State.start trial.config trial.blocked).Alike
      (State.start trial.config trial.blocked) := ⟨rfl, fun _ => rfl, rfl⟩
  unfold journal Journal.ofInput
  apply Journal.run_alike
  · exact hself
  · rfl
  · simp [h.packets_eq, Function.comp_def]

theorem Offers.entries_congr (hfirst : first.Offers packets) (hsecond : second.Offers packets)
    (hengine : first.config.engine = second.config.engine)
    (hblocked : ∀ domain,
      domain ∈ first.blocked.map normalDomain ↔ domain ∈ second.blocked.map normalDomain) :
    first.journal.entries = second.journal.entries := by
  have halike : (State.start first.config first.blocked).Alike
      (State.start second.config second.blocked) :=
    ⟨hengine, isDomainBlocked_congr hblocked, rfl⟩
  unfold journal Journal.ofInput
  apply Journal.run_alike
  · exact halike
  · rfl
  · rw [hfirst.packets_eq, hsecond.packets_eq]

theorem offers_printed_iff {lines : List String} (hinput : trial.input = printed lines)
    (hlines : ∀ line ∈ lines, Unbroken line ∧ '\r' ∉ line.toList) :
    trial.Offers packets ↔
      lines.filterMap (packetOfLine? trial.config.engine.mtu.toNat) = packets := by
  have htexts : Line.texts (Utf8.encode trial.input) = lines.map some := by
    rw [hinput]
    exact Line.texts_join hlines
  rw [Offers, htexts, sift_iff]
  simp [List.filterMap_map, Function.comp_def]

end Trial

/-- Runs with the same settings of the engine and the same blocked domains whose inputs offer the
same packets print the same, one report for each packet. A report is one line of output each time
exactly if no server name that is captured has a line feed in it. -/
theorem output_of_packets [HexDecoder] {first second : Trial} {packets : List Bytes}
    (hengine : first.config.engine = second.config.engine)
    (hblocked : ∀ domain,
      domain ∈ first.blocked.map normalDomain ↔ domain ∈ second.blocked.map normalDomain)
    (hfirst : first.Offers packets) (hsecond : second.Offers packets) :
    first.output = second.output ∧ first.result = second.result ∧ first.result.2 = none ∧
      first.result.1 = first.journal.entries.map Entry.report ∧
      first.journal.entries.map Entry.bytes = packets ∧
      (IsLinePer packets first.output ↔ ∀ report ∈ first.result.1, ∀ name,
        report.verdict = some (.captured name) → Unbroken name) := by
  have hentries := hfirst.entries_congr hsecond hengine hblocked
  have hresult : first.result = second.result := by
    apply Prod.ext
    · rw [first.reports_eq, second.reports_eq, hentries]
    · rw [first.failure_eq_none, second.failure_eq_none]
  have houtput : first.output = second.output := by
    rw [Trial.output, Trial.output, hresult]
  exact ⟨houtput, hresult, first.failure_eq_none, first.reports_eq, hfirst.bytes_eq,
    hfirst.isLinePer_iff⟩

section Example

/-- The line of the digits of a packet. -/
def digitLine (bytes : Bytes) : String := String.ofList (Hex.digits bytes)

theorem unbroken_digitLine (bytes : Bytes) :
    Unbroken (digitLine bytes) ∧ '\r' ∉ (digitLine bytes).toList := by
  have hdigit (c : Char) (blank : Text.isBlank c) : c ∉ (digitLine bytes).toList := by
    intro hmem
    rw [digitLine, String.toList_ofList] at hmem
    simp [isBlank_of_mem_digits hmem] at blank
  exact ⟨hdigit '\n' (by decide), hdigit '\r' (by decide)⟩

theorem packetOfLine?_webSyn : packetOfLine? defaultMtu.toNat (digitLine webSyn) = some webSyn :=
  packetOfLine?_digits Hex.pairDecoder_lawful (by decide) (by decide)

/-- A connection is opened, named and blocked. -/
def webTrial : Trial where
  config := {}
  blocked := ["example"]
  input := printed [digitLine webSyn, digitLine webHello, digitLine webData]
  around _ := ⟨0, fun _ => .absent⟩

/-- The same packets, later, between other lines and on a system with a connection table. -/
def busyTrial : Trial where
  config := { cache.ttl := 5, cache.root := "tables" }
  blocked := ["EXAMPLE.", "example"]
  input := printed
    ["# a connection", digitLine webSyn, "", digitLine webHello, "no packet", digitLine webData]
  around index := ⟨1000 * index, fun _ => .regular [0x0A, 0x30, 0x0A]⟩

theorem output_of_packets_web :
    webTrial.Offers [webSyn, webHello, webData] ∧ busyTrial.Offers [webSyn, webHello, webData] ∧
      webTrial.output = busyTrial.output := by
  have hhello : packetOfLine? defaultMtu.toNat (digitLine webHello) = some webHello :=
    packetOfLine?_digits Hex.pairDecoder_lawful (by decide) (by decide)
  have hdata : packetOfLine? defaultMtu.toNat (digitLine webData) = some webData :=
    packetOfLine?_digits Hex.pairDecoder_lawful (by decide) (by decide)
  have hcomment : packetOfLine? defaultMtu.toNat "# a connection" = none := by decide +kernel
  have hempty : packetOfLine? defaultMtu.toNat "" = none := by decide +kernel
  have hword : packetOfLine? defaultMtu.toNat "no packet" = none := by decide +kernel
  have hweb : webTrial.Offers [webSyn, webHello, webData] := by
    rw [Trial.offers_printed_iff rfl (by simp [unbroken_digitLine])]
    simp [webTrial, packetOfLine?_webSyn, hhello, hdata]
  have hbusy : busyTrial.Offers [webSyn, webHello, webData] := by
    have hlines : ∀ line ∈ ["# a connection", "", "no packet"],
        Unbroken line ∧ '\r' ∉ line.toList := by decide
    rw [Trial.offers_printed_iff rfl (by simpa [unbroken_digitLine] using hlines)]
    simp [busyTrial, packetOfLine?_webSyn, hhello, hdata, hcomment, hempty, hword]
  have hengine : webTrial.config.engine = busyTrial.config.engine := rfl
  have hblocked (domain : List Char) : domain ∈ webTrial.blocked.map normalDomain ↔
      domain ∈ busyTrial.blocked.map normalDomain := by
    have hsame : normalDomain "EXAMPLE." = normalDomain "example" := by decide
    simp [webTrial, busyTrial, hsame]
  exact ⟨hweb, hbusy, (output_of_packets hengine hblocked hweb hbusy).1⟩

/-- A handshake that names the server `a`, a line feed and `b`. -/
def brokenHello : Bytes :=
  webSegment 145 24 ([22, 3, 1, 0, 56, 1] ++ List.replicate 37 0 ++
    [0, 0, 0, 0, 0, 12, 0, 0, 0, 8, 0, 6, 0, 0, 3, 97, 10, 98])

def brokenTrial : Trial where
  config := {}
  blocked := []
  input := printed [digitLine webSyn, digitLine brokenHello]
  around _ := ⟨0, fun _ => .absent⟩

/-- Two packets make three lines of output. -/
theorem exists_broken_output :
    brokenTrial.Offers [webSyn, brokenHello] ∧
      brokenTrial.output = "allowed p6\nallowed p6 sni=a\nb\n" ∧
      ¬IsLinePer [webSyn, brokenHello] brokenTrial.output := by
  have hhello : packetOfLine? defaultMtu.toNat (digitLine brokenHello) = some brokenHello :=
    packetOfLine?_digits Hex.pairDecoder_lawful (by decide) (by decide)
  have hoffers : brokenTrial.Offers [webSyn, brokenHello] := by
    rw [Trial.offers_printed_iff rfl (by simp [unbroken_digitLine])]
    simp [brokenTrial, packetOfLine?_webSyn, hhello]
  have houtput : brokenTrial.output = "allowed p6\nallowed p6 sni=a\nb\n" := by
    rw [Trial.output, Trial.reports_eq, hoffers.entries_eq ⟨0, fun _ => .absent⟩]
    decide +kernel
  refine ⟨hoffers, houtput, ?_⟩
  rintro ⟨lines, hlength, unbroken, hprinted⟩
  -- Two lines would have two line feeds.
  have hcount := (count_printed_eq_iff lines).2 unbroken
  rw [← hprinted, houtput, hlength] at hcount
  exact absurd hcount (by decide)

end Example

end TunnelFirewall.Diagnostic
