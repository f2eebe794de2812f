import TunnelFirewall.Diagnostic.Run
import TunnelFirewall.Proofs.Bytes.Hex
import TunnelFirewall.Proofs.Engine.Inspection

/-!
# The journal of a run

A journal is a run of the diagnostic program so far: the state that it has reached, and the packets
that it has taken, each with its report, in order. The reports of a whole run are those of its
journal, and what holds at the start and is kept by every packet holds wherever the journal is cut.
-/
namespace TunnelFirewall.Diagnostic

/-- A packet that was taken, and what came of it. -/
structure Entry where
  bytes : Bytes
  report : Report
deriving DecidableEq

/-- The packets that the lines of an input hold, up to the first line that is no text. -/
def packets [HexDecoder] (mtu : Nat) :
    List (Option String × Surroundings) → List (Bytes × Surroundings)
  | [] => []
  | (none, _) :: _ => []
  | (some line, around) :: rest =>
    match packetOfLine? mtu line with
    | some bytes => (bytes, around) :: packets mtu rest
    | none => packets mtu rest

section Lines

variable {bytes : Bytes} {c : Char} {mtu : Nat}

theorem isBlank_of_mem_digits (h : c ∈ Hex.digits bytes) :
    Text.isBlank c = false := by
  obtain ⟨n, hn, rfl⟩ := Hex.exists_of_mem_digits h
  have hall : ∀ n < 16, Text.isBlank (Hex.upperDigit n) = false := by decide
  exact hall n hn

theorem ne_hash_of_mem_digits (h : c ∈ Hex.digits bytes) : c ≠ '#' := by
  obtain ⟨n, hn, rfl⟩ := Hex.exists_of_mem_digits h
  have hall : ∀ n < 16, Hex.upperDigit n ≠ '#' := by decide
  exact hall n hn

theorem dropWhile_isBlank {text : List Char} (h : ∀ c ∈ text, Text.isBlank c = false) :
    text.dropWhile Text.isBlank = text := by
  cases text with
  | nil => rfl
  | cons c rest => exact List.dropWhile_cons_of_neg (by simp [h c])

theorem trim_digits (bytes : Bytes) : Text.trim (Hex.digits bytes) = Hex.digits bytes := by
  have hfront : (Hex.digits bytes).dropWhile Text.isBlank = Hex.digits bytes :=
    dropWhile_isBlank fun c hc => isBlank_of_mem_digits hc
  have hback : (Hex.digits bytes).reverse.dropWhile Text.isBlank = (Hex.digits bytes).reverse :=
    dropWhile_isBlank fun c hc => isBlank_of_mem_digits (List.mem_reverse.1 hc)
  rw [Text.trim, hfront, hback, List.reverse_reverse]

/-- A packet that is not empty nor too long is taken from the line of its digits. -/
theorem packetOfLine?_digits [HexDecoder] (hdecoder : HexDecoder.Lawful) (hne : bytes ≠ [])
    (hlen : bytes.length ≤ mtu) :
    packetOfLine? mtu (String.ofList (Hex.digits bytes)) = some bytes := by
  unfold packetOfLine?
  rw [String.toList_ofList, trim_digits]
  split
  case h_1 hnil =>
    cases bytes with
    | nil => exact absurd rfl hne
    | cons byte bytes => cases hnil
  case h_2 rest hhash =>
    have hmem : '#' ∈ Hex.digits bytes := by simp [hhash]
    exact absurd rfl (ne_hash_of_mem_digits hmem)
  case h_3 => simp only [Hex.decode_digits hdecoder, if_pos hlen]

/-- An input that holds these packets, a line for each. -/
def written (packets : List (Bytes × Surroundings)) : List (Option String × Surroundings) :=
  packets.map fun packet => (some (String.ofList (Hex.digits packet.1)), packet.2)

theorem packets_written [HexDecoder] (hdecoder : HexDecoder.Lawful)
    {taken : List (Bytes × Surroundings)}
    (h : ∀ packet ∈ taken, packet.1 ≠ [] ∧ packet.1.length ≤ mtu) :
    packets mtu (written taken) = taken := by
  induction taken with
  | nil => rfl
  | cons packet rest ih =>
    obtain ⟨⟨hne, hlen⟩, hrest⟩ := List.forall_mem_cons.1 h
    have hwritten : packets mtu (written rest) = rest := ih hrest
    unfold written at hwritten ⊢
    simp only [List.map_cons, packets, packetOfLine?_digits hdecoder hne hlen, hwritten]

end Lines

/-- The state that a run has reached, and the packets it has taken. -/
structure Journal where
  state : State
  entries : List Entry := []

namespace Journal

variable [HexDecoder]

/-- The entry that a packet makes. -/
def entry (j : Journal) (packet : Bytes × Surroundings) : Entry :=
  ⟨packet.1, (j.state.take packet.2 packet.1).1⟩

def step (j : Journal) (packet : Bytes × Surroundings) : Journal :=
  ⟨(j.state.take packet.2 packet.1).2, j.entries ++ [j.entry packet]⟩

def run (j : Journal) (packets : List (Bytes × Surroundings)) : Journal := packets.foldl step j

/-- The journal of the program when it has taken its whole input. -/
def ofInput (config : Config) (blocked : List String)
    (input : List (Option String × Surroundings)) : Journal :=
  run ⟨State.start config blocked, []⟩ (packets config.engine.mtu.toNat input)

theorem settings_inspect (around : Surroundings) (bytes : Bytes) (state : State) :
    (state.inspect around bytes).2.engine.settings = state.engine.settings ∧
      (state.inspect around bytes).2.blocked = state.blocked := by
  unfold State.inspect
  split
  · exact ⟨rfl, rfl⟩
  dsimp only
  split
  · exact ⟨rfl, rfl⟩
  · exact ⟨rfl, rfl⟩
  · simp only [Engine.inspectTls_eq, and_self]

/-- A packet changes neither the settings nor the list of blocked domains. -/
theorem settings_take (around : Surroundings) (bytes : Bytes) (state : State) :
    (state.take around bytes).2.engine.settings = state.engine.settings ∧
      (state.take around bytes).2.blocked = state.blocked := by
  unfold State.take
  dsimp only
  split
  · exact settings_inspect around bytes _
  · exact ⟨rfl, rfl⟩

theorem run_reports (input : List (Option String × Surroundings)) (j : Journal) :
    (j.run (packets j.state.engine.settings.mtu.toNat input)).entries.map Entry.report =
      j.entries.map Entry.report ++ (j.state.run input).1 := by
  induction input generalizing j with
  | nil => simp [packets, run, State.run]
  | cons line rest ih =>
    obtain ⟨_ | line, around⟩ := line
    · simp [packets, run, State.run]
    simp only [packets, State.run, State.takeLine]
    cases packetOfLine? j.state.engine.settings.mtu.toNat line with
    | none => simpa using ih j
    | some bytes =>
      have hrest := ih (j.step (bytes, around))
      simp only [step, (settings_take around bytes j.state).1] at hrest
      simpa [run, step, entry] using hrest

/-- The journal of an input holds the reports of its run. -/
theorem ofInput_reports (config : Config) (blocked : List String)
    (input : List (Option String × Surroundings)) :
    ((State.start config blocked).run input).1 =
      (ofInput config blocked input).entries.map Entry.report :=
  (run_reports input ⟨State.start config blocked, []⟩).symm

/-- What every packet keeps, a run keeps. -/
theorem run_preserves {P : Journal → Prop} (hstep : ∀ j packet, P j → P (j.step packet))
    {j : Journal} (h : P j) (packets : List (Bytes × Surroundings)) : P (j.run packets) := by
  induction packets generalizing j with
  | nil => exact h
  | cons packet packets ih => exact ih (hstep j packet h)

/-- Every entry of a run was made by a packet in a journal of which the kept property holds, and
which held the entries before it. -/
theorem exists_of_run {P : Journal → Prop} (hstep : ∀ j packet, P j → P (j.step packet))
    {state : State} (hstart : P ⟨state, []⟩) {packets : List (Bytes × Surroundings)}
    {before after : List Entry} {entry : Entry}
    (h : (run ⟨state, []⟩ packets).entries = before ++ entry :: after) :
    ∃ j packet, P j ∧ j.entries = before ∧ j.entry packet = entry := by
  have hall : P (run ⟨state, []⟩ packets) ∧ ∀ before entry after,
      (run ⟨state, []⟩ packets).entries = before ++ entry :: after →
        ∃ j packet, P j ∧ j.entries = before ∧ j.entry packet = entry := by
    apply run_preserves (P := fun last => P last ∧ ∀ before entry after,
      last.entries = before ++ entry :: after →
        ∃ j packet, P j ∧ j.entries = before ∧ j.entry packet = entry)
    · rintro last packet ⟨hlast, hearlier⟩
      refine ⟨hstep last packet hlast, fun before entry after heq => ?_⟩
      -- The entry is the one that this packet makes, or one that was there before.
      rcases List.eq_nil_or_concat after with rfl | ⟨front, back, rfl⟩
      · obtain ⟨hbefore, hentry⟩ := List.append_inj' heq rfl
        exact ⟨last, packet, hlast, hbefore, List.head_eq_of_cons_eq hentry⟩
      · rw [List.concat_eq_append, ← List.cons_append, ← List.append_assoc] at heq
        exact hearlier before entry front (List.append_inj' heq rfl).1
    · exact ⟨hstart, by simp⟩
  exact hall.2 before entry after h

end Journal

end TunnelFirewall.Diagnostic
