import TunnelFirewall.Packet.Network
import TunnelFirewall.Proofs.Bytes.Checksum
import TunnelFirewall.Proofs.Bytes.Position

/-!
# IPv4 headers

An IPv4 packet is accepted if five conditions hold, and is refused for the first of them that does
not. Since the total length is one of them, a packet is accepted as a whole or not at all. Reading
the fields one after the other gives the same, whatever a read answers that finds the packet at its
end: behind the first condition no read does.
-/
namespace TunnelFirewall

/-- The IPv4 address at a position. -/
def Bytes.ipv4At (bytes : Bytes) (position : Nat) : IPv4 :=
  ⟨bytes.byteAt position, bytes.byteAt (position + 1), bytes.byteAt (position + 2),
    bytes.byteAt (position + 3)⟩

namespace IPv4Header

/-- The header length in bytes, which the header gives in words of four. -/
def headerLength (packet : Bytes) : Nat := 4 * ((packet.byteAt 0).toNat % 16)

/-- The length of the whole packet as the header gives it. -/
def totalLength (packet : Bytes) : Nat := packet.wordAt 2

/-- The packet is a fragment and not the last one. -/
def MoreFragments (packet : Bytes) : Prop := (packet.byteAt 6).toNat / 32 % 2 = 1

/-- Where a fragment belongs in bytes, which the header gives in units of eight. -/
def fragmentOffset (packet : Bytes) : Nat := packet.wordAt 6 % 8192 * 8

/-- The words of the header sum to all ones. -/
def SumsToOnes (packet : Bytes) : Prop :=
  Checksum.onesSum 0 (packet.take (headerLength packet)) = 0xFFFF

/-- A packet that is accepted, whose checksum counts if `verify` holds. -/
structure Valid (verify : Bool) (packet : Bytes) : Prop where
  fixed : 20 ≤ packet.length
  unfragmented : ¬MoreFragments packet
  inside : 20 ≤ headerLength packet ∧ headerLength packet ≤ packet.length
  whole : totalLength packet = packet.length
  summed : verify = true → SumsToOnes packet

/-- The first condition that a packet violates, with what is reported about it. -/
inductive Fault (verify : Bool) (packet : Bytes) : PacketError → Prop
  | short (short : packet.length < 20) :
    Fault verify packet (.truncated .ipv4 20 packet.length)
  | fragment (fixed : 20 ≤ packet.length) (more : MoreFragments packet) :
    Fault verify packet (.fragmented (fragmentOffset packet))
  | outside (fixed : 20 ≤ packet.length) (unfragmented : ¬MoreFragments packet)
      (outside : ¬(20 ≤ headerLength packet ∧ headerLength packet ≤ packet.length)) :
    Fault verify packet (.invalidHeaderLength (headerLength packet) packet.length)
  | mismatch (fixed : 20 ≤ packet.length) (unfragmented : ¬MoreFragments packet)
      (inside : 20 ≤ headerLength packet ∧ headerLength packet ≤ packet.length)
      (mismatch : totalLength packet ≠ packet.length) :
    Fault verify packet (.lengthMismatch (totalLength packet) packet.length)
  | checksum (fixed : 20 ≤ packet.length) (unfragmented : ¬MoreFragments packet)
      (inside : 20 ≤ headerLength packet ∧ headerLength packet ≤ packet.length)
      (whole : totalLength packet = packet.length) (checked : verify = true)
      (corrupt : ¬SumsToOnes packet) :
    Fault verify packet .badChecksum

/-- What an accepted header says. -/
def content (packet : Bytes) : NetworkHeader where
  version := .v4
  protocol := packet.byteAt 9
  source := .v4 (packet.ipv4At 12)
  destination := .v4 (packet.ipv4At 16)
  payloadOffset := headerLength packet

variable {verify : Bool} {packet other : Bytes} {e : PacketError}

theorem headerLength_le (packet : Bytes) : headerLength packet ≤ 60 := by
  unfold headerLength
  omega

theorem verifies_iff_sumsToOnes :
    Checksum.verifies (packet.take (headerLength packet)) = true ↔ SumsToOnes packet := by
  apply Checksum.verifies_iff
  have hle := headerLength_le packet
  rw [List.length_take]
  omega

theorem moreFragments_iff : MoreFragments packet ↔ packet.wordAt 6 / 0x2000 % 2 = 1 := by
  have hlow := (packet.byteAt 7).toNat_lt
  have hhigh : packet.wordAt 6 = (packet.byteAt 6).toNat * 256 + (packet.byteAt 7).toNat := rfl
  unfold MoreFragments
  omega

/-- The checks in the order in which they are made, on the fields at their places. -/
theorem ofIPv4_of_le (hfixed : 20 ≤ packet.length) :
    NetworkHeader.ofIPv4 verify packet =
      if packet.wordAt 6 / 0x2000 % 2 = 1 then .error (.fragmented (fragmentOffset packet))
      else if headerLength packet < 20 ∨ packet.length < headerLength packet then
        .error (.invalidHeaderLength (headerLength packet) packet.length)
      else if totalLength packet ≠ packet.length then
        .error (.lengthMismatch (totalLength packet) packet.length)
      else if verify && !Checksum.verifies (packet.take (headerLength packet)) then
        .error .badChecksum
      else .ok (content packet) := by
  rw [NetworkHeader.ofIPv4, dif_neg (Nat.not_lt.2 hfixed)]
  simp (disch := omega) only [content, fragmentOffset, headerLength, totalLength, Bytes.wordAt,
    Bytes.ipv4At, Bytes.byteAt_of_lt, Nat.mul_comm 4]

theorem Valid.ofIPv4_eq (h : Valid verify packet) :
    NetworkHeader.ofIPv4 verify packet = .ok (content packet) := by
  obtain ⟨hfixed, hlast, ⟨hleast, hinside⟩, hwhole, hsummed⟩ := h
  have hchecksum : ¬(verify && !Checksum.verifies (packet.take (headerLength packet))) = true := by
    rw [Bool.and_eq_true, Bool.not_eq_true', ← Bool.not_eq_true, verifies_iff_sumsToOnes]
    rintro ⟨hverify, hcorrupt⟩
    exact hcorrupt (hsummed hverify)
  rw [ofIPv4_of_le hfixed, if_neg (mt moreFragments_iff.2 hlast), if_neg (by omega),
    if_neg (not_not_intro hwhole), if_neg hchecksum]

theorem Fault.ofIPv4_eq (h : Fault verify packet e) :
    NetworkHeader.ofIPv4 verify packet = .error e := by
  cases h with
  | short short => rw [NetworkHeader.ofIPv4, dif_pos short]
  | fragment hfixed hmore => rw [ofIPv4_of_le hfixed, if_pos (moreFragments_iff.1 hmore)]
  | outside hfixed hlast houtside =>
    rw [ofIPv4_of_le hfixed, if_neg (mt moreFragments_iff.2 hlast), if_pos (by omega)]
  | mismatch hfixed hlast hinside hmismatch =>
    rw [ofIPv4_of_le hfixed, if_neg (mt moreFragments_iff.2 hlast), if_neg (by omega),
      if_pos hmismatch]
  | checksum hfixed hlast hinside hwhole hverify hcorrupt =>
    rw [← verifies_iff_sumsToOnes, Bool.not_eq_true] at hcorrupt
    rw [ofIPv4_of_le hfixed, if_neg (mt moreFragments_iff.2 hlast), if_neg (by omega),
      if_neg (not_not_intro hwhole), if_pos (by rw [hverify, hcorrupt]; rfl)]

theorem valid_or_fault (verify : Bool) (packet : Bytes) :
    Valid verify packet ∨ ∃ e, Fault verify packet e := by
  by_cases hfixed : 20 ≤ packet.length
  case neg => exact .inr ⟨_, .short (Nat.not_le.1 hfixed)⟩
  by_cases hlast : MoreFragments packet
  case pos => exact .inr ⟨_, .fragment hfixed hlast⟩
  by_cases hinside : 20 ≤ headerLength packet ∧ headerLength packet ≤ packet.length
  case neg => exact .inr ⟨_, .outside hfixed hlast hinside⟩
  by_cases hwhole : totalLength packet = packet.length
  case neg => exact .inr ⟨_, .mismatch hfixed hlast hinside hwhole⟩
  by_cases hsummed : verify = true → SumsToOnes packet
  case pos => exact .inl ⟨hfixed, hlast, hinside, hwhole, hsummed⟩
  obtain ⟨hverify, hcorrupt⟩ := Classical.not_imp.1 hsummed
  exact .inr ⟨_, .checksum hfixed hlast hinside hwhole hverify hcorrupt⟩

theorem ofIPv4_eq_ok_iff {header : NetworkHeader} :
    NetworkHeader.ofIPv4 verify packet = .ok header ↔
      Valid verify packet ∧ header = content packet := by
  constructor
  · intro h
    rcases valid_or_fault verify packet with hvalid | ⟨e, hfault⟩
    · rw [hvalid.ofIPv4_eq] at h
      exact ⟨hvalid, (Except.ok.inj h).symm⟩
    · rw [hfault.ofIPv4_eq] at h
      cases h
  · rintro ⟨hvalid, rfl⟩
    exact hvalid.ofIPv4_eq

theorem ofIPv4_eq_error_iff :
    NetworkHeader.ofIPv4 verify packet = .error e ↔ Fault verify packet e := by
  refine ⟨?_, Fault.ofIPv4_eq⟩
  intro h
  rcases valid_or_fault verify packet with hvalid | ⟨e', hfault⟩
  · rw [hvalid.ofIPv4_eq] at h
    cases h
  · rw [hfault.ofIPv4_eq] at h
    rwa [← Except.error.inj h]

theorem Valid.unverified (h : Valid verify packet) : Valid false packet :=
  ⟨h.fixed, h.unfragmented, h.inside, h.whole, fun hverify => nomatch hverify⟩

/-- Of two valid packets neither goes on behind the end of the other: both end where the total
length says, which they have in common. -/
theorem Valid.eq_of_isPrefix {check : Bool} (h : Valid verify packet) (hother : Valid check other)
    (hpart : packet <+: other) : packet = other := by
  obtain ⟨rest, rfl⟩ := hpart
  have hfixed := h.fixed
  have htotal : totalLength (packet ++ rest) = totalLength packet := by
    rw [totalLength, totalLength, Bytes.wordAt, Bytes.wordAt, Bytes.byteAt_append (by omega),
      Bytes.byteAt_append (by omega)]
  apply (List.prefix_append packet rest).eq_of_length
  rw [← h.whole, ← hother.whole, htotal]

end IPv4Header

namespace Cursor

/-- The result of a read with the cursor behind it, or an error if the packet ended before. -/
def orBroken {α : Type} (broken : PacketError) (read : Option α × Cursor) :
    Except PacketError (α × Cursor) :=
  read.1.elim (.error broken) fun value => .ok (value, read.2)

/-- Reads an IPv4 address. -/
def readIPv4 (c : Cursor) : Option IPv4 × Cursor :=
  let (octets, c) := c.take 4
  (octets.bind IPv4.ofOctets?, c)

variable {data : Bytes} {position : Nat}

theorem readByte_of_lt (h : position < data.length) :
    (⟨data, position⟩ : Cursor).readByte =
      (some (data.byteAt position), ⟨data, position + 1⟩) := by
  have hpeek : (⟨data, position⟩ : Cursor).peek? = some (data.byteAt position) := by
    rw [peek?, Bytes.byteAt_of_lt h]
    exact List.getElem?_eq_getElem h
  rw [readByte, hpeek]
  rfl

theorem readNumber_two (h : position + 2 ≤ data.length) :
    (⟨data, position⟩ : Cursor).readNumber 2 =
      (some (data.wordAt position), ⟨data, position + 2⟩) := by
  rw [readNumber, take_of_le h, Bytes.take_drop_succ (by omega), Bytes.take_drop_succ (by omega)]
  simp [Bytes.bigEndian, Bytes.wordAt, Bytes.word]

theorem readIPv4_of_le (h : position + 4 ≤ data.length) :
    (⟨data, position⟩ : Cursor).readIPv4 =
      (some (data.ipv4At position), ⟨data, position + 4⟩) := by
  rw [readIPv4, take_of_le h, Bytes.take_drop_succ (by omega), Bytes.take_drop_succ (by omega),
    Bytes.take_drop_succ (by omega), Bytes.take_drop_succ (by omega)]
  rfl

end Cursor

namespace IPv4Header

/-- Reads an IPv4 header field by field. A read that needs the packet to have `n` bytes and finds
fewer ends with `broken n`. -/
def read (broken : Nat → PacketError) (verify : Bool) (packet : Bytes) :
    Except PacketError NetworkHeader :=
  if packet.length < 20 then .error (.truncated .ipv4 20 packet.length)
  else do
    let (first, c) ← Cursor.orBroken (broken 1) (Cursor.ofBytes packet).readByte
    let headerLength := first.toNat % 16 * 4
    let (_, c) := c.readByte
    let (totalLength, c) ← Cursor.orBroken (broken 4) (c.readNumber 2)
    let (_, c) := c.readNumber 2
    let (fragment, c) ← Cursor.orBroken (broken 8) (c.readNumber 2)
    if fragment / 0x2000 % 2 = 1 then .error (.fragmented (fragment % 0x2000 * 8))
    else if headerLength < 20 ∨ packet.length < headerLength then
      .error (.invalidHeaderLength headerLength packet.length)
    else if totalLength ≠ packet.length then .error (.lengthMismatch totalLength packet.length)
    else if verify && !Checksum.verifies (packet.take headerLength) then .error .badChecksum
    else
      let (_, c) := c.readByte
      let (protocol, c) ← Cursor.orBroken (broken 10) c.readByte
      let (_, c) := c.readNumber 2
      let (source, c) ← Cursor.orBroken (broken 16) c.readIPv4
      let (destination, _) ← Cursor.orBroken (broken 20) c.readIPv4
      .ok {
        version := .v4
        protocol
        source := .v4 source
        destination := .v4 destination
        payloadOffset := headerLength }

variable {verify : Bool} {packet : Bytes}

/-- No read behind the first check finds the packet at its end. -/
theorem read_eq_ofIPv4 (broken : Nat → PacketError) :
    read broken verify packet = NetworkHeader.ofIPv4 verify packet := by
  by_cases hfixed : packet.length < 20
  · rw [read, if_pos hfixed, NetworkHeader.ofIPv4, dif_pos hfixed]
  · rw [read, if_neg hfixed, ofIPv4_of_le (Nat.not_lt.1 hfixed)]
    simp (disch := omega) only [Cursor.ofBytes, Cursor.orBroken, Cursor.readByte_of_lt,
      Cursor.readNumber_two, Cursor.readIPv4_of_le, Option.elim_some, bind, Except.bind, content,
      fragmentOffset, headerLength, totalLength, Nat.mul_comm 4]

/-- The IPv4 packets that are accepted, and what is said about them, are those that meet the five
conditions; any other packet is refused for the first condition that it violates. It is accepted
without the check of its checksum if it is accepted with it, never together with a shorter or longer
packet that agrees with it as far as both go, and no read of a field behind the first check fails.
-/
theorem ofIPv4_accepts_iff_valid (verify : Bool) (packet : Bytes) :
    (∀ header, NetworkHeader.ofIPv4 verify packet = .ok header ↔
      Valid verify packet ∧ header = content packet) ∧
    (∀ e, NetworkHeader.ofIPv4 verify packet = .error e ↔ Fault verify packet e) ∧
    (∀ header, NetworkHeader.ofIPv4 verify packet = .ok header →
      NetworkHeader.ofIPv4 false packet = .ok header ∧
      ∀ (other : Bytes) (check : Bool), other ≠ packet → other <+: packet ∨ packet <+: other →
        ∃ e, NetworkHeader.ofIPv4 check other = .error e) ∧
    ∀ broken, read broken verify packet = NetworkHeader.ofIPv4 verify packet := by
  refine ⟨fun header => ofIPv4_eq_ok_iff, fun e => ofIPv4_eq_error_iff, ?_, read_eq_ofIPv4⟩
  intro header haccepted
  obtain ⟨hvalid, rfl⟩ := ofIPv4_eq_ok_iff.1 haccepted
  refine ⟨hvalid.unverified.ofIPv4_eq, ?_⟩
  intro other check hne hpart
  rcases valid_or_fault check other with hother | ⟨e, hfault⟩
  · rcases hpart with hshorter | hlonger
    · exact absurd (hother.eq_of_isPrefix hvalid hshorter) hne
    · exact absurd (hvalid.eq_of_isPrefix hother hlonger).symm hne
  · exact ⟨e, hfault.ofIPv4_eq⟩

end IPv4Header

end TunnelFirewall
