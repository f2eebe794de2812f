import TunnelFirewall.Packet.Extension
import TunnelFirewall.Proofs.Bytes.Position

/-!
# Chains of extension headers

The extension headers of an IPv6 packet form a chain: each is announced by the one before it and
starts where that one ends. The walk ends at an upper-layer protocol exactly when a chain of fewer
than sixteen headers leads there, and then gives the protocol and the end of the chain. A chain of
sixteen headers is given up like every longer one, although sixteen is the number that is allowed.
-/
namespace TunnelFirewall

theorem Protocol.isUpperLayer_iff {protocol : Protocol} :
    protocol.isUpperLayer = true ↔ protocol ∈ ([1, 6, 17, 58] : List Protocol) := by
  simp only [isUpperLayer, icmp, tcp, udp, icmpv6, Bool.or_eq_true, beq_iff_eq, List.mem_cons,
    List.not_mem_nil, or_false]
  grind

namespace Extension

/-- The size of a header of a type, as its length byte declares it: eight bytes for a fragment
header whatever the byte says, units of four bytes for an authentication header, and units of
eight for hop-by-hop options, routing, destination options and mobility. No other type is
skipped: not the encrypted payload (50), not the mark that nothing follows (59), and none that is
unknown. -/
def Declares (type : Protocol) (lengthField : UInt8) (size : Nat) : Prop :=
  type = 44 ∧ size = 8 ∨
  type = 51 ∧ size = (lengthField.toNat + 2) * 4 ∨
  type ∈ ([0, 43, 60, 135] : List Protocol) ∧ size = (lengthField.toNat + 1) * 8

instance (type : Protocol) (lengthField : UInt8) (size : Nat) :
    Decidable (Declares type lengthField size) :=
  inferInstanceAs (Decidable (_ ∨ _))

/-- A complete extension header. -/
structure Header where
  /-- The number that announces the header. -/
  type : Protocol
  /-- The number of the header behind it, which is its first byte. -/
  following : Protocol
  lengthField : UInt8
  /-- What stands behind the length byte. -/
  body : Bytes
  declared : Declares type lengthField (body.length + 2)

namespace Header

def bytes (h : Header) : Bytes := h.following :: h.lengthField :: h.body

def size (h : Header) : Nat := h.bytes.length

end Header

/-- At `offset` of the packet, where a header of type `type` is announced, stand these headers
one right behind the other. Each is of the type that the first byte of the one before it
announces, and the first byte of the last one announces `last`. -/
def Chain (packet : Bytes) : Nat → Protocol → List Header → Protocol → Prop
  | _, type, [], last => type = last
  | offset, type, h :: headers, last =>
    h.type = type ∧ h.bytes <+: packet.drop offset ∧
      Chain packet (offset + h.size) h.following headers last

instance decidableChain (packet : Bytes) : (offset : Nat) → (type : Protocol) →
    (headers : List Header) → (last : Protocol) → Decidable (Chain packet offset type headers last)
  | _, type, [], last => inferInstanceAs (Decidable (type = last))
  | offset, type, h :: headers, last =>
    have := decidableChain packet (offset + h.size) h.following headers last
    inferInstanceAs (Decidable (h.type = type ∧ h.bytes <+: packet.drop offset ∧
      Chain packet (offset + h.size) h.following headers last))

def totalSize : List Header → Nat
  | [] => 0
  | h :: headers => h.size + totalSize headers

variable {packet : Bytes} {offset steps : Nat} {next following first upper last : Protocol}
  {here behind : Cursor} {headers : List Header}

/-- The number that announces a kind of extension. -/
def number : Extension → Protocol
  | .hopByHop => 0
  | .routing => 43
  | .fragment => 44
  | .authentication => 51
  | .encapsulatingSecurityPayload => 50
  | .destinationOptions => 60
  | .mobility => 135

theorem ofNextHeader?_eq_some_iff {kind : Extension} :
    ofNextHeader? next = some kind ↔ next = kind.number := by
  constructor
  · intro h
    unfold ofNextHeader? at h
    iterate 7 (split at h; · cases h; assumption)
    cases h
  · rintro rfl
    cases kind <;> rfl

theorem declares_iff {lengthField : UInt8} {size : Nat} :
    Declares next lengthField size ↔
      ∃ kind, ofNextHeader? next = some kind ∧ kind.size? lengthField = some size := by
  simp only [ofNextHeader?_eq_some_iff]
  constructor
  · rintro (⟨rfl, rfl⟩ | ⟨rfl, rfl⟩ | ⟨htype, rfl⟩)
    · exact ⟨.fragment, rfl, rfl⟩
    · exact ⟨.authentication, rfl, rfl⟩
    · simp only [List.mem_cons, List.not_mem_nil, or_false] at htype
      rcases htype with rfl | rfl | rfl | rfl
      · exact ⟨.hopByHop, rfl, rfl⟩
      · exact ⟨.routing, rfl, rfl⟩
      · exact ⟨.destinationOptions, rfl, rfl⟩
      · exact ⟨.mobility, rfl, rfl⟩
  · rintro ⟨kind, rfl, hsize⟩
    cases kind <;> simp_all [Declares, number, size?]

theorem Declares.two_le {lengthField : UInt8} {size : Nat} (h : Declares next lengthField size) :
    2 ≤ size := by
  rcases h with ⟨-, rfl⟩ | ⟨-, rfl⟩ | ⟨-, rfl⟩ <;> omega

theorem Header.type_mem (h : Header) : h.type ∈ ([0, 43, 44, 51, 60, 135] : List Protocol) := by
  rcases h.declared with ⟨htype, -⟩ | ⟨htype, -⟩ | ⟨htype, -⟩
  · rw [htype]; decide
  · rw [htype]; decide
  · grind

theorem Header.isUpperLayer_type (h : Header) : h.type.isUpperLayer = false := by
  have hmem := h.type_mem
  simp only [List.mem_cons, List.not_mem_nil, or_false] at hmem
  rcases hmem with htype | htype | htype | htype | htype | htype <;> rw [htype] <;> rfl

/-- One step of the walk passes a complete header. -/
theorem step?_eq_some_iff :
    step? next here = some (following, behind) ↔
      ∃ h : Header, h.type = next ∧ h.following = following ∧ h.bytes <+: here.rest ∧
        here.skip? h.size = some behind := by
  constructor
  · intro hstep
    unfold step? at hstep
    split at hstep
    · rename_i kind first lengthField tail hkind hrest
      split at hstep
      · rename_i size hsize
        obtain ⟨next', hskip, hpair⟩ := Option.map_eq_some_iff.1 hstep
        obtain ⟨rfl, rfl⟩ := Prod.mk.inj hpair
        have hdeclares : Declares next lengthField size := declares_iff.2 ⟨kind, hkind, hsize⟩
        obtain ⟨n, rfl⟩ : ∃ n, size = n + 2 := Nat.exists_eq_add_of_le' hdeclares.two_le
        have hinside : n + 2 ≤ (first :: lengthField :: tail).length := by
          rw [← hrest]
          rw [Cursor.length_rest]
          exact (Cursor.skip?_eq_some_iff.1 hskip).1
        have hlength : (tail.take n).length = n :=
          List.length_take_of_le (Nat.le_of_add_le_add_right hinside)
        refine ⟨⟨next, first, lengthField, tail.take n, by rwa [hlength]⟩, rfl, rfl, ?_, ?_⟩
        · rw [hrest]
          exact ⟨tail.drop n, by simp [Header.bytes]⟩
        · have hsize' : (first :: lengthField :: tail.take n).length = n + 2 := by
            rw [List.length_cons, List.length_cons, hlength]
          rw [Header.size, Header.bytes, hsize', hskip]
      · cases hstep
    · cases hstep
  · rintro ⟨h, rfl, rfl, ⟨tail, hrest⟩, hskip⟩
    obtain ⟨kind, hkind, hsize⟩ := declares_iff.1 h.declared
    have hsize' : kind.size? h.lengthField = some h.size := hsize
    unfold step?
    rw [hkind, ← hrest]
    simp only [Header.bytes, List.cons_append, hsize', hskip, Option.map_some]

theorem Chain.isUpperLayer_eq_false {h : Header} {tail : List Header}
    (hchain : Chain packet offset next (h :: tail) last) : next.isUpperLayer = false := by
  rw [← hchain.1]
  exact h.isUpperLayer_type

theorem Chain.ne_of_isUpperLayer (hchain : Chain packet offset next headers upper)
    (hsome : headers ≠ []) (hupper : upper.isUpperLayer = true) : next ≠ upper := by
  rintro rfl
  cases headers with
  | nil => exact hsome rfl
  | cons h tail =>
    rw [hchain.isUpperLayer_eq_false] at hupper
    cases hupper

/-- A chain lies in the packet. -/
theorem Chain.end_le (hchain : Chain packet offset next headers last) (hsome : headers ≠ []) :
    offset + totalSize headers ≤ packet.length := by
  induction headers generalizing offset next with
  | nil => exact absurd rfl hsome
  | cons h tail ih =>
    obtain ⟨-, hinside, hrest⟩ := hchain
    have hfirst : offset + h.size ≤ packet.length := by
      have hlength := hinside.length_le
      have hpositive : 0 < h.bytes.length := Nat.succ_pos _
      rw [List.length_drop] at hlength
      rw [Header.size]
      omega
    rw [totalSize, ← Nat.add_assoc]
    cases tail with
    | nil => exact hfirst
    | cons second tail => exact ih hrest (List.cons_ne_nil _ _)

/-- The cursor behind the first header of a chain, where the rest of the chain starts. -/
theorem Chain.exists_step? {h : Header} {tail : List Header}
    (hchain : Chain here.data here.position next (h :: tail) last) :
    ∃ behind, step? next here = some (h.following, behind) ∧
      behind.position = here.position + h.size ∧
      Chain behind.data behind.position h.following tail last := by
  have hend := hchain.end_le (List.cons_ne_nil h tail)
  rw [totalSize] at hend
  obtain ⟨htype, hinside, hrest⟩ := hchain
  have hroom : h.size ≤ here.remaining := by
    unfold Cursor.remaining
    omega
  have hskip : here.skip? h.size = some (here.advance h.size) :=
    Cursor.skip?_eq_some_iff.2 ⟨hroom, rfl⟩
  exact ⟨_, step?_eq_some_iff.2 ⟨h, htype, rfl, hinside, hskip⟩, rfl, hrest⟩

/-- What a walk finds is the end of a chain of fewer headers than the walk has steps. -/
theorem exists_chain_of_walk? (hwalk : walk? steps next here = some (upper, offset)) :
    upper.isUpperLayer = true ∧ ∃ headers, headers.length < steps ∧
      Chain here.data here.position next headers upper ∧
      offset = here.position + totalSize headers := by
  induction steps generalizing next here with
  | zero => cases hwalk
  | succ steps ih =>
    unfold walk? at hwalk
    split at hwalk
    · rename_i hupper
      obtain ⟨rfl, rfl⟩ := Prod.mk.inj (Option.some.inj hwalk)
      exact ⟨hupper, [], Nat.succ_pos steps, rfl, rfl⟩
    · split at hwalk
      · rename_i following behind hstep
        obtain ⟨h, htype, rfl, hinside, hskip⟩ := step?_eq_some_iff.1 hstep
        obtain ⟨hupper, headers, hlength, hchain, rfl⟩ := ih hwalk
        obtain ⟨-, rfl⟩ := Cursor.skip?_eq_some_iff.1 hskip
        exact ⟨hupper, h :: headers, Nat.succ_lt_succ hlength, ⟨htype, hinside, hchain⟩,
          Nat.add_assoc _ _ _⟩
      · cases hwalk

/-- A walk with more steps than a chain has headers finds its end. -/
theorem walk?_of_chain (hchain : Chain here.data here.position next headers upper)
    (hupper : upper.isUpperLayer = true) (hlength : headers.length < steps) :
    walk? steps next here = some (upper, here.position + totalSize headers) := by
  induction headers generalizing steps next here with
  | nil =>
    obtain ⟨steps, rfl⟩ := Nat.exists_eq_succ_of_ne_zero (Nat.ne_of_gt hlength)
    obtain rfl : next = upper := hchain
    exact if_pos hupper
  | cons h tail ih =>
    obtain ⟨steps, rfl⟩ := Nat.exists_eq_succ_of_ne_zero (Nat.ne_zero_of_lt hlength)
    obtain ⟨behind, hstep, hposition, hrest⟩ := hchain.exists_step?
    have hwalk := ih hrest (Nat.lt_of_succ_lt_succ hlength)
    rw [hposition, Nat.add_assoc] at hwalk
    simp only [walk?, hchain.isUpperLayer_eq_false, Bool.false_eq_true, if_false, hstep]
    exact hwalk

/-- A walk with no more steps than a chain has headers looks at none behind them. -/
theorem walk?_eq_none_of_chain (hchain : Chain here.data here.position next headers last)
    (hlength : steps ≤ headers.length) : walk? steps next here = none := by
  induction steps generalizing headers next here with
  | zero => rfl
  | succ steps ih =>
    cases headers with
    | nil => exact absurd hlength (Nat.not_succ_le_zero steps)
    | cons h tail =>
      obtain ⟨behind, hstep, -, hrest⟩ := hchain.exists_step?
      simp only [walk?, hchain.isUpperLayer_eq_false, Bool.false_eq_true, if_false, hstep]
      exact ih hrest (Nat.le_of_succ_le_succ hlength)

theorem resolve_eq_walk? (hfixed : 40 ≤ packet.length) (hnext : next.isUpperLayer = false) :
    resolve packet next = (walk? maxHeaders next ⟨packet, 40⟩).getD (next, 40) := by
  have hstart : (Cursor.ofBytes packet).skip? fixedHeaderSize = some ⟨packet, 40⟩ :=
    Cursor.skip?_eq_some_iff.2 ⟨hfixed, rfl⟩
  simp only [resolve, hnext, Bool.false_eq_true, if_false, hstart]
  rfl

theorem Chain.fixed_le (hchain : Chain packet 40 next headers last) (hsome : headers ≠ []) :
    40 ≤ packet.length :=
  Nat.le_of_add_right_le (hchain.end_le hsome)

theorem Chain.resolve_of_short (hchain : Chain packet 40 next headers upper)
    (hsome : headers ≠ []) (hupper : upper.isUpperLayer = true) (hlength : headers.length < 16) :
    resolve packet next = (upper, 40 + totalSize headers) := by
  have hfixed := hchain.fixed_le hsome
  have hwalk : walk? maxHeaders next ⟨packet, 40⟩ = some (upper, 40 + totalSize headers) :=
    walk?_of_chain hchain hupper hlength
  cases headers with
  | nil => exact absurd rfl hsome
  | cons h tail =>
    rw [resolve_eq_walk? hfixed hchain.isUpperLayer_eq_false, hwalk, Option.getD_some]

theorem Chain.resolve_of_long (hchain : Chain packet 40 next headers last)
    (hlength : 16 ≤ headers.length) : resolve packet next = (next, 40) := by
  cases headers with
  | nil => exact absurd hlength (Nat.not_succ_le_zero 15)
  | cons h tail =>
    have hfixed := hchain.fixed_le (List.cons_ne_nil h tail)
    have hwalk : walk? maxHeaders next ⟨packet, 40⟩ = none :=
      walk?_eq_none_of_chain hchain hlength
    rw [resolve_eq_walk? hfixed hchain.isUpperLayer_eq_false, hwalk, Option.getD_none]

theorem resolve_of_isUpperLayer (hnext : next.isUpperLayer = true) :
    resolve packet next = (next, 40) := by
  unfold resolve
  exact if_pos hnext

theorem resolve_of_lt (hfixed : packet.length < 40) : resolve packet next = (next, 40) := by
  have hstart : (Cursor.ofBytes packet).skip? fixedHeaderSize = none :=
    Cursor.skip?_of_lt hfixed
  simp only [resolve, hstart]
  split <;> rfl

/-- Only a chain leads away from the protocol that the fixed header announces. -/
theorem exists_chain_of_resolve_ne (h : resolve packet next ≠ (next, 40)) :
    ∃ (headers : List Header) (upper : Protocol), headers ≠ [] ∧
      Chain packet 40 next headers upper ∧ upper.isUpperLayer = true ∧
      resolve packet next = (upper, 40 + totalSize headers) := by
  have hnext : next.isUpperLayer = false := by
    rw [Bool.eq_false_iff]
    exact fun hupper => h (resolve_of_isUpperLayer hupper)
  have hfixed : 40 ≤ packet.length := by
    rw [← Nat.not_lt]
    exact fun hshort => h (resolve_of_lt hshort)
  rw [resolve_eq_walk? hfixed hnext] at h ⊢
  cases hwalk : walk? maxHeaders next ⟨packet, 40⟩ with
  | none =>
    rw [hwalk] at h
    exact absurd rfl h
  | some found =>
    obtain ⟨upper, offset⟩ := found
    obtain ⟨hupper, headers, -, hchain, rfl⟩ := exists_chain_of_walk? hwalk
    refine ⟨headers, upper, ?_, hchain, hupper, rfl⟩
    rintro rfl
    obtain rfl : next = upper := hchain
    rw [hnext] at hupper
    cases hupper

/-- The protocol found and its offset are the end of a chain of extension headers that stands in
the packet behind the fixed header, or else the announced protocol right behind the fixed header;
then no chain of fewer than sixteen headers leads to an upper-layer protocol. -/
theorem resolve_fallback_or_chain (packet : Bytes) (next : Protocol) :
    (resolve packet next = (next, 40) ∧
      ∀ (headers : List Header) (upper : Protocol), headers ≠ [] →
        Chain packet 40 next headers upper → upper ∈ ([1, 6, 17, 58] : List Protocol) →
          16 ≤ headers.length) ∨
    ∃ (headers : List Header) (upper : Protocol) (offset : Nat),
      resolve packet next = (upper, offset) ∧ upper ∈ ([1, 6, 17, 58] : List Protocol) ∧
        headers ≠ [] ∧ Chain packet 40 next headers upper ∧
        (∀ h ∈ headers, h.type ∈ ([0, 43, 44, 51, 60, 135] : List Protocol)) ∧
        offset = 40 + totalSize headers ∧ offset ≤ packet.length := by
  by_cases hfallback : resolve packet next = (next, 40)
  · refine .inl ⟨hfallback, ?_⟩
    intro headers upper hsome hchain hupper
    rw [← Protocol.isUpperLayer_iff] at hupper
    rw [← Nat.not_lt]
    intro hshort
    have hresolve := hchain.resolve_of_short hsome hupper hshort
    rw [hfallback] at hresolve
    exact hchain.ne_of_isUpperLayer hsome hupper (congrArg Prod.fst hresolve)
  · obtain ⟨headers, upper, hsome, hchain, hupper, hresolve⟩ :=
      exists_chain_of_resolve_ne hfallback
    exact .inr ⟨headers, upper, _, hresolve, Protocol.isUpperLayer_iff.1 hupper, hsome, hchain,
      fun h _ => h.type_mem, rfl, hchain.end_le hsome⟩

/-- A chain that ends at an upper-layer protocol is followed to its end if it has fewer than
sixteen headers, and is given up if it has sixteen or more. -/
theorem resolve_eq_end_iff_length_lt (hchain : Chain packet 40 first headers upper)
    (hsome : headers ≠ []) (hupper : upper ∈ ([1, 6, 17, 58] : List Protocol)) :
    (resolve packet first = (upper, 40 + totalSize headers) ↔ headers.length < 16) ∧
      (16 ≤ headers.length → resolve packet first = (first, 40)) := by
  rw [← Protocol.isUpperLayer_iff] at hupper
  refine ⟨⟨?_, hchain.resolve_of_short hsome hupper⟩, hchain.resolve_of_long⟩
  intro hresolve
  rw [← Nat.not_le]
  intro hlong
  rw [hchain.resolve_of_long hlong] at hresolve
  exact hchain.ne_of_isUpperLayer hsome hupper (congrArg Prod.fst hresolve)

/-- Hop-by-hop options of eight bytes, all of them padding. -/
def padding (following : Protocol) : Header := ⟨0, following, 0, List.replicate 6 0, by decide⟩

/-- So many hop-by-hop headers, and one more that announces TCP. -/
def paddingToTcp (n : Nat) : List Header := List.replicate n (padding 0) ++ [padding 6]

/-- A packet from `fd00::1` to `2001:db8::2` with these headers in front of a TCP header. -/
def paddedPacket (n : Nat) : Bytes :=
  let payload := (paddingToTcp n).flatMap Header.bytes ++ List.replicate 20 0
  [0x60, 0, 0, 0, 0, UInt8.ofNat payload.length, 0, 64] ++
    ([0xfd] ++ List.replicate 14 0 ++ [1]) ++
    ([0x20, 0x01, 0x0d, 0xb8] ++ List.replicate 11 0 ++ [2]) ++ payload

/-- Fifteen headers are followed to the TCP header behind them. -/
theorem resolve_eq_end_iff_length_lt_fifteen :
    Chain (paddedPacket 14) 40 0 (paddingToTcp 14) 6 ∧ paddingToTcp 14 ≠ [] ∧
      (paddingToTcp 14).length = 15 ∧ resolve (paddedPacket 14) 0 = (6, 160) := by
  have hchain : Chain (paddedPacket 14) 40 0 (paddingToTcp 14) 6 := by decide +kernel
  have hsome : paddingToTcp 14 ≠ [] := List.cons_ne_nil _ _
  have hlength : (paddingToTcp 14).length = 15 := rfl
  refine ⟨hchain, hsome, hlength, ?_⟩
  exact (resolve_eq_end_iff_length_lt hchain hsome (by decide)).1.2 (by decide)

/-- Sixteen headers are no more than a walk may pass, and are given up all the same. -/
theorem exists_given_up_within_maxHeaders :
    ¬ ∀ (packet : Bytes) (first upper : Protocol) (headers : List Header),
      Chain packet 40 first headers upper → 1 ≤ headers.length → headers.length ≤ maxHeaders →
        upper ∈ ([1, 6, 17, 58] : List Protocol) →
          resolve packet first = (upper, 40 + totalSize headers) := by
  intro h
  have hchain : Chain (paddedPacket 15) 40 0 (paddingToTcp 15) 6 := by decide +kernel
  have hfollowed :=
    h (paddedPacket 15) 0 6 (paddingToTcp 15) hchain (by decide) (by decide) (by decide)
  rw [hchain.resolve_of_long (by decide)] at hfollowed
  exact absurd (congrArg Prod.fst hfollowed) (by decide)

end Extension

end TunnelFirewall
