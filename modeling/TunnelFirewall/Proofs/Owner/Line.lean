import TunnelFirewall.Owner.Connection
import TunnelFirewall.Proofs.Outer.Hex
import TunnelFirewall.Proofs.Text.Columns
import TunnelFirewall.Proofs.Text.Fields

/-!
# Lines of a connection table

The kernel writes a socket as a line of columns. An address is written word by word, each word of
four octets as the number that the machine holds there, so the first octet is the lowest one; a port
is a hexadecimal number and a uid a decimal one. Every such line is read as the socket that it was
written for, whatever stands in the other columns.
-/
namespace TunnelFirewall

/-- The number that a little-endian machine holds in four octets. -/
def hostWord (a b c d : UInt8) : Nat :=
  a.toNat + 256 * (b.toNat + 256 * (c.toNat + 256 * d.toNat))

/-- The text is the octets word by word, each as the eight digits of its number. -/
inductive WritesWords : Bytes → List Char → Prop
  | nil : WritesWords [] []
  | cons {a b c d : UInt8} {word : List Char} {octets : Bytes} {text : List Char}
      (width : word.length = 8) (digits : Numeral.Writes 16 (hostWord a b c d) word)
      (rest : WritesWords octets text) : WritesWords (a :: b :: c :: d :: octets) (word ++ text)

/-- One end of a socket. -/
structure Endpoint where
  address : Address
  port : UInt16
deriving DecidableEq

/-- A column with an endpoint: the address, a colon, and the port in hexadecimal digits. -/
def Endpoint.Writes (endpoint : Endpoint) (field : List Char) : Prop :=
  ∃ address port, field = address ++ ':' :: port ∧
    WritesWords endpoint.address.octets address ∧ Numeral.Writes 16 endpoint.port.toNat port

/-- A socket as the kernel holds it, both addresses of one version. -/
structure KernelSocket where
  localEnd : Endpoint
  remoteEnd : Endpoint
  uid : UInt32
  same_version : remoteEnd.address.version = localEnd.address.version

namespace KernelSocket

/-- The version of the table that lists the socket. -/
def version (socket : KernelSocket) : IpVersion := socket.localEnd.address.version

/-- The socket with its addresses in mapped form. -/
def connection (socket : KernelSocket) : Connection where
  localAddress := socket.localEnd.address.toIPv6
  localPort := socket.localEnd.port
  remoteAddress := socket.remoteEnd.address.toIPv6
  remotePort := socket.remoteEnd.port
  uid := socket.uid

/-- The columns of the line that lists a socket. The others hold what they like. -/
structure Columns (socket : KernelSocket) (columns : List (List Char)) : Prop where
  localEnd : ∃ field, columns[Connection.localColumn]? = some field ∧ socket.localEnd.Writes field
  remoteEnd :
    ∃ field, columns[Connection.remoteColumn]? = some field ∧ socket.remoteEnd.Writes field
  uid : ∃ field, columns[Connection.uidColumn]? = some field ∧
    Numeral.Writes 10 socket.uid.toNat field

/-- The text is a line for the socket, with any blanks around its columns. -/
def IsWritten (socket : KernelSocket) (text : String) : Prop :=
  ∃ row after, text.toList = Text.lineOf row after ∧ Text.IsRow row after ∧
    socket.Columns (row.map Text.Column.word)

end KernelSocket

theorem isBlank_of_digit? {radix : Nat} {c : Char} {value : Nat}
    (h : Numeral.digit? radix c = some value) : Text.isBlank c = false := by
  rw [Numeral.digit?_eq] at h
  have hsome := (Option.filter_eq_some_iff.1 h).1
  have hrange : 48 ≤ c.toNat ∧ c.toNat ≤ 122 := by grind
  simp only [Text.isBlank, Bool.or_eq_false_iff, Bool.and_eq_false_iff, decide_eq_false_iff_not,
    beq_eq_false_iff_ne]
  omega

theorem Numeral.Writes.isBlank_eq_false {radix n : Nat} {text : List Char}
    (h : Numeral.Writes radix n text) (hone : 1 < radix) (hradix : radix ≤ 16) {c : Char}
    (hc : c ∈ text) : Text.isBlank c = false := by
  obtain ⟨value, hvalue⟩ := h.exists_digit hone hradix hc
  exact isBlank_of_digit? hvalue

namespace Connection

theorem swapWords_swapWords (octets : Bytes) : swapWords (swapWords octets) = octets := by
  fun_induction swapWords octets with
  | case1 a b c d rest ih => rw [swapWords, ih]
  | case2 rest short =>
    unfold swapWords
    split
    · exact absurd rfl (short _ _ _ _ _)
    · rfl

theorem length_swapWords (octets : Bytes) : (swapWords octets).length = octets.length := by
  fun_induction swapWords octets with
  | case1 a b c d rest ih => simp only [List.length_cons, ih]
  | case2 => rfl

end Connection

namespace Address

theorem length_octets (address : Address) :
    address.octets.length = Connection.addressSize address.version := by
  cases address with
  | v4 a => rfl
  | v6 a => exact a.length_octets

/-- An address is known by its octets. -/
theorem octets_inj {a b : Address} (h : a.octets = b.octets) : a = b := by
  cases a with
  | v4 a =>
    cases b with
    | v4 b => exact congrArg v4 (Option.some.inj (congrArg IPv4.ofOctets? h))
    | v6 b =>
      have hlength : 4 = b.octets.length := congrArg List.length h
      rw [b.length_octets] at hlength
      contradiction
  | v6 a =>
    cases b with
    | v4 b =>
      have hlength : a.octets.length = 4 := congrArg List.length h
      rw [a.length_octets] at hlength
      contradiction
    | v6 b =>
      have hread := congrArg IPv6.ofOctets? h
      simp only [octets, IPv6.ofOctets?_octets] at hread
      exact congrArg v6 (Option.some.inj hread)

theorem addressOf?_octets (address : Address) :
    Connection.addressOf? address.version address.octets = some address.toIPv6 := by
  cases address with
  | v4 a => rfl
  | v6 a => exact IPv6.ofOctets?_octets a

end Address

/-- The octets of a word are known by its number. -/
theorem hostWord_inj {a b c d a' b' c' d' : UInt8} (h : hostWord a b c d = hostWord a' b' c' d') :
    a = a' ∧ b = b' ∧ c = c' ∧ d = d' := by
  have lt (byte : UInt8) : byte.toNat < 256 := byte.toNat_lt
  have hword := And.intro (lt a) (And.intro (lt b) (lt c))
  have hother := And.intro (lt a') (And.intro (lt b') (lt c'))
  unfold hostWord at h
  simp only [← UInt8.toNat_inj]
  omega

/-- Eight digits have room for a word. -/
theorem length_toDigits_hostWord (a b c d : UInt8) :
    (Nat.toDigits 16 (hostWord a b c d)).length ≤ 8 := by
  have hlt : hostWord a b c d < 4294967296 := by
    have := a.toNat_lt
    have := b.toNat_lt
    have := c.toNat_lt
    have := d.toNat_lt
    unfold hostWord
    omega
  exact (Nat.length_toDigits_le_iff (by decide) (by decide)).2 hlt

/-- The digits of a word spell its octets, the last one first. -/
theorem spells_word {a b c d : UInt8} {word : List Char} (width : word.length = 8)
    (digits : Numeral.Writes 16 (hostWord a b c d) word) : Hex.Spells word [d, c, b, a] := by
  have hread := digits.digits?_eq (by decide) (by decide)
  rw [Numeral.digits?_of_ne_nil digits.ne_nil] at hread
  obtain ⟨bytes, hspells, hnumber⟩ := Hex.exists_spells (by rw [width]) hread
  have hlength : bytes.length = 4 := by
    have := hspells.length_text
    omega
  obtain ⟨w, x, y, z, rfl⟩ : ∃ w x y z, bytes = [w, x, y, z] := by
    match bytes, hlength with
    | [w, x, y, z], _ => exact ⟨w, x, y, z, rfl⟩
  have hword : hostWord z y x w = hostWord a b c d := by
    rw [← hnumber]
    simp only [List.foldl_cons, List.foldl_nil, hostWord]
    omega
  obtain ⟨rfl, rfl, rfl, rfl⟩ := hostWord_inj hword
  exact hspells

namespace WritesWords

variable {octets : Bytes} {text : List Char}

theorem spells (h : WritesWords octets text) : Hex.Spells text (Connection.swapWords octets) := by
  induction h with
  | nil => exact .nil
  | cons width digits _ ih => exact (spells_word width digits).append ih

/-- A text writes the octets of one address at most. -/
theorem unique {other : Bytes} (h : WritesWords octets text) (hother : WritesWords other text) :
    octets = other := by
  have hswap := congrArg Connection.swapWords (h.spells.unique hother.spells)
  rwa [Connection.swapWords_swapWords, Connection.swapWords_swapWords] at hswap

theorem colon_not_mem (h : WritesWords octets text) : ':' ∉ text := by
  intro hmem
  obtain ⟨value, hvalue⟩ := h.spells.exists_digit hmem
  cases hvalue

theorem isBlank_eq_false (h : WritesWords octets text) {c : Char} (hc : c ∈ text) :
    Text.isBlank c = false := by
  obtain ⟨value, hvalue⟩ := h.spells.exists_digit hc
  exact isBlank_of_digit? hvalue

/-- An address that is written word by word is read in its mapped form. -/
theorem readAddress_eq [HexDecoder] (hdecoder : HexDecoder.Lawful) {address : Address}
    (h : WritesWords address.octets text) (line : Nat) :
    Connection.readAddress address.version line (String.ofList text) = .ok address.toIPv6 := by
  have hlength := Connection.length_swapWords address.octets
  rw [address.length_octets] at hlength
  have hencode := h.spells.length_encode
  have hread := h.spells.decodeExact_eq hdecoder
  rw [hlength] at hencode hread
  simp only [Connection.readAddress, hencode, ne_eq, not_true_eq_false, if_false, hread,
    Connection.swapWords_swapWords, Address.addressOf?_octets]

/-- Octets in whole words can be written. -/
theorem exists_text (words : Nat) {octets : Bytes} (h : octets.length = 4 * words) :
    ∃ text, WritesWords octets text := by
  induction words generalizing octets with
  | zero =>
    obtain rfl := List.eq_nil_of_length_eq_zero h
    exact ⟨[], .nil⟩
  | succ words ih =>
    match octets, h with
    | a :: b :: c :: d :: octets, h =>
      obtain ⟨word, width, digits⟩ :=
        Numeral.exists_writes_of_length_le (by decide) (Nat.le_refl 16)
          (length_toDigits_hostWord a b c d)
      have hrest : octets.length = 4 * words := by
        simp only [List.length_cons] at h
        omega
      obtain ⟨text, htext⟩ := ih hrest
      exact ⟨word ++ text, .cons width digits htext⟩

end WritesWords

namespace Endpoint

variable {endpoint : Endpoint} {field : List Char}

theorem exists_field (endpoint : Endpoint) : ∃ field, endpoint.Writes field := by
  obtain ⟨address, haddress⟩ : ∃ text, WritesWords endpoint.address.octets text := by
    have hlength := endpoint.address.length_octets
    cases hversion : endpoint.address.version with
    | v4 => exact WritesWords.exists_text 1 (by rw [hlength, hversion]; rfl)
    | v6 => exact WritesWords.exists_text 4 (by rw [hlength, hversion]; rfl)
  exact ⟨_, address, _, rfl, haddress, Numeral.writes_toDigits (by decide) (Nat.le_refl 16) _⟩

theorem Writes.isWord (h : endpoint.Writes field) : Text.IsWord field := by
  obtain ⟨address, port, rfl, haddress, hport⟩ := h
  refine ⟨by simp, ?_⟩
  intro c hc
  rcases List.mem_append.1 hc with hc | hc
  · exact haddress.isBlank_eq_false hc
  rcases List.mem_cons.1 hc with rfl | hc
  · decide
  · exact hport.isBlank_eq_false (by decide) (Nat.le_refl 16) hc

/-- A column is one endpoint at most. -/
theorem Writes.unique {other : Endpoint} (h : endpoint.Writes field)
    (hother : other.Writes field) : endpoint = other := by
  obtain ⟨address, port, rfl, haddress, hport⟩ := h
  obtain ⟨address', port', heq, haddress', hport'⟩ := hother
  have hcut := Text.cut?_append haddress.colon_not_mem port
  rw [heq, Text.cut?_append haddress'.colon_not_mem] at hcut
  obtain ⟨rfl, rfl⟩ := Prod.mk.inj (Option.some.inj hcut)
  have haddressSame := Address.octets_inj (haddress.unique haddress')
  have hportSame := UInt16.toNat_inj.1 (hport.unique hport' (by decide) (Nat.le_refl 16))
  cases endpoint
  cases other
  subst haddressSame hportSame
  rfl

theorem Writes.readEndpoint_eq [HexDecoder] (hdecoder : HexDecoder.Lawful)
    (h : endpoint.Writes field) (line : Nat) :
    Connection.readEndpoint endpoint.address.version line field =
      .ok (endpoint.address.toIPv6, endpoint.port) := by
  obtain ⟨address, port, rfl, haddress, hport⟩ := h
  have hnumber := hport.below?_eq (by decide) (Nat.le_refl 16) endpoint.port.toNat_lt
  rw [show (2 : Nat) ^ 16 = 65536 from rfl] at hnumber
  simp only [Connection.readEndpoint, Text.cut?_append haddress.colon_not_mem, hnumber,
    haddress.readAddress_eq hdecoder, UInt16.ofNat_toNat]

end Endpoint

namespace KernelSocket

variable {socket : KernelSocket} {text : String}

theorem Columns.read_eq [HexDecoder] (hdecoder : HexDecoder.Lawful) {columns : List (List Char)}
    (h : socket.Columns columns) (htext : Text.columns text.toList = columns) (line : Nat) :
    Connection.read socket.version line text = .ok socket.connection := by
  obtain ⟨localField, hlocal, hlocalEnd⟩ := h.localEnd
  obtain ⟨remoteField, hremote, hremoteEnd⟩ := h.remoteEnd
  obtain ⟨uidField, huid, hnumber⟩ := h.uid
  have hread := hremoteEnd.readEndpoint_eq hdecoder line
  rw [socket.same_version] at hread
  have huidRead := hnumber.below?_eq (by decide) (by decide) socket.uid.toNat_lt
  rw [show (2 : Nat) ^ 32 = 4294967296 from rfl] at huidRead
  simp only [Connection.read, htext, Connection.column, hlocal, hremote, huid, version,
    bind, Except.bind, hlocalEnd.readEndpoint_eq hdecoder, hread, huidRead, UInt32.ofNat_toNat]
  rfl

/-- Every socket can be listed. -/
theorem exists_text (socket : KernelSocket) : ∃ text, socket.IsWritten text := by
  obtain ⟨localField, hlocal⟩ := socket.localEnd.exists_field
  obtain ⟨remoteField, hremote⟩ := socket.remoteEnd.exists_field
  have huid : Numeral.Writes 10 socket.uid.toNat (Nat.toDigits 10 socket.uid.toNat) :=
    Numeral.writes_toDigits (by decide) (by decide) _
  let words :=
    [['0'], localField, remoteField, ['0'], ['0'], ['0'], ['0'], Nat.toDigits 10 socket.uid.toNat]
  let row : List Text.Column := words.map fun word => ⟨[' '], word⟩
  have hwords : row.map Text.Column.word = words := by simp [row, Function.comp_def]
  have hrow : Text.IsRow row [] := by
    apply Text.isRow_spaced
    have hzero : Text.IsWord ['0'] := by decide
    have huidWord : Text.IsWord (Nat.toDigits 10 socket.uid.toNat) :=
      ⟨huid.ne_nil, fun c hc => huid.isBlank_eq_false (by decide) (by decide) hc⟩
    simp only [words, List.forall_mem_cons]
    exact ⟨hzero, hlocal.isWord, hremote.isWord, hzero, hzero, hzero, hzero, huidWord, nofun⟩
  refine ⟨String.ofList (Text.lineOf row []), row, [], String.toList_ofList, hrow, ?_⟩
  rw [hwords]
  exact ⟨⟨localField, rfl, hlocal⟩, ⟨remoteField, rfl, hremote⟩, ⟨_, rfl, huid⟩⟩

theorem Columns.unique {other : KernelSocket} {columns : List (List Char)}
    (h : socket.Columns columns) (hother : other.Columns columns) : other = socket := by
  obtain ⟨_, hlocal, hlocalEnd⟩ := h.localEnd
  obtain ⟨_, hremote, hremoteEnd⟩ := h.remoteEnd
  obtain ⟨_, huid, hnumber⟩ := h.uid
  obtain ⟨_, hlocal', hlocalEnd'⟩ := hother.localEnd
  obtain ⟨_, hremote', hremoteEnd'⟩ := hother.remoteEnd
  obtain ⟨_, huid', hnumber'⟩ := hother.uid
  obtain rfl := Option.some.inj (hlocal.symm.trans hlocal')
  obtain rfl := Option.some.inj (hremote.symm.trans hremote')
  obtain rfl := Option.some.inj (huid.symm.trans huid')
  have hlocalSame := hlocalEnd'.unique hlocalEnd
  have hremoteSame := hremoteEnd'.unique hremoteEnd
  have huidSame := UInt32.toNat_inj.1 (hnumber'.unique hnumber (by decide) (by decide))
  cases other
  cases socket
  subst hlocalSame hremoteSame huidSame
  rfl

/-- A line that lists a socket is read as that socket, with IPv4 addresses in mapped form, and it
lists no other socket. -/
theorem read_written [HexDecoder] (hdecoder : HexDecoder.Lawful) (socket : KernelSocket) :
    (∃ text, socket.IsWritten text) ∧
      ∀ text, socket.IsWritten text →
        (∀ line, Connection.read socket.version line text = .ok socket.connection) ∧
          ∀ other : KernelSocket, other.IsWritten text → other = socket := by
  refine ⟨socket.exists_text, fun text htext => ?_⟩
  obtain ⟨row, after, hline, hrow, hcolumns⟩ := htext
  have hread : Text.columns text.toList = row.map Text.Column.word := by
    rw [hline, Text.columns_lineOf hrow]
  refine ⟨hcolumns.read_eq hdecoder hread, ?_⟩
  rintro other ⟨row', after', hline', hrow', hcolumns'⟩
  have hread' : Text.columns text.toList = row'.map Text.Column.word := by
    rw [hline', Text.columns_lineOf hrow']
  rw [← hread', hread] at hcolumns'
  exact hcolumns.unique hcolumns'

/-- The loopback listener of a table line from a running kernel. -/
theorem read_written_loopback :
    Connection.read .v4 2 ("   0: 0100007F:1F90 00000000:0000 0A 00000000:00000000 " ++
      "00:00000000 00000000  1000        0 12345") =
      .ok ⟨(IPv4.mk 127 0 0 1).mapped, 8080, IPv4.unspecified.mapped, 0, 1000⟩ := by
  let socket : KernelSocket :=
    ⟨⟨.v4 ⟨127, 0, 0, 1⟩, 8080⟩, ⟨.v4 .unspecified, 0⟩, 1000, rfl⟩
  let row : List Text.Column :=
    [⟨"   ".toList, "0:".toList⟩, ⟨" ".toList, "0100007F:1F90".toList⟩,
      ⟨" ".toList, "00000000:0000".toList⟩, ⟨" ".toList, "0A".toList⟩,
      ⟨" ".toList, "00000000:00000000".toList⟩, ⟨" ".toList, "00:00000000".toList⟩,
      ⟨" ".toList, "00000000".toList⟩, ⟨"  ".toList, "1000".toList⟩,
      ⟨"        ".toList, "0".toList⟩, ⟨" ".toList, "12345".toList⟩]
  have hrow : Text.IsRow row [] := ⟨by decide, by decide, by decide, by decide⟩
  have hlocal : socket.localEnd.Writes "0100007F:1F90".toList :=
    ⟨"0100007F".toList ++ [], "1F90".toList, by decide, .cons (by decide) ⟨1, by decide⟩ .nil,
      ⟨0, by decide⟩⟩
  have hremote : socket.remoteEnd.Writes "00000000:0000".toList :=
    ⟨"00000000".toList ++ [], "0000".toList, by decide, .cons (by decide) ⟨7, by decide⟩ .nil,
      ⟨3, by decide⟩⟩
  have hcolumns : socket.Columns (row.map Text.Column.word) :=
    ⟨⟨_, rfl, hlocal⟩, ⟨_, rfl, hremote⟩, ⟨_, rfl, ⟨0, by decide⟩⟩⟩
  exact ((read_written Hex.pairDecoder_lawful socket).2 _ ⟨row, [], by decide, hrow, hcolumns⟩).1 2

end KernelSocket

end TunnelFirewall
