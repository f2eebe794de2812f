import TunnelFirewall.Text.Utf8
import TunnelFirewall.Tls.Outcome

/-!
# Server names in TLS records

A handshake record holds a client hello, which holds an extensions block, which holds the
server name extension, which holds a list of names. Every block stands behind its length, and a
length that does not fit in the block around it is an error, so nothing is ever read from
outside the record. The first name of type zero decides.
-/
namespace TunnelFirewall.Tls

/-- The first byte of a handshake record. -/
def handshakeType : UInt8 := 22

/-- The first byte of an application-data record. -/
def applicationDataType : UInt8 := 23

/-- The longest server name that is accepted, in bytes. -/
def maxHostnameLength : Nat := 255

/-- The finding about the bytes of a server name. -/
def ofName (name : Bytes) : Finding :=
  if name = [] then .noSni
  else if !Utf8.isStructural name then .invalidEncoding
  else
    match Utf8.decode? name with
    | some text => .hostname text
    | none => .invalidEncoding

/-- The finding about a list of names: entries of other types are passed over. -/
def ofNames : Bytes → Finding
  | [] => .noSni
  | type :: high :: low :: rest =>
    let length := Bytes.word high low
    if type ≠ 0 then
      if length ≤ rest.length then ofNames (rest.drop length) else .rejected .truncated
    else if maxHostnameLength < length then .rejected .hostnameTooLong
    else if length ≤ rest.length then ofName (rest.take length)
    else .rejected .truncated
  | _ => .rejected .truncated
termination_by names => names.length
decreasing_by simp only [List.length_drop, List.length_cons]; omega

/-- The finding about the body of a server name extension. -/
def ofServerName : Bytes → Finding
  | high :: low :: rest =>
    match Bytes.split? (Bytes.word high low) rest with
    | some (names, _) => ofNames names
    | none => .rejected .extensionOverrun
  | _ => .rejected .truncated

/-- The finding about an extensions block: the first extension of type zero decides, those of
other types before it only have to fit. -/
def ofExtensions : Bytes → Finding
  | [] => .noSni
  | typeHigh :: typeLow :: high :: low :: rest =>
    let length := Bytes.word high low
    if length ≤ rest.length then
      if Bytes.word typeHigh typeLow = 0 then ofServerName (rest.take length)
      else ofExtensions (rest.drop length)
    else .rejected .extensionOverrun
  | _ => .rejected .extensionOverrun
termination_by block => block.length
decreasing_by simp only [List.length_drop, List.length_cons]; omega

/-- What follows the fixed fields and the three vectors of a client hello: message length,
version and random, then session id, cipher suites and compression methods. -/
def skipHelloFields? (hello : Bytes) : Option Bytes := do
  let (_, rest) ← Bytes.split? 37 hello
  let (_, rest) ← Bytes.vector8? rest
  let (_, rest) ← Bytes.vector16? rest
  let (_, rest) ← Bytes.vector8? rest
  return rest

/-- The finding about what follows the fields of a client hello. -/
def ofHelloTail : Bytes → Finding
  | [] => .noExtensions
  | high :: low :: rest =>
    let length := Bytes.word high low
    if length = 0 then .noExtensions
    else
      match Bytes.split? length rest with
      | some (block, _) => ofExtensions block
      | none => .rejected .extensionsOverrun
  | _ => .rejected .truncated

/-- The finding about the content of a handshake record. -/
def ofHandshake : Bytes → Finding
  | [] => .rejected .truncated
  | type :: hello =>
    if type ≠ 1 then .rejected .notClientHello
    else
      match skipHelloFields? hello with
      | some tail => ofHelloTail tail
      | none => .rejected .truncated

/-- The finding about a handshake record, given what follows its type and version. -/
def ofRecord (bytes : Bytes) : Finding :=
  match Bytes.vector16? bytes with
  | some (content, _) => ofHandshake content
  | none => .rejected .truncated

/-- A hello of the version before TLS: the high bit of its length and its message type. -/
def isOldHello : Bytes → Bool
  | first :: _ :: third :: _ => first &&& 0x80 != 0 && third == 1
  | _ => false

/-- A look at a TCP payload of a session that may already have a server name. -/
def inspect (payload : Bytes) (cached : Option String) : Finding :=
  match payload with
  | [] => .notTls
  | type :: rest =>
    if isOldHello payload then .predatesSni
    else if type < 20 ∨ 24 < type then .notTls
    else
      match rest with
      | [] => .rejected .truncated
      | major :: rest =>
        if major < 3 then .predatesSni
        else if type = handshakeType then ofRecord (rest.drop 1)
        else if type = applicationDataType ∧ ∃ name ∈ cached, name ≠ "" then .readyToDecide
        else .notActionable

end TunnelFirewall.Tls
