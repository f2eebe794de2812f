import TunnelFirewall.Engine.Stats
import TunnelFirewall.Json.Codec

/-!
# Findings and decisions as JSON

The written forms of TLS findings, reasons and verdicts, of redirects and of counters, and
readers for them. Findings and verdicts are choices with a tag and a content.
-/
namespace TunnelFirewall

open Json JsonCodec

variable [JsonCodec]

namespace Tls

namespace RejectReason

def name : RejectReason → String
  | .truncated => "truncated"
  | .notClientHello => "not_client_hello"
  | .extensionsOverrun => "extensions_overrun"
  | .extensionOverrun => "extension_overrun"
  | .hostnameTooLong => "hostname_too_long"

def ofName? : String → Option RejectReason
  | "truncated" => some .truncated
  | "not_client_hello" => some .notClientHello
  | "extensions_overrun" => some .extensionsOverrun
  | "extension_overrun" => some .extensionOverrun
  | "hostname_too_long" => some .hostnameTooLong
  | _ => none

def toJson (reason : RejectReason) : Json := .text reason.name

/-- Reads a reason; `relaxed` is passed to the reading of its name. -/
def ofJson? (relaxed : Bool) (json : Json) : Option RejectReason :=
  (unitName? relaxed json).bind ofName?

end RejectReason

namespace Finding

def toJson : Finding → Json
  | .hostname name => Json.ofMembers [("outcome", .text "hostname"), ("detail", .text name)]
  | .readyToDecide => Json.ofMembers [("outcome", .text "ready_to_decide")]
  | .notTls => Json.ofMembers [("outcome", .text "not_tls")]
  | .predatesSni => Json.ofMembers [("outcome", .text "predates_sni")]
  | .notActionable => Json.ofMembers [("outcome", .text "not_actionable")]
  | .noExtensions => Json.ofMembers [("outcome", .text "no_extensions")]
  | .noSni => Json.ofMembers [("outcome", .text "no_sni")]
  | .rejected reason => Json.ofMembers [("outcome", .text "rejected"), ("detail", reason.toJson)]
  | .invalidEncoding => Json.ofMembers [("outcome", .text "invalid_encoding")]

def ofJson? (json : Json) : Option Finding := do
  let tagged ← tagged? "outcome" "detail" json
  match tagged.tag with
  | "hostname" => (tagged.content asText?).map .hostname
  | "ready_to_decide" => tagged.unit? .readyToDecide
  | "not_tls" => tagged.unit? .notTls
  | "predates_sni" => tagged.unit? .predatesSni
  | "not_actionable" => tagged.unit? .notActionable
  | "no_extensions" => tagged.unit? .noExtensions
  | "no_sni" => tagged.unit? .noSni
  | "rejected" => (tagged.content (RejectReason.ofJson? tagged.isContentFirst)).map .rejected
  | "invalid_encoding" => tagged.unit? .invalidEncoding
  | _ => none

end Finding

namespace Verdict

def toJson : Verdict → Json
  | .captured name => Json.ofMembers [("verdict", .text "captured"), ("hostname", .text name)]
  | .allow => Json.ofMembers [("verdict", .text "allow")]
  | .block => Json.ofMembers [("verdict", .text "block")]

def ofJson? (json : Json) : Option Verdict := do
  let tagged ← tagged? "verdict" "hostname" json
  match tagged.tag with
  | "captured" => (tagged.content asText?).map .captured
  | "allow" => tagged.unit? .allow
  | "block" => tagged.unit? .block
  | _ => none

end Verdict

end Tls

/-- Reads an address from its text. -/
def Address.ofJson? (json : Json) : Option Address := (asText? json).bind Address.read?

namespace Redirect

def toJson (r : Redirect) : Json :=
  Json.ofMembers [("address", r.address.elim .null fun a => .text a.text),
    ("port", .count r.port.toNat)]

/-- Reads a redirect. Only a record given as an object may leave the address out. -/
def ofJson? (json : Json) : Option Redirect := do
  let record ← record? ["address", "port"] json
  let address ←
    if record.isPositional then record.require? (optional? Address.ofJson?) "address"
    else record.getD? (optional? Address.ofJson?) "address" none
  let port ← record.require? asUInt16? "port"
  return ⟨address, port⟩

end Redirect

namespace Stats

/-- The names of the counters, in order. -/
def names : List String :=
  ["received", "allowed", "blocked", "dropped_malformed", "dropped_unsupported",
    "dropped_session_limit", "tls_hostnames", "tls_blocked", "max_packet_len"]

/-- The counters in the order of their names. -/
def values (s : Stats) : List UInt64 :=
  [s.received, s.allowed, s.blocked, s.droppedMalformed, s.droppedUnsupported,
    s.droppedSessionLimit, s.tlsHostnames, s.tlsBlocked, s.maxPacketLength]

def toJson (s : Stats) : Json :=
  Json.ofMembers (names.zip (s.values.map fun value => .count value.toNat))

/-- Reads counters, all of which must be there. -/
def ofJson? (json : Json) : Option Stats := do
  let record ← record? names json
  let counter := record.require? asUInt64?
  return {
    received := ← counter "received"
    allowed := ← counter "allowed"
    blocked := ← counter "blocked"
    droppedMalformed := ← counter "dropped_malformed"
    droppedUnsupported := ← counter "dropped_unsupported"
    droppedSessionLimit := ← counter "dropped_session_limit"
    tlsHostnames := ← counter "tls_hostnames"
    tlsBlocked := ← counter "tls_blocked"
    maxPacketLength := ← counter "max_packet_len" }

end Stats

end TunnelFirewall
