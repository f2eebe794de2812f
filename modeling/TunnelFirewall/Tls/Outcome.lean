import TunnelFirewall.Owner.Basic

/-!
# Findings about TLS

What a look at one TCP payload can find, what it means for the session, and the session's own
state. A session takes its server name from the first handshake that has one and keeps it.
-/
namespace TunnelFirewall.Tls

/-- Why a handshake record was rejected. -/
inductive RejectReason
  /-- A field extends past the end of the record. -/
  | truncated
  /-- The handshake message is of another type. -/
  | notClientHello
  /-- The extensions block does not fit in the record. -/
  | extensionsOverrun
  /-- An extension does not fit in the extensions block. -/
  | extensionOverrun
  /-- The server name is longer than a domain name can be. -/
  | hostnameTooLong
deriving DecidableEq

def RejectReason.message : RejectReason → String
  | .truncated => "truncated handshake"
  | .notClientHello => "not a ClientHello"
  | .extensionsOverrun => "extensions block overruns record"
  | .extensionOverrun => "extension overruns extensions block"
  | .hostnameTooLong => "server name too long"

/-- What a look at one TCP payload found. -/
inductive Finding
  /-- The handshake names this server. -/
  | hostname (name : String)
  /-- Application data of a session whose server name is known. -/
  | readyToDecide
  /-- The payload does not start with a TLS record. -/
  | notTls
  /-- The version is too old to carry a server name. -/
  | predatesSni
  /-- A TLS record that calls for nothing. -/
  | notActionable
  | noExtensions
  | noSni
  | rejected (reason : RejectReason)
  /-- The server name is no text. -/
  | invalidEncoding
deriving DecidableEq

namespace Finding

def hostname? : Finding → Option String
  | .hostname name => some name
  | _ => none

/-- The payload was malformed or its name unusable. -/
def isFailure : Finding → Bool
  | .rejected _ | .invalidEncoding => true
  | _ => false

end Finding

/-- What the inspection of a payload means for its session. -/
inductive Verdict
  /-- The session has just taken this server name. -/
  | captured (name : String)
  /-- There is nothing to block. -/
  | allow
  /-- The session's server name is blocked. -/
  | block
deriving DecidableEq

/-- The session has to end. -/
def Verdict.isBlock : Verdict → Bool
  | .block => true
  | _ => false

/-- What is kept about one TLS session. -/
structure Session where
  owner : Owner := .notLooked
  /-- The server name, once a handshake has told it. -/
  hostname : Option String := none
deriving DecidableEq

namespace Session

/-- The session after a server name came up, and whether it was taken: only a nonempty name is,
and only by a session that has none. -/
def record (name : String) (session : Session) : Bool × Session :=
  if session.hostname = none ∧ name ≠ "" then (true, { session with hostname := some name })
  else (false, session)

end Session

end TunnelFirewall.Tls
