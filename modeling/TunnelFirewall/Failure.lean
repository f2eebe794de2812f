import TunnelFirewall.Text.Line

/-!
# Failures of the outside world

A file that cannot be read, a descriptor that cannot be polled or a datagram that cannot be
sent fails with a kind and a text. What stands at a path is either nothing, a directory, the bytes
of a regular file or something that cannot be opened.
-/
namespace TunnelFirewall

/-- Results are comparable if failures and values are. -/
instance decidableEqExcept {ε α : Type} [DecidableEq ε] [DecidableEq α] :
    DecidableEq (Except ε α)
  | .ok a, .ok b => decidable_of_iff (a = b) (by rw [Except.ok.injEq])
  | .error a, .error b => decidable_of_iff (a = b) (by rw [Except.error.injEq])
  | .ok _, .error _ => isFalse (by simp)
  | .error _, .ok _ => isFalse (by simp)

/-- What sort of failure the system reported. -/
inductive IoFailure.Kind
  | timedOut
  | interrupted
  | wouldBlock
  | notFound
  | permissionDenied
  | isDirectory
  | invalidData
  | unsupported
  | other
deriving DecidableEq

/-- A failure that the system reported, with its wording. -/
structure IoFailure where
  kind : IoFailure.Kind
  message : String
deriving DecidableEq

namespace IoFailure

/-- The same operation may succeed when it is tried again. -/
def isTransient (failure : IoFailure) : Bool :=
  match failure.kind with
  | .timedOut | .interrupted | .wouldBlock => true
  | _ => false

/-- Nothing stands at the path. -/
def missing : IoFailure := ⟨.notFound, "No such file or directory (os error 2)"⟩

/-- A directory stands at the path. -/
def directory : IoFailure := ⟨.isDirectory, "Is a directory (os error 21)"⟩

/-- The bytes are no text. -/
def notText : IoFailure := ⟨.invalidData, "stream did not contain valid UTF-8"⟩

/-- The descriptor is not open. -/
def badDescriptor : IoFailure := ⟨.other, "Bad file descriptor (os error 9)"⟩

end IoFailure

/-- What stands at a path. -/
inductive FileState
  | absent
  | directory
  | regular (bytes : Bytes)
  /-- Something that fails to open. -/
  | unreadable (failure : IoFailure)
deriving DecidableEq

namespace FileState

/-- Something stands at the path. -/
def isPresent : FileState → Bool
  | .absent => false
  | _ => true

/-- The whole content as one text. -/
def readText : FileState → Except IoFailure String
  | .absent => .error .missing
  | .directory => .error .directory
  | .unreadable failure => .error failure
  | .regular bytes =>
    match Utf8.decode? bytes with
    | some text => .ok text
    | none => .error .notText

/-- The lines of the content, each by itself. A directory opens, and its first line fails. -/
def readLines : FileState → Except IoFailure (List (Except IoFailure String))
  | .absent => .error .missing
  | .directory => .ok [.error .directory]
  | .unreadable failure => .error failure
  | .regular bytes =>
    .ok ((Line.texts bytes).map fun
      | some line => .ok line
      | none => .error .notText)

end FileState

end TunnelFirewall
