import TunnelFirewall.Config.Basic
import TunnelFirewall.Probe.Wait

/-!
# Errors of the program

What can keep the firewall from starting or going on. Packets never do: a malformed packet is
dropped.
-/
namespace TunnelFirewall

inductive Error
  | config (error : Config.Error)
  | probe (error : Probe.Error)
  | io (failure : IoFailure)
deriving DecidableEq

namespace Error

def message : Error → String
  | .config error => "Configuration error: " ++ error.message
  | .probe error => "Probe error: " ++ error.message
  | .io failure => "I/O error: " ++ failure.message

/-- The same operation may succeed when it is tried again. -/
def isRecoverable : Error → Bool
  | .config error => error.isRecoverable
  | .probe error => error.isRecoverable
  | .io failure => failure.isTransient

end Error

end TunnelFirewall
