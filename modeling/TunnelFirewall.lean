import TunnelFirewall.Bytes.Cursor
import TunnelFirewall.Bytes.SerialNumber
import TunnelFirewall.Engine.Codec
import TunnelFirewall.Main
import TunnelFirewall.Proofs.Engine.Mediation
import TunnelFirewall.Proofs.Owner.Transparency
import TunnelFirewall.Proofs.Tls.Grammar
import TunnelFirewall.Proofs.Engine.Admission
import TunnelFirewall.Proofs.Engine.Agreement
import TunnelFirewall.Proofs.Engine.Drop
import TunnelFirewall.Proofs.Engine.Inspection
import TunnelFirewall.Proofs.Tls.Record
import TunnelFirewall.Proofs.Owner.Cold
import TunnelFirewall.Proofs.Diagnostic.Blocking
import TunnelFirewall.Proofs.Engine.Conservation
import TunnelFirewall.Proofs.Diagnostic.Capacity
import TunnelFirewall.Proofs.Diagnostic.Output
import TunnelFirewall.Proofs.Diagnostic.Overrides
import TunnelFirewall.Proofs.Owner.Accounts
import TunnelFirewall.Proofs.Probe.Conduct
import TunnelFirewall.Proofs.Config.Omission
import TunnelFirewall.Proofs.Engine.Codec
import TunnelFirewall.Proofs.Packet.Chain
import TunnelFirewall.Proofs.Owner.Placement
import TunnelFirewall.Proofs.Owner.Interruption
import TunnelFirewall.Proofs.Packet.Truncation
import TunnelFirewall.Proofs.Bytes.SerialNumber
import TunnelFirewall.Proofs.Owner.Warm
import TunnelFirewall.Proofs.Owner.Line
import TunnelFirewall.Proofs.Tls.Enlargement
import TunnelFirewall.Proofs.Bytes.Detection
import TunnelFirewall.Proofs.Bytes.Decoding
import TunnelFirewall.Proofs.Text.Characters
import TunnelFirewall.Proofs.Bytes.Nesting
