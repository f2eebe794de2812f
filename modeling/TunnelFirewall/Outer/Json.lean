import TunnelFirewall.Outer.Json.Parser
import TunnelFirewall.Outer.Json.Printer
import TunnelFirewall.Outer.Json.Record

/-!
# A reader and writer of JSON

The parts of this directory put together.
-/
namespace TunnelFirewall.PlainJson

open Json

instance codec : JsonCodec where
  parse? := parse?
  print layout := write layout 0
  IsNumber lexeme := (∀ c ∈ lexeme.toList, Token.isNumeric c = true) ∧
    Token.ofNumeric? lexeme.toList = some (.number lexeme)
  record? := record?
  tagged? := tagged?
  unitName? := variantName?
  isNothing := isNothing false
  asUInt64? := asUInt64?
  asUInt16? := asUInt16?
  asBool? := asBool?
  asText? := asText?

end TunnelFirewall.PlainJson
