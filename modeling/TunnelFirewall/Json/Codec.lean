import TunnelFirewall.Json.Basic

/-!
# What reads and writes JSON

The reading and writing of JSON comes from elsewhere. It is used for texts, for records, whose
fields are found by their names, and for choices between variants, each with a tag and perhaps a
content. What is done with the fields and with the content is decided here.
-/
namespace TunnelFirewall

namespace Json

/-- A text may be written on one line or indented. -/
inductive Layout
  | compact
  | indented
deriving DecidableEq

/-- The fields of a record that has been read. -/
structure Record where
  /-- It was given as an array. -/
  isPositional : Bool
  /-- The value of a field, if the field is there. -/
  field? : String → Option Json

/-- A tag and the content beside it. -/
structure Tagged where
  tag : String
  content? : Option Json
  /-- The content was written before the tag. -/
  isContentFirst : Bool

end Json

/-- A reader and writer of JSON. -/
class JsonCodec where
  /-- The value that a text writes. -/
  parse? : String → Option Json
  print : Json.Layout → Json → String
  /-- The lexemes that are written of numbers that are no counts. -/
  IsNumber : String → Prop
  /-- A record with the given names. -/
  record? : (names : List String) → Json → Option Json.Record
  /-- A choice between variants that is given by members of these names. -/
  tagged? : (tagName contentName : String) → Json → Option Json.Tagged
  /-- The name of a variant that stands alone; a relaxed reader also takes further forms. -/
  unitName? : (relaxed : Bool) → Json → Option String
  /-- The value stands for nothing. -/
  isNothing : Json → Bool
  asUInt64? : Json → Option UInt64
  asUInt16? : Json → Option UInt16
  asBool? : Json → Option Bool
  asText? : Json → Option String

namespace Json

variable [JsonCodec] {α : Type}

namespace Record

def require? (record : Record) (decode? : Json → Option α) (name : String) : Option α :=
  (record.field? name).bind decode?

/-- A field that takes a default when it is not there. -/
def getD? (record : Record) (decode? : Json → Option α) (name : String) (default : α) : Option α :=
  match record.field? name with
  | some value => decode? value
  | none => some default

end Record

namespace Tagged

/-- A variant without content. -/
def unit? (tagged : Tagged) (value : α) : Option α :=
  match tagged.content? with
  | none => some value
  | some content => if JsonCodec.isNothing content then some value else none

def content (tagged : Tagged) (decode? : Json → Option α) : Option α :=
  tagged.content?.bind decode?

end Tagged

/-- A value that may be missing. -/
def optional? (decode? : Json → Option α) (json : Json) : Option (Option α) :=
  if JsonCodec.isNothing json then some none else (decode? json).map some

end Json

end TunnelFirewall
