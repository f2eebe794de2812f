import TunnelFirewall.Engine.Codec
import TunnelFirewall.Proofs.Address.Text
import TunnelFirewall.Proofs.Json.Alteration
import TunnelFirewall.Proofs.Outer.Json.Codec

/-!
# Findings and decisions are read back

What is written of a finding, a reason, a verdict, a redirect or of counters is read as the same
again, and what is read from a text was written of one of them only. The tag of a finding or
verdict may come behind its content.
-/
namespace TunnelFirewall

open Json JsonCodec

section

namespace Json

/-- An object with the same members in any order. -/
def Reorders : Json → Json → Prop
  | .object members, .object others => others.Perm members
  | _, _ => False

/-- A choice as it is written: the tag, and the content behind it. -/
def variant (tagName contentName tag : String) (content? : Option Json) : Json :=
  .ofMembers ((tagName, .text tag) :: content?.toList.map fun content => (contentName, content))

theorem Reorders.values_perm {members others : List (Option String × Json)}
    (h : Reorders (.object members) (.object others)) (name : String) :
    (valuesOf name others).Perm (valuesOf name members) :=
  (List.Perm.filter (fun member : Option String × Json => member.1 == some name) h).map Prod.snd

theorem valuesOf_variant {tagName contentName : String} (hne : tagName ≠ contentName)
    (tag : String) (content? : Option Json) :
    let members := ((tagName, Json.text tag) ::
      content?.toList.map fun content => (contentName, content)).map
        fun (name, value) => (some name, value)
    valuesOf tagName members = [.text tag] ∧ valuesOf contentName members = content?.toList := by
  cases content? with
  | none => simp [valuesOf, hne]
  | some content => simp [valuesOf, hne, hne.symm]

variable [JsonCodec] {α : Type} {ofJson? : Json → Option α}

/-- Values are read from every text of what is written of them, and in each layout what is printed
of them is such a text; nothing is printed of two values. -/
structure RoundTrips (written : α → Json → Prop) (ofJson? : Json → Option α) : Prop where
  reads {value : α} {json : Json} {text : String} :
    written value json → parse? text = some json → (parse? text).bind ofJson? = some value
  prints {value : α} {json : Json} (layout : Layout) :
    written value json → (parse? (print layout json)).bind ofJson? = some value
  apart {value other : α} {json otherJson : Json} (layout otherLayout : Layout) :
    written value json → written other otherJson →
      print layout json = print otherLayout otherJson → value = other

theorem RoundTrips.intro {written : α → Json → Prop} (hcodec : Lawful)
    (hvalue : ∀ value json, written value json → IsValue json)
    (hread : ∀ value json, written value json → ofJson? json = some value) :
    RoundTrips written ofJson? := by
  have hprints {value : α} {json : Json} (layout : Layout) (hwritten : written value json) :
      (parse? (print layout json)).bind ofJson? = some value := by
    rw [hcodec.parse_print layout (hvalue _ _ hwritten)]
    exact hread _ _ hwritten
  constructor
  case reads =>
    intro value json text hwritten hparse
    rw [hparse]
    exact hread _ _ hwritten
  case prints => exact hprints
  case apart =>
    intro value other json otherJson layout otherLayout hwritten hother heq
    have hsame := hprints layout hwritten
    rw [heq, hprints otherLayout hother] at hsame
    exact (Option.some.inj hsame).symm

theorem Reorders.isValue {json other : Json} (h : Reorders json other) (hvalue : IsValue json) :
    IsValue other := by
  cases hvalue with
  | object hnames hnodup hvalues =>
    cases other with
    | object others =>
      apply IsValue.object
      · simp only [hasTextNames, List.all_eq_true] at hnames ⊢
        exact fun member hmember => hnames member (h.mem_iff.1 hmember)
      · exact (h.map Prod.fst).nodup_iff.2 hnodup
      · exact fun member hmember => hvalues member (h.mem_iff.1 hmember)
    | _ => exact h.elim
  | _ => exact h.elim

theorem isValue_variant {tagName contentName : String} (hne : tagName ≠ contentName) (tag : String)
    (content? : Option Json) (hcontent : ∀ content, content? = some content → IsValue content) :
    IsValue (variant tagName contentName tag content?) := by
  cases content? with
  | none =>
    apply isValue_ofMembers (by simp)
    simp only [List.forall_mem_cons]
    exact ⟨.text tag, nofun⟩
  | some content =>
    apply isValue_ofMembers (by simpa using hne)
    simp only [Option.toList_some, List.map_cons, List.map_nil, List.forall_mem_cons]
    exact ⟨.text tag, hcontent content rfl, nofun⟩

/-- The tag and the content are found in either order. -/
theorem tagged?_of_reorders (hcodec : Lawful) {tagName contentName tag : String}
    (content? : Option Json) {json : Json} (hne : tagName ≠ contentName)
    (h : Reorders (variant tagName contentName tag content?) json) :
    ∃ first, tagged? tagName contentName json = some ⟨tag, content?, first⟩ := by
  obtain ⟨htag, hcontent⟩ := valuesOf_variant hne tag content?
  cases json with
  | object others =>
    have htags : valuesOf tagName others = [.text tag] := by
      have hperm := h.values_perm tagName
      rw [htag] at hperm
      exact List.perm_singleton.1 hperm
    have hcontents : valuesOf contentName others = content?.toList := by
      have hperm := h.values_perm contentName
      rw [hcontent] at hperm
      cases content? with
      | none => exact hperm.eq_nil
      | some content => exact List.perm_singleton.1 hperm
    have hnames : hasTextNames others = true := by
      have hwritten := hasTextNames_ofMembers ((tagName, Json.text tag) ::
        content?.toList.map fun content => (contentName, content))
      simp only [hasTextNames, List.all_eq_true] at hwritten ⊢
      exact fun member hmember => hwritten member (h.mem_iff.1 hmember)
    have hshort : (valuesOf contentName others).length ≤ 1 := by
      rw [hcontents]
      cases content? <;> simp
    obtain ⟨⟨_, _, first⟩, hread, rfl, rfl⟩ := hcodec.tagged hnames htags hshort
    refine ⟨first, ?_⟩
    rw [hread, hcontents, Option.head?_toList]
  | _ => exact h.elim

end Json

variable [JsonCodec]

namespace Tls

theorem RejectReason.ofJson?_toJson (hcodec : Lawful) (relaxed : Bool) (reason : RejectReason) :
    ofJson? relaxed reason.toJson = some reason := by
  rw [ofJson?, toJson, hcodec.unitName_text]
  cases reason <;> rfl

namespace Finding

theorem isValue_toJson (finding : Finding) : IsValue finding.toJson := by
  have hne : "outcome" ≠ "detail" := by decide
  cases finding with
  | hostname name =>
    exact isValue_variant hne "hostname" (some (.text name)) fun | _, rfl => .text name
  | rejected reason =>
    exact isValue_variant hne "rejected" (some reason.toJson) fun | _, rfl => .text reason.name
  | _ => exact isValue_variant hne _ none nofun

theorem ofJson?_of_reorders (hcodec : Lawful) {finding : Finding} {json : Json}
    (h : Reorders finding.toJson json) : ofJson? json = some finding := by
  have hne : "outcome" ≠ "detail" := by decide
  cases finding with
  | hostname name =>
    obtain ⟨first, htagged⟩ := tagged?_of_reorders hcodec (some (.text name)) hne h
    rw [ofJson?, htagged]
    show (asText? (.text name)).map hostname = some (hostname name)
    rw [hcodec.asText_text, Option.map_some]
  | rejected reason =>
    obtain ⟨first, htagged⟩ := tagged?_of_reorders hcodec (some reason.toJson) hne h
    rw [ofJson?, htagged]
    show (RejectReason.ofJson? first reason.toJson).map rejected = some (rejected reason)
    rw [reason.ofJson?_toJson hcodec, Option.map_some]
  | _ =>
    obtain ⟨first, htagged⟩ := tagged?_of_reorders hcodec none hne h
    rw [ofJson?, htagged]
    rfl

end Finding

namespace Verdict

theorem isValue_toJson (verdict : Verdict) : IsValue verdict.toJson := by
  have hne : "verdict" ≠ "hostname" := by decide
  cases verdict with
  | captured name =>
    exact isValue_variant hne "captured" (some (.text name)) fun | _, rfl => .text name
  | _ => exact isValue_variant hne _ none nofun

theorem ofJson?_of_reorders (hcodec : Lawful) {verdict : Verdict} {json : Json}
    (h : Reorders verdict.toJson json) : ofJson? json = some verdict := by
  have hne : "verdict" ≠ "hostname" := by decide
  cases verdict with
  | captured name =>
    obtain ⟨first, htagged⟩ := tagged?_of_reorders hcodec (some (.text name)) hne h
    rw [ofJson?, htagged]
    show (asText? (.text name)).map captured = some (captured name)
    rw [hcodec.asText_text, Option.map_some]
  | _ =>
    obtain ⟨first, htagged⟩ := tagged?_of_reorders hcodec none hne h
    rw [ofJson?, htagged]
    rfl

end Verdict

end Tls

namespace Redirect

theorem isValue_toJson (r : Redirect) : IsValue r.toJson := by
  apply isValue_ofMembers (by simp)
  simp only [List.forall_mem_cons]
  refine ⟨?_, ?_, nofun⟩
  · cases r.address with
    | none => exact .null
    | some a => exact .text a.text
  · rw [← UInt64.toNat_ofNat_of_lt' (Nat.lt_trans r.port.toNat_lt (by decide))]
    exact .count _

/-- An address that may be missing is read from what is written of it. -/
theorem optional?_elim (hcodec : Lawful) (address? : Option Address) :
    optional? Address.ofJson? (address?.elim .null fun a => .text a.text) = some address? := by
  cases address? with
  | none => rw [Option.elim_none, optional?, if_pos hcodec.isNothing_null]
  | some a =>
    rw [Option.elim_some, optional?, if_neg (by simp [hcodec.isNothing_text]), Address.ofJson?,
      hcodec.asText_text, Option.bind_some, a.read?_text, Option.map_some]

theorem ofJson?_toJson (hcodec : Lawful) (r : Redirect) : ofJson? r.toJson = some r := by
  have hwhole : Alters (fun _ => false) r.toJson r.toJson := alters_self _
  obtain ⟨record, hrecord, hgiven, hfields⟩ := record?_of_alters hcodec (by simp) hwhole
  change record? ["address", "port"] r.toJson = some record at hrecord
  simp only [List.forall_mem_cons, if_neg Bool.false_ne_true] at hfields
  obtain ⟨haddress, hport, -⟩ := hfields
  have haddress : record.getD? (optional? Address.ofJson?) "address" none = some r.address := by
    rw [Record.getD?, haddress]
    exact optional?_elim hcodec r.address
  have hport : record.require? asUInt16? "port" = some r.port := by
    rw [Record.require?, hport, Option.bind_some, hcodec.asUInt16_count]
  simp only [ofJson?, hrecord, hgiven, haddress, hport, Option.bind_eq_bind, Option.bind_some,
    if_neg Bool.false_ne_true]
  rfl

end Redirect

namespace Stats

theorem isValue_toJson (s : Stats) : IsValue s.toJson := by
  apply isValue_ofMembers (by simp [names, values])
  intro member hmember
  obtain ⟨value, -, hvalue⟩ := List.mem_map.1 (List.of_mem_zip hmember).2
  rw [← hvalue]
  exact .count _

theorem ofJson?_toJson (hcodec : Lawful) (s : Stats) : ofJson? s.toJson = some s := by
  have hwhole : Alters (fun _ => false) s.toJson s.toJson := alters_self _
  obtain ⟨record, hrecord, -, hfields⟩ := record?_of_alters hcodec (by simp [names, values]) hwhole
  change record? names s.toJson = some record at hrecord
  simp only [names, values, List.map_cons, List.map_nil, List.zip_cons_cons, List.forall_mem_cons,
    if_neg Bool.false_ne_true] at hfields
  have hcounter {name : String} {value : UInt64}
      (hfield : record.field? name = some (.count value.toNat)) :
      record.require? asUInt64? name = some value := by
    rw [Record.require?, hfield, Option.bind_some, hcodec.asUInt64_count]
  obtain ⟨hreceived, hallowed, hblocked, hmalformed, hunsupported, hlimit, hhostnames, htlsBlocked,
    hlongest, -⟩ := hfields
  simp only [ofJson?, hrecord, hcounter hreceived, hcounter hallowed, hcounter hblocked,
    hcounter hmalformed, hcounter hunsupported, hcounter hlimit, hcounter hhostnames,
    hcounter htlsBlocked, hcounter hlongest, Option.bind_eq_bind, Option.bind_some]
  rfl

end Stats

/-- Findings, reasons, verdicts, redirects and counters are read from what is written of them, the
tagged ones with the tag and the content in either order, and nothing is written of two of them. -/
theorem written_forms_round_trip (hcodec : Lawful) :
    RoundTrips (fun finding => Reorders (Tls.Finding.toJson finding)) Tls.Finding.ofJson? ∧
      RoundTrips (fun reason json => json = Tls.RejectReason.toJson reason)
        (Tls.RejectReason.ofJson? false) ∧
      RoundTrips (fun verdict => Reorders (Tls.Verdict.toJson verdict)) Tls.Verdict.ofJson? ∧
      RoundTrips (fun r json => json = Redirect.toJson r) Redirect.ofJson? ∧
      RoundTrips (fun s json => json = Stats.toJson s) Stats.ofJson? := by
  refine ⟨.intro hcodec ?_ ?_, .intro hcodec ?_ ?_, .intro hcodec ?_ ?_, .intro hcodec ?_ ?_,
    .intro hcodec ?_ ?_⟩
  · exact fun finding _ hwritten => hwritten.isValue finding.isValue_toJson
  · exact fun _ _ => Tls.Finding.ofJson?_of_reorders hcodec
  · rintro reason _ rfl
    exact .text reason.name
  · rintro reason _ rfl
    exact reason.ofJson?_toJson hcodec false
  · exact fun verdict _ hwritten => hwritten.isValue verdict.isValue_toJson
  · exact fun _ _ => Tls.Verdict.ofJson?_of_reorders hcodec
  · rintro r _ rfl
    exact r.isValue_toJson
  · rintro r _ rfl
    exact r.ofJson?_toJson hcodec
  · rintro s _ rfl
    exact s.isValue_toJson
  · rintro s _ rfl
    exact s.ofJson?_toJson hcodec

end

section Example

/-- A rejection, the reason first. -/
def reasonFirst : String := "\x7b\"detail\":\"extensions_overrun\",\"outcome\":\"rejected\"\x7d"

theorem written_forms_round_trip_rejected :
    @Lawful PlainJson.codec ∧
      (parse? reasonFirst).bind Tls.Finding.ofJson? = some (.rejected .extensionsOverrun) := by
  let json : Json :=
    .ofMembers [("detail", .text "extensions_overrun"), ("outcome", .text "rejected")]
  have htokens : PlainJson.Token.split? reasonFirst.toList = some
      [.openObject, .string (some "detail"), .colon, .string (some "extensions_overrun"), .comma,
        .string (some "outcome"), .colon, .string (some "rejected"), .closeObject] := by
    decide +kernel
  have hparse : parse? reasonFirst = some json := by
    show PlainJson.parse? reasonFirst = some json
    rw [PlainJson.parse?, htokens]
    rfl
  have hwritten : Reorders (Tls.Finding.rejected .extensionsOverrun).toJson json :=
    List.Perm.swap _ _ _
  exact ⟨PlainJson.codec_lawful,
    (written_forms_round_trip PlainJson.codec_lawful).1.reads hwritten hparse⟩

end Example

end TunnelFirewall
