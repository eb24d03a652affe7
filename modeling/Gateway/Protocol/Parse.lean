import Gateway.Protocol.Messages

/-
# What `ParseMessage` reads back

Every marshalled message is a canonical JSON value (`toJson_canonical`), so
its text parses back to it. The members of a `BaseMessage` fill the embedded
`BaseMessage` of any struct (`decodeMembers_base`); decoded as a
`BaseMessage`, a message gives its own, whatever its struct
(`unmarshal_base`): the struct's own keys select none of the three base
fields, not even by folding.

`ParseMessage` then dispatches on the type, and has no case for `error`: an
`ErrorMessage`, such as the `RATE_LIMIT_EXCEEDED` frame `ReadPump` queues,
does not parse back (`parseMessage_errorMessage`).

Key theorems: `decodeMembers_base`, `unmarshal_base`, `parseMessage_errorMessage`.
-/

namespace Gateway
namespace Protocol

open Json

/-! ### Marshalled messages are canonical -/

theorem omitString_canonical (k s : String) : ∀ p ∈ omitString k s, p.2.Canonical := by
  unfold omitString
  split_ifs <;> simp [Value.Canonical]

theorem metadataValue_canonical (m : StringMap) : (metadataValue m).Canonical := by
  simp only [metadataValue, mapObject, Value.Canonical, membersCanonical_iff]
  intro p hp
  obtain ⟨e, -, rfl⟩ := List.mem_map.mp ((List.perm_insertionSort _ _).mem_iff.mp hp)
  trivial

theorem TextPayload.toJson_canonical (p : TextPayload) : p.toJson.Canonical := by
  simp only [TextPayload.toJson, Value.Canonical, membersCanonical_iff, List.mem_cons,
    List.mem_append]
  rintro q (((rfl | hq) | hq) | hq)
  · trivial
  · exact omitString_canonical _ _ q hq
  · split_ifs at hq
    · simp at hq
    · simp only [List.mem_singleton] at hq
      subst hq
      exact metadataValue_canonical _
  · exact omitString_canonical _ _ q hq

theorem BaseMessage.members_canonical (b : BaseMessage) : ∀ p ∈ b.members, p.2.Canonical := by
  simp only [BaseMessage.members, List.mem_cons, List.mem_append, List.mem_singleton,
    List.not_mem_nil, or_false]
  rintro p ((rfl | hp) | rfl)
  · trivial
  · exact omitString_canonical _ _ p hp
  · exact canonical_ofInt64 _

theorem ownMembers_canonical (m : Message) : ∀ p ∈ m.ownMembers, p.2.Canonical := by
  cases m with
  | text m | group m =>
    simp only [Message.ownMembers, List.mem_cons, List.mem_singleton, List.not_mem_nil]
    rintro p (rfl | rfl | rfl | h)
    · trivial
    · trivial
    · exact TextPayload.toJson_canonical _
    · exact h.elim
  | presence m =>
    simp only [Message.ownMembers, List.mem_append, List.mem_cons, List.mem_singleton]
    rintro p (((rfl | rfl | h) | hp) | hp)
    · trivial
    · trivial
    · simp at h
    · split_ifs at hp
      · simp at hp
      · simp only [List.mem_singleton] at hp
        subst hp
        exact canonical_ofInt64 _
    · exact omitString_canonical _ _ p hp
  | error m =>
    simp only [Message.ownMembers, List.mem_append, List.mem_cons, List.mem_singleton]
    rintro p ((rfl | rfl | h) | hp)
    · trivial
    · trivial
    · simp at h
    · exact omitString_canonical _ _ p hp
  | heartbeat m =>
    simp only [Message.ownMembers, List.mem_singleton]
    rintro p rfl
    exact canonical_ofInt64 _
  | auth m | typing m | ack m =>
    simp only [Message.ownMembers, List.mem_cons, List.mem_singleton, List.not_mem_nil]
    rintro p (rfl | rfl | rfl | h) <;> trivial

/-- **What `json.Marshal` writes for a message is canonical.** -/
theorem toJson_canonical (m : Message) : m.toJson.Canonical := by
  simp only [Message.toJson, Value.Canonical, membersCanonical_iff, List.mem_append]
  rintro p (hp | hp)
  · exact m.base.members_canonical p hp
  · exact ownMembers_canonical m p hp

theorem parse_marshal (m : Message) : parse (marshal m) = some m.toJson :=
  parse_print (toJson_canonical m)

/-! ### The `BaseMessage` of a marshalled message -/

section Struct

variable {σ : Type} (st : String) (get : σ → BaseMessage) (set : BaseMessage → σ → σ)
  (own : List (StructField σ))

/-- The members of a `BaseMessage` fill the embedded `BaseMessage` of a struct
holding the zero one. -/
theorem decodeMembers_base (hgs : ∀ b x, get (set b x) = b)
    (hss : ∀ b b' x, set b (set b' x) = set b x) (b : BaseMessage) {x : σ} (hx : get x = {}) :
    decodeMembers (baseFields st get set ++ own) b.members x = (set b x, none) := by
  obtain ⟨t, mid, ts⟩ := b
  simp only [BaseMessage.members, omitString]
  split_ifs with h <;>
    simp [h, decodeMembers, findField, baseFields, StructField.lift, stringDecoder, int64Decoder,
      parseInt64_formatInt, Value.ofInt64, hx, hgs, hss]

/-- A marshalled message decodes into a struct as its own members decode into
the struct holding the message's `BaseMessage`. -/
theorem structDecoder_toJson (hgs : ∀ b x, get (set b x) = b)
    (hss : ∀ b b' x, set b (set b' x) = set b x) (type : String) (m : Message) {x : σ}
    (hx : get x = {}) :
    structDecoder type (baseFields st get set ++ own) m.toJson x =
      decodeMembers (baseFields st get set ++ own) m.ownMembers (set m.base x) := by
  simp only [structDecoder, Message.toJson, decodeMembers_append,
    decodeMembers_base st get set own hgs hss _ hx, Option.none_or]

end Struct

/-- The keys of the structs' own fields. -/
def ownKeys : List String :=
  ["token", "from", "to", "payload", "group_id", "user_id", "chat_id", "is_typing", "status",
    "last_seen", "device", "original_message_id", "code", "message", "details", "sequence"]

theorem ownMembers_keys (m : Message) : ∀ p ∈ m.ownMembers, p.1 ∈ ownKeys := by
  cases m <;> simp only [Message.ownMembers, omitString] <;> (try split_ifs) <;> simp [ownKeys]

/-- No own key selects a base field, not even by folding. -/
theorem ownKeys_not_base : ∀ k ∈ ownKeys,
    (findField (baseFields "BaseMessage" id fun b _ => b) k).isNone = true := by
  decide

/-- **A marshalled message decodes as its `BaseMessage`.** -/
theorem unmarshal_base (m : Message) :
    unmarshal BaseMessage.decoder {} (marshal m) = .ok m.base := by
  have hown : ∀ p ∈ m.ownMembers,
      findField (baseFields "BaseMessage" id fun b _ => b) p.1 = none := fun p hp =>
    Option.isNone_iff_eq_none.mp (ownKeys_not_base p.1 (ownMembers_keys m p hp))
  have hbase := decodeMembers_base "BaseMessage" id (fun b _ => b) [] (fun _ _ => rfl)
    (fun _ _ _ => rfl) m.base (x := {}) rfl
  rw [List.append_nil] at hbase
  rw [unmarshal, parse_marshal]
  simp only [BaseMessage.decoder, structDecoder, Message.toJson, decodeMembers_append, hbase,
    decodeMembers_unknown _ hown, Option.or_none]

/-! ### `ParseMessage` and the error frame -/

/-- **`ParseMessage` has no case for `error`**: every marshalled `ErrorMessage`
comes back as an unknown type. -/
theorem parseMessage_errorMessage (m : ErrorMessage) (h : m.base.type = typeError) :
    parseMessage (marshal (.error m)) = .error (.unknownType typeError) := by
  rw [parseMessage, unmarshal_base]
  simp only [Message.base, h, typeError]
  rfl

/-- The error frame `ReadPump` queues for a client over its rate, as
`NewErrorMessage` builds it. -/
def rateLimitFrame (messageID : String) (now : Int64) : ErrorMessage :=
  newErrorMessage messageID now "RATE_LIMIT_EXCEEDED" "Too many messages" "Please slow down"

theorem parseMessage_rateLimitFrame :
    (rateLimitFrame "m1" Int64.zero).base.type = typeError ∧
      parseMessage (marshal (.error (rateLimitFrame "m1" Int64.zero))) =
        .error (.unknownType typeError) :=
  ⟨rfl, parseMessage_errorMessage _ rfl⟩

end Protocol
end Gateway
