import Gateway.PubSub.Redis

/-
# What the bus delivers

Two facts about the two publication paths. On the shared channel, a node
skips its own envelopes, but every other node fails to read the message out
of the envelope (`processMessage_publish`): `Publish` marshals the message
bytes as a base64 string and `processMessage` decodes that string as a
`BaseMessage`, so no handler ever runs. On a user's channel, nothing marks
the publisher: a node subscribed to a user's channel runs its handler on its
own `PublishUserMessage` (`deliver_publishUserMessage_self`).

Key theorems: `processMessage_publish`, `deliver_publishUserMessage_self`.
-/

namespace Gateway
namespace PubSub

open Json Protocol

/-! ### The shared channel -/

theorem envelopeValue_eq (nodeID : String) (ts : Int64) (bs : List UInt8) :
    envelopeValue nodeID ts bs =
      .obj [("message", .ofBytes bs), ("node_id", .str nodeID), ("timestamp", .ofInt64 ts)] := rfl

theorem envelope_canonical (nodeID : String) (ts : Int64) (bs : List UInt8) :
    (envelopeValue nodeID ts bs).Canonical := by
  rw [envelopeValue_eq]
  simp only [Value.Canonical, membersCanonical_iff, List.mem_cons, List.mem_singleton, List.not_mem_nil]
  rintro p (rfl | rfl | rfl | h)
  · trivial
  · trivial
  · exact canonical_ofInt64 ts
  · exact h.elim

/-- The envelope decodes to the node id, the time and the message bytes as a
JSON string. -/
theorem unmarshal_envelope (nodeID : String) (ts : Int64) (bs : List UInt8) :
    unmarshal Envelope.decoder {} (envelopeValue nodeID ts bs).print =
      .ok { nodeID, timestamp := ts, message := some (.ofBytes bs) } := by
  rw [unmarshal, parse_print (envelope_canonical nodeID ts bs), envelopeValue_eq]
  simp [Envelope.decoder, structDecoder, decodeMembers, findField, StructField.lift, stringDecoder,
    int64Decoder, rawDecoder, parseInt64_formatInt, Value.ofInt64, Value.ofBytes]

/-- **What a node makes of a `Publish` from a node**: its own publication is
skipped, and any other node's fails to decode, since the envelope carries the
message as a base64 string where `processMessage` expects the message itself.
No handler runs on any node, whatever the message. -/
theorem processMessage_publish (a b : RedisPubSub) (msg : Value) (now : Int64) :
    b.processMessage (a.publish msg now).2 =
      if a.nodeID = b.nodeID then .ownMessage
      else .innerError (.type { value := "string", type := "protocol.BaseMessage" }) := by
  simp only [RedisPubSub.processMessage, RedisPubSub.publish, unmarshal_envelope]
  split_ifs <;> rfl

/-! ### A user's channel -/

theorem userDelivery_marshal (h : HandlerId) (m : Message) :
    userDelivery h (marshal m) = .handled h m.base := by
  simp [userDelivery, unmarshal_base]

/-- **A node hears its own per-user publications**: when it holds a subscription
to a user's channel, Redis delivers its `PublishUserMessage` of any message to
that subscription, and the handler runs on the message. -/
theorem deliver_publishUserMessage_self (r : RedisPubSub) (userID : String) (h : HandlerId)
    (m : Message) :
    deliver [r.subscribeToUser userID h] (r.publishUserMessage userID m.toJson) =
      [(r.subscribeToUser userID h, .handled h m.base)] := by
  simp only [deliver, RedisPubSub.subscribeToUser, RedisPubSub.publishUserMessage,
    List.filter_cons, decide_True, if_true, List.filter_nil, List.map_cons, List.map_nil,
    Subscription.receive]
  exact congrArg (fun o => [(_, o)]) (userDelivery_marshal h m)

end PubSub
end Gateway
