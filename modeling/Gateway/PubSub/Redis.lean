import Gateway.Protocol.Parse

/-
# The Redis bus adapter

`RedisPubSub` as the bus sees it: the shared channel `<prefix>:messages`, the
node's id, and the handlers registered by message type. A publication is a
channel and a payload; Redis hands it to every subscription to that channel,
the publisher's own included (`deliver`). A node subscribes to the shared
channel with `Subscribe`, whose goroutine runs `processMessage` on every
payload, and to a user's channel with `SubscribeToUser`, whose goroutine
decodes the payload as a `BaseMessage` and calls the handler it was given.

`Publish` marshals the message, puts the bytes in an envelope map with the
node id and the time, and marshals the envelope: the bytes become a base64
string. `processMessage` reads the envelope's `message` as a
`json.RawMessage` (modelled as the value its text denotes) and decodes that
as a `BaseMessage`. `PublishUserMessage` publishes the marshalled message with
no envelope.

A message handed to `Publish` or `PublishUserMessage` is given by its JSON
value (`json.Marshal` of an `interface{}`); handlers are given by identity.

Key definitions: `RedisPubSub.publish`, `RedisPubSub.processMessage`,
`RedisPubSub.publishUserMessage`, `Subscription.receive`, `deliver`.
-/

namespace Gateway
namespace PubSub

open Json Protocol

/-- A `MessageHandler`, by identity. -/
abbrev HandlerId := Nat

/-- The fields of `RedisPubSub` the bus reads. -/
structure RedisPubSub where
  channel : String
  nodeID : String
  handlers : AList fun _ : String => HandlerId

/-- `NewRedisPubSub`: the shared channel of the configured prefix, the
configured node id, no handler. -/
def newRedisPubSub (pubSubChannelPrefix nodeID : String) : RedisPubSub :=
  { channel := pubSubChannelPrefix ++ ":messages", nodeID, handlers := ∅ }

/-- `RegisterHandler(msgType, handler)`. -/
def RedisPubSub.registerHandler (r : RedisPubSub) (msgType : String) (h : HandlerId) :
    RedisPubSub :=
  { r with handlers := r.handlers.insert msgType h }

/-! ### Publishing -/

/-- The envelope map `Publish` marshals. -/
def envelopeValue (nodeID : String) (timestamp : Int64) (msgBytes : List UInt8) : Value :=
  mapObject [("node_id", .str nodeID), ("timestamp", .ofInt64 timestamp),
    ("message", .ofBytes msgBytes)]

/-- `Publish(ctx, msg)` at time `now` (ms): the channel and the payload. -/
def RedisPubSub.publish (r : RedisPubSub) (msg : Value) (now : Int64) : String × List Char :=
  (r.channel, (envelopeValue r.nodeID now (utf8 msg.print)).print)

/-- The channel of a user's messages. -/
def RedisPubSub.userChannel (r : RedisPubSub) (userID : String) : String :=
  r.channel ++ ":user:" ++ userID

/-- `PublishUserMessage(ctx, userID, msg)`: the user's channel and the marshalled
message. -/
def RedisPubSub.publishUserMessage (r : RedisPubSub) (userID : String) (msg : Value) :
    String × List Char :=
  (r.userChannel userID, msg.print)

/-! ### Receiving -/

/-- The anonymous struct `processMessage` decodes an envelope into. -/
structure Envelope where
  nodeID : String := ""
  timestamp : Int64 := Int64.zero
  message : Option Value := none

def Envelope.decoder : Decoder Envelope :=
  structDecoder "envelope"
    [.lift "" "node_id" (·.nodeID) (fun t e => { e with nodeID := t }) stringDecoder,
     .lift "" "timestamp" (·.timestamp) (fun t e => { e with timestamp := t }) int64Decoder,
     .lift "" "message" (·.message) (fun t e => { e with message := t }) rawDecoder]

/-- `json.Unmarshal` of a `json.RawMessage`: the nil message is the empty text. -/
def unmarshalRaw {σ : Type} (dec : Decoder σ) (zero : σ) : Option Value → Except DecodeError σ
  | none => .error .malformed
  | some v =>
    match dec v zero with
    | (x, none) => .ok x
    | (_, some e) => .error (.type e)

/-- What handling one payload came to. -/
inductive Outcome where
  /-- `failed to parse message envelope`. -/
  | envelopeError (e : DecodeError)
  /-- The envelope carries this node's id: skipped. -/
  | ownMessage
  /-- `failed to parse inner message`, or a user payload that did not decode. -/
  | innerError (e : DecodeError)
  /-- `no handler for message type`. -/
  | noHandler (type : String)
  /-- The handler ran on the message. -/
  | handled (h : HandlerId) (msg : BaseMessage)
  deriving DecidableEq

/-- `processMessage`: what the `Subscribe` goroutine does with a payload. -/
def RedisPubSub.processMessage (r : RedisPubSub) (payload : List Char) : Outcome :=
  match unmarshal Envelope.decoder {} payload with
  | .error e => .envelopeError e
  | .ok env =>
    if env.nodeID = r.nodeID then .ownMessage
    else
      match unmarshalRaw BaseMessage.decoder {} env.message with
      | .error e => .innerError e
      | .ok base =>
        match r.handlers.lookup base.type with
        | none => .noHandler base.type
        | some h => .handled h base

/-- What the goroutine of `SubscribeToUser(userID, handler)` does with a payload. -/
def userDelivery (h : HandlerId) (payload : List Char) : Outcome :=
  match unmarshal BaseMessage.decoder {} payload with
  | .ok base => .handled h base
  | .error e => .innerError e

/-! ### The bus -/

/-- The goroutine reading a subscription. -/
inductive Listener where
  /-- `listen`, started by `Subscribe`. -/
  | listen
  /-- The goroutine of `SubscribeToUser` with its handler. -/
  | user (h : HandlerId)

/-- A subscription a node holds. -/
structure Subscription where
  node : RedisPubSub
  channel : String
  listener : Listener

/-- `Subscribe()`. -/
def RedisPubSub.subscribe (r : RedisPubSub) : Subscription := ⟨r, r.channel, .listen⟩

/-- `SubscribeToUser(userID, handler)`. -/
def RedisPubSub.subscribeToUser (r : RedisPubSub) (userID : String) (h : HandlerId) :
    Subscription :=
  ⟨r, r.userChannel userID, .user h⟩

/-- What a subscription's goroutine does with a payload. -/
def Subscription.receive (s : Subscription) (payload : List Char) : Outcome :=
  match s.listener with
  | .listen => s.node.processMessage payload
  | .user h => userDelivery h payload

/-- Redis pub/sub: a publication reaches every subscription to its channel. -/
def deliver (subs : List Subscription) (pub : String × List Char) :
    List (Subscription × Outcome) :=
  (subs.filter (·.channel = pub.1)).map fun s => (s, s.receive pub.2)

end PubSub
end Gateway
