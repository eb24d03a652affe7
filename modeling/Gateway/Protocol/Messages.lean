import Gateway.Json.Decode

/-
# The wire messages of `pkg/protocol`

The message structs, what `json.Marshal` writes for each (`toJson`: the
fields of the embedded `BaseMessage` first, in declaration order, and an
`omitempty` field left out when it is empty), the decoders `json.Unmarshal`
uses for them (`decoder`), and `ParseMessage`, which reads a frame's
`BaseMessage` first and then the struct its `type` names.

A `map[string]string` is an association list (its order is not observable,
`json.Marshal` sorts its keys). An `int64` is `Int64`.

Key definitions: `BaseMessage`, `Message`, `Message.toJson`, `marshal`,
`parseMessage`.
-/

namespace Gateway
namespace Protocol

open Json

/-- The message type tags (`TypeAuth`, ..., `TypeHeartbeat`). -/
def typeAuth : String := "auth"
def typeMessage : String := "message"
def typeGroupMessage : String := "group_message"
def typeTyping : String := "typing"
def typePresence : String := "presence"
def typeACK : String := "ack"
def typeError : String := "error"
def typeHeartbeat : String := "heartbeat"

/-- The common part of every message. -/
structure BaseMessage where
  type : String := ""
  messageID : String := ""
  timestamp : Int64 := Int64.zero
  deriving DecidableEq

/-- A `map[string]string`. -/
abbrev StringMap := AList fun _ : String => String

structure AuthMessage where
  base : BaseMessage := {}
  token : String := ""
  deriving DecidableEq

structure TextPayload where
  text : String := ""
  mediaURL : String := ""
  metadata : StringMap := ∅
  replyTo : String := ""
  deriving DecidableEq

structure TextMessage where
  base : BaseMessage := {}
  «from» : String := ""
  «to» : String := ""
  payload : TextPayload := {}
  deriving DecidableEq

structure GroupMessage where
  base : BaseMessage := {}
  «from» : String := ""
  groupID : String := ""
  payload : TextPayload := {}
  deriving DecidableEq

structure TypingIndicator where
  base : BaseMessage := {}
  userID : String := ""
  chatID : String := ""
  isTyping : Bool := false
  deriving DecidableEq

structure PresenceUpdate where
  base : BaseMessage := {}
  userID : String := ""
  status : String := ""
  lastSeen : Int64 := Int64.zero
  device : String := ""
  deriving DecidableEq

structure Acknowledgement where
  base : BaseMessage := {}
  originalMessageID : String := ""
  status : String := ""
  deriving DecidableEq

structure ErrorMessage where
  base : BaseMessage := {}
  code : String := ""
  message : String := ""
  details : String := ""
  deriving DecidableEq

structure Heartbeat where
  base : BaseMessage := {}
  sequence : Int64 := Int64.zero
  deriving DecidableEq

/-- The messages `ParseMessage` may return, one constructor a struct. -/
inductive Message where
  | auth (m : AuthMessage)
  | text (m : TextMessage)
  | group (m : GroupMessage)
  | typing (m : TypingIndicator)
  | presence (m : PresenceUpdate)
  | ack (m : Acknowledgement)
  | error (m : ErrorMessage)
  | heartbeat (m : Heartbeat)
  deriving DecidableEq

/-! ### Encoding -/

/-- A member that `omitempty` drops when the string is empty. -/
def omitString (key s : String) : List (String × Value) := if s = "" then [] else [(key, .str s)]

/-- The members of the embedded `BaseMessage`. -/
def BaseMessage.members (b : BaseMessage) : List (String × Value) :=
  ("type", .str b.type) :: omitString "message_id" b.messageID ++
    [("timestamp", .ofInt64 b.timestamp)]

/-- The value `json.Marshal` gives a metadata map. -/
def metadataValue (m : StringMap) : Value :=
  mapObject (m.entries.map fun e => (e.1, .str e.2))

def TextPayload.toJson (p : TextPayload) : Value :=
  .obj (("text", .str p.text) :: omitString "media_url" p.mediaURL ++
    (if p.metadata.entries = [] then [] else [("metadata", metadataValue p.metadata)]) ++
    omitString "reply_to" p.replyTo)

/-- The message's `BaseMessage`. -/
def Message.base : Message → BaseMessage
  | .auth m | .text m | .group m | .typing m | .presence m | .ack m | .error m
  | .heartbeat m => m.base

/-- The members `json.Marshal` writes for the struct's own fields, after those
of the embedded `BaseMessage`. -/
def Message.ownMembers : Message → List (String × Value)
  | .auth m => [("token", .str m.token)]
  | .text m => [("from", .str m.from), ("to", .str m.«to»), ("payload", m.payload.toJson)]
  | .group m =>
    [("from", .str m.from), ("group_id", .str m.groupID), ("payload", m.payload.toJson)]
  | .typing m =>
    [("user_id", .str m.userID), ("chat_id", .str m.chatID), ("is_typing", .bool m.isTyping)]
  | .presence m =>
    [("user_id", .str m.userID), ("status", .str m.status)] ++
      (if m.lastSeen.val = 0 then [] else [("last_seen", .ofInt64 m.lastSeen)]) ++
      omitString "device" m.device
  | .ack m => [("original_message_id", .str m.originalMessageID), ("status", .str m.status)]
  | .error m =>
    [("code", .str m.code), ("message", .str m.message)] ++ omitString "details" m.details
  | .heartbeat m => [("sequence", .ofInt64 m.sequence)]

/-- What `json.Marshal` writes for a message, as a value. -/
def Message.toJson (m : Message) : Value := .obj (m.base.members ++ m.ownMembers)

/-- `json.Marshal(m)`: the text of a message. -/
def marshal (m : Message) : List Char := m.toJson.print

/-- The tag of the message's struct. -/
def Message.tag : Message → String
  | .auth _ => typeAuth
  | .text _ => typeMessage
  | .group _ => typeGroupMessage
  | .typing _ => typeTyping
  | .presence _ => typePresence
  | .ack _ => typeACK
  | .error _ => typeError
  | .heartbeat _ => typeHeartbeat

/-- `NewErrorMessage(code, message, details)`, given the fresh message id and the
current time in milliseconds that `NewBaseMessage` takes. -/
def newErrorMessage (messageID : String) (now : Int64) (code message details : String) :
    ErrorMessage :=
  { base := { type := typeError, messageID, timestamp := now }, code, message, details }

/-! ### Decoding -/

/-- The fields of an embedded `BaseMessage`, promoted into the struct `struct`. -/
def baseFields {σ : Type} (struct : String) (get : σ → BaseMessage)
    (set : BaseMessage → σ → σ) : List (StructField σ) :=
  [.lift struct "type" (fun x => (get x).type) (fun t x => set { get x with type := t } x)
      stringDecoder,
    .lift struct "message_id" (fun x => (get x).messageID)
      (fun t x => set { get x with messageID := t } x) stringDecoder,
    .lift struct "timestamp" (fun x => (get x).timestamp)
      (fun t x => set { get x with timestamp := t } x) int64Decoder]

def BaseMessage.decoder : Decoder BaseMessage :=
  structDecoder "protocol.BaseMessage" (baseFields "BaseMessage" id fun b _ => b)

def TextPayload.decoder : Decoder TextPayload :=
  structDecoder "protocol.TextPayload"
    [.lift "TextPayload" "text" (·.text) (fun t p => { p with text := t }) stringDecoder,
     .lift "TextPayload" "media_url" (·.mediaURL) (fun t p => { p with mediaURL := t })
       stringDecoder,
     .lift "TextPayload" "metadata" (·.metadata) (fun t p => { p with metadata := t })
       stringMapDecoder,
     .lift "TextPayload" "reply_to" (·.replyTo) (fun t p => { p with replyTo := t })
       stringDecoder]

def AuthMessage.decoder : Decoder AuthMessage :=
  structDecoder "protocol.AuthMessage"
    (baseFields "AuthMessage" (·.base) (fun b m => { m with base := b }) ++
      [.lift "AuthMessage" "token" (·.token) (fun t m => { m with token := t }) stringDecoder])

def TextMessage.decoder : Decoder TextMessage :=
  structDecoder "protocol.TextMessage"
    (baseFields "TextMessage" (·.base) (fun b m => { m with base := b }) ++
      [.lift "TextMessage" "from" (·.from) (fun t m => { m with «from» := t }) stringDecoder,
       .lift "TextMessage" "to" (·.«to») (fun t m => { m with «to» := t }) stringDecoder,
       .lift "TextMessage" "payload" (·.payload) (fun t m => { m with payload := t })
         TextPayload.decoder])

def GroupMessage.decoder : Decoder GroupMessage :=
  structDecoder "protocol.GroupMessage"
    (baseFields "GroupMessage" (·.base) (fun b m => { m with base := b }) ++
      [.lift "GroupMessage" "from" (·.from) (fun t m => { m with «from» := t }) stringDecoder,
       .lift "GroupMessage" "group_id" (·.groupID) (fun t m => { m with groupID := t })
         stringDecoder,
       .lift "GroupMessage" "payload" (·.payload) (fun t m => { m with payload := t })
         TextPayload.decoder])

def TypingIndicator.decoder : Decoder TypingIndicator :=
  structDecoder "protocol.TypingIndicator"
    (baseFields "TypingIndicator" (·.base) (fun b m => { m with base := b }) ++
      [.lift "TypingIndicator" "user_id" (·.userID) (fun t m => { m with userID := t })
         stringDecoder,
       .lift "TypingIndicator" "chat_id" (·.chatID) (fun t m => { m with chatID := t })
         stringDecoder,
       .lift "TypingIndicator" "is_typing" (·.isTyping) (fun t m => { m with isTyping := t })
         boolDecoder])

def PresenceUpdate.decoder : Decoder PresenceUpdate :=
  structDecoder "protocol.PresenceUpdate"
    (baseFields "PresenceUpdate" (·.base) (fun b m => { m with base := b }) ++
      [.lift "PresenceUpdate" "user_id" (·.userID) (fun t m => { m with userID := t })
         stringDecoder,
       .lift "PresenceUpdate" "status" (·.status) (fun t m => { m with status := t })
         stringDecoder,
       .lift "PresenceUpdate" "last_seen" (·.lastSeen) (fun t m => { m with lastSeen := t })
         int64Decoder,
       .lift "PresenceUpdate" "device" (·.device) (fun t m => { m with device := t })
         stringDecoder])

def Acknowledgement.decoder : Decoder Acknowledgement :=
  structDecoder "protocol.Acknowledgement"
    (baseFields "Acknowledgement" (·.base) (fun b m => { m with base := b }) ++
      [.lift "Acknowledgement" "original_message_id" (·.originalMessageID)
         (fun t m => { m with originalMessageID := t }) stringDecoder,
       .lift "Acknowledgement" "status" (·.status) (fun t m => { m with status := t })
         stringDecoder])

def Heartbeat.decoder : Decoder Heartbeat :=
  structDecoder "protocol.Heartbeat"
    (baseFields "Heartbeat" (·.base) (fun b m => { m with base := b }) ++
      [.lift "Heartbeat" "sequence" (·.sequence) (fun t m => { m with sequence := t })
         int64Decoder])

/-! ### `ParseMessage` -/

/-- An error `ParseMessage` returns. -/
inductive ParseError where
  /-- `invalid message format: %w`, the `BaseMessage` did not decode. -/
  | invalidFormat (e : DecodeError)
  /-- The struct the type names did not decode; the error is returned as is. -/
  | decode (e : DecodeError)
  /-- `unknown message type: %s`. -/
  | unknownType (type : String)
  deriving DecidableEq

/-- The struct `json.Unmarshal` fills, wrapped as a message. -/
def decodeAs {σ : Type} (dec : Decoder σ) (zero : σ) (wrap : σ → Message) (raw : List Char) :
    Except ParseError Message :=
  match unmarshal dec zero raw with
  | .ok m => .ok (wrap m)
  | .error e => .error (.decode e)

/-- `ParseMessage(raw)`. The switch has no case for `TypeError`. -/
def parseMessage (raw : List Char) : Except ParseError Message :=
  match unmarshal BaseMessage.decoder {} raw with
  | .error e => .error (.invalidFormat e)
  | .ok base =>
    match base.type with
    | "auth" => decodeAs AuthMessage.decoder {} .auth raw
    | "message" => decodeAs TextMessage.decoder {} .text raw
    | "group_message" => decodeAs GroupMessage.decoder {} .group raw
    | "typing" => decodeAs TypingIndicator.decoder {} .typing raw
    | "presence" => decodeAs PresenceUpdate.decoder {} .presence raw
    | "ack" => decodeAs Acknowledgement.decoder {} .ack raw
    | "heartbeat" => decodeAs Heartbeat.decoder {} .heartbeat raw
    | t => .error (.unknownType t)

end Protocol
end Gateway
