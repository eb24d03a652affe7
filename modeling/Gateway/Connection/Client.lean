import Gateway.Protocol.Parse

/-
# A client connection

A `Client` holds what the manager and the two pumps read and write: its ids,
the user and device it authenticated as, the time of its last inbound frame,
the `closing` flag, the messages buffered in `Send`, and the text frames
`WritePump` has written to the socket.

`Close` and `cleanup` share one body: the first of them sets `closing`,
cancels the client's context, closes `Send` and closes the socket, all under
`c.mu`; a later call does nothing. Nothing else cancels the context (its
parent is `context.Background()`), closes `Send` or closes the socket, so the
one flag `closing` stands for all four: it is also "`c.ctx` is done", "`Send`
is closed" and "the socket is closed".

`WriteMessage` refuses a closing client and a full buffer, and otherwise
appends the message to `Send`.

Key definitions: `Client`, `Client.writeMessage`, `Client.close`.
-/

namespace Gateway
namespace Connection

/-- A `*Client`: an address in the heap of clients. -/
abbrev Ptr := Nat

/-- A `[]byte` message. -/
abbrev Bytes := List UInt8

/-- The capacity `NewClient` gives `Send`. -/
def sendBufferSize : Nat := 256

/-- The fields of `Client` the gateway reads. -/
structure Client where
  id : String
  userID : String
  deviceID : String
  ip : String
  /-- `LastActivity`, in nanoseconds. -/
  lastActivity : Int
  shardID : Nat
  authenticated : Bool
  /-- `closing`; also: the context is done, `Send` and the socket are closed. -/
  closing : Bool
  /-- The messages buffered in `Send`, oldest first. -/
  send : List Bytes
  /-- The text frames `WritePump` has written, each as the messages it joins. -/
  wire : List (List Bytes)
  deriving DecidableEq

/-- `NewClient(conn, clientID, ip, shardID, ...)` at time `now`. -/
def newClient (clientID ip : String) (shardID : Nat) (now : Int) : Client :=
  { id := clientID, userID := "", deviceID := "", ip, lastActivity := now, shardID,
    authenticated := false, closing := false, send := [], wire := [] }

/-- `SetAuthenticated(userID, deviceID)`. -/
def Client.setAuthenticated (c : Client) (userID deviceID : String) : Client :=
  { c with userID, deviceID, authenticated := true }

/-- An error `WriteMessage` returns. -/
inductive WriteError where
  /-- `ErrClientClosed`, "client connection closed". -/
  | clientClosed
  /-- `ErrClientSlow`, "client send channel full": the message is dropped. -/
  | clientSlow
  deriving DecidableEq, Repr

/-- `WriteMessage(message)`. -/
def Client.writeMessage (c : Client) (message : Bytes) : Except WriteError Client :=
  if c.closing then .error .clientClosed
  else if c.send.length < sendBufferSize then .ok { c with send := c.send ++ [message] }
  else .error .clientSlow

/-- `Close(reason)`; the reason is only logged. -/
def Client.close (c : Client) : Client :=
  if c.closing then c else { c with closing := true }

/-- `cleanup()`: the body of `Close`, without its log line. -/
def Client.cleanup (c : Client) : Client := c.close

/-- The client after `WriteMessage(message)`, whatever it returned. -/
def Client.enqueue (c : Client) (message : Bytes) : Client :=
  match c.writeMessage message with
  | .ok c' => c'
  | .error _ => c

/-- What `ReadPump` queues for a frame over the client's rate: the marshalled
`RATE_LIMIT_EXCEEDED` error, with the id and the time (ms) it was built with. -/
def rateLimitBytes (messageID : String) (now : Int64) : Bytes :=
  Json.utf8 (Protocol.marshal (.error (Protocol.rateLimitFrame messageID now)))

/-! ### What the updates keep -/

@[simp] theorem Client.setAuthenticated_id (c : Client) (u d : String) :
    (c.setAuthenticated u d).id = c.id := rfl

@[simp] theorem Client.setAuthenticated_closing (c : Client) (u d : String) :
    (c.setAuthenticated u d).closing = c.closing := rfl

@[simp] theorem Client.setAuthenticated_shardID (c : Client) (u d : String) :
    (c.setAuthenticated u d).shardID = c.shardID := rfl

@[simp] theorem Client.close_id (c : Client) : c.close.id = c.id := by
  unfold Client.close; split_ifs <;> rfl

@[simp] theorem Client.close_closing (c : Client) : c.close.closing = true := by
  unfold Client.close; split_ifs with h <;> simp [h]

@[simp] theorem Client.close_shardID (c : Client) : c.close.shardID = c.shardID := by
  unfold Client.close; split_ifs <;> rfl

@[simp] theorem Client.close_userID (c : Client) : c.close.userID = c.userID := by
  unfold Client.close; split_ifs <;> rfl

@[simp] theorem Client.close_deviceID (c : Client) : c.close.deviceID = c.deviceID := by
  unfold Client.close; split_ifs <;> rfl

@[simp] theorem Client.close_authenticated (c : Client) :
    c.close.authenticated = c.authenticated := by
  unfold Client.close; split_ifs <;> rfl

@[simp] theorem Client.close_send (c : Client) : c.close.send = c.send := by
  unfold Client.close; split_ifs <;> rfl

@[simp] theorem Client.close_wire (c : Client) : c.close.wire = c.wire := by
  unfold Client.close; split_ifs <;> rfl

@[simp] theorem Client.cleanup_eq (c : Client) : c.cleanup = c.close := rfl

theorem Client.writeMessage_ok {c c' : Client} {message : Bytes}
    (h : c.writeMessage message = .ok c') :
    c.closing = false ∧ c' = { c with send := c.send ++ [message] } := by
  unfold Client.writeMessage at h
  split_ifs at h with h₁
  cases h
  exact ⟨by simpa using h₁, rfl⟩

/-- `WriteMessage` changes only `Send`. -/
theorem Client.enqueue_eq (c : Client) (message : Bytes) :
    ∃ send, c.enqueue message = { c with send } := by
  unfold Client.enqueue
  split
  · next c' h => exact ⟨_, (Client.writeMessage_ok h).2⟩
  · exact ⟨c.send, rfl⟩

@[simp] theorem Client.enqueue_id (c : Client) (message : Bytes) :
    (c.enqueue message).id = c.id := by
  obtain ⟨_, h⟩ := c.enqueue_eq message
  rw [h]

@[simp] theorem Client.enqueue_shardID (c : Client) (message : Bytes) :
    (c.enqueue message).shardID = c.shardID := by
  obtain ⟨_, h⟩ := c.enqueue_eq message
  rw [h]

end Connection
end Gateway
