/-
  `device_websocket` (`app/websocket/router.py`) — one connection of a device, from the handshake
  to the tear-down of its database session.

  1. rate limit, authentication;
  2. the connect sequence: register the socket, mark the device online and commit, send the stored
     configuration, RE-SEND the commands in status `sent` of the last hour;
  3. the receive loop: `handle`, `commit`, `ack` for every frame, until the peer leaves, a frame is
     too large or something raises;
  4. every exception of the loop is swallowed, the manager forgets the device, and the endpoint
     RETURNS NORMALLY, so that `get_db` commits what the session holds.

  Here the connection runs alone in its process; `Dtsys.System.Handlers` interleaves several.
-/
import Dtsys.Server.Handler

namespace Dtsys

/-- A text frame: its length, and what `json.loads` makes of it (`none`: `JSONDecodeError`). -/
structure Incoming where
  length : Nat
  decoded : Option Json

namespace Server

variable (E : Env)

/-! ## Handshake -/

/-- `_is_loopback`. -/
def isLoopback (ip : String) : Bool := ip == "127.0.0.1" || ip == "::1" || ip == "localhost"

/-- The attempt counter; `true` when the connection is refused. -/
def connectRateLimited (ip : String) : Server Bool := fun w =>
  match w.redis with
  | none => (.ok false, w)
  | some r =>
    let (attempts, r) := r.incr (.wsAttempts ip) w.clock
    let r := if attempts = 1 then r.expire (.wsAttempts ip) w.clock 60 else r
    (.ok (decide (30 < attempts)), { w with redis := some r })

/-- `await redis.delete(attempts_key)`.  The name is bound by the rate limit only. -/
def clearAttempts (ip : String) : Server Unit :=
  if isLoopback ip then Act.raise .unboundLocalError
  else Act.modify fun w => { w with redis := w.redis.map fun r => r.delete (.wsAttempts ip) }

/-- The device, if it exists, is not revoked and the token is its key. -/
def authenticate (d : Uuid) (token : String) : Server (Option Device) := do
  let rows ← select E fun db => db.devices.filter fun r => r.id == d && !r.isRevoked
  let device ← scalarOneOrNone rows
  pure (device.filter fun r => E.verifyApiKey token r.apiKeyHash)

/-! ## The connect sequence -/

/-- `update(Device).values(status="online", last_seen=now)`; the ORM instance follows. -/
def markOnline (d : Uuid) (t : Nat) : Server Unit := do
  let online := fun r : Device => { r with status := .online, lastSeen := some t }
  execute E fun db =>
    { db with devices := db.devices.map fun r => if r.id = d then online r else r }
  Act.modify fun w => { w with device := online w.device, loaded := online w.loaded }

/-- The timestamp of the newest `offline` event. -/
def lastOffline (d : Uuid) (db : Db) : Option Nat :=
  ((db.uptimeEvents.filter fun e => e.deviceId == d && e.eventType == .offline).map
    UptimeEvent.timestamp).max?

/-- One hour, in the clock's microseconds. -/
def hour : Nat := 3600 * second

/-- The commands a reconnect sends again: `sent`, and not older than an hour. -/
def resendable (d : Uuid) (t : Nat) (c : Command) : Bool :=
  c.deviceId == d && c.status == .sent && decide (t ≤ c.createdAt + hour)

/-- The message that carries a command. -/
def commandMessage (c : Command) : ServerMessage := .command c.id c.commandType c.payload

/-- `send_to_device` for every command of the list. -/
def resend (d : Uuid) (cmds : List Command) : Server Unit :=
  Act.forEach cmds fun c => do
    let _ ← sendToDevice d (commandMessage c)
    pure ()

/-- The stored configuration, when there is one. -/
def sendConfig (d : Uuid) : Server Unit := do
  let row ← select E fun db => db.deviceConfigs.find? fun r => r.deviceId == d
  match row with
  | none => pure ()
  | some r => do
    let _ ← sendToDevice d (.configUpdate r.config)
    pure ()

/-- From `manager.connect` to the commit, in a transaction that began at time `began`: PostgreSQL's
    `now()`, the timestamp of the event, is that time. -/
def goOnline (d : Uuid) (ws : Socket) (ip : String) (began : Nat) : Server Unit := do
  managerConnect d ws ip
  let t ← now
  markOnline E d t
  let offline ← select E (lastOffline d)
  let id ← newId E
  add (.uptime ⟨id, d, .online, began, offline.map fun o => (t - o) / second⟩)
  commit E

/-- The re-send of the commands that were on the wire. -/
def resendSent (d : Uuid) : Server Unit := do
  let t ← now
  let cmds ← select E fun db => db.commands.filter (resendable d t)
  resend d cmds

/-- Everything between the handshake and the receive loop; the transaction began with the handshake. -/
def connectSince (d : Uuid) (ws : Socket) (ip : String) (began : Nat) : Server Unit := do
  goOnline E d ws ip began
  sendConfig E d
  resendSent E d

/-- The same, right after the handshake. -/
def connectSequence (d : Uuid) (ws : Socket) (ip : String) : Server Unit := do
  let began ← now
  connectSince E d ws ip began

/-! ## The receive loop -/

/-- `MAX_WS_MESSAGE_BYTES`. -/
def maxWsMessageBytes : Nat := 4 * 1024 * 1024

/-- `await websocket.send_json({"type": "ack"})`. -/
def sendAck (ws : Socket) : Server Unit := fun w =>
  if w.dead ws then (.error .runtimeError, w)
  else (.ok (), { w with wire := w.wire ++ [(ws, .ack)] })

/-- `handle`, `commit`, `ack`. -/
def receive (ws : Socket) (message : Json) : Server Unit := do
  handle E message
  commit E
  sendAck ws

/-- `while True`.  After the last frame the peer leaves: `WebSocketDisconnect` ends the loop. -/
def receiveLoop (ws : Socket) : List Incoming → Server Unit
  | [] => pure ()
  | frame :: rest =>
    -- `close(1009)` and `return`: the rest of the frames is not read
    if maxWsMessageBytes < frame.length then pure ()
    else match frame.decoded with
      -- not JSON: the next frame, without an ack
      | none => receiveLoop ws rest
      | some message => do
        receive E ws message
        receiveLoop ws rest

/-- The `try … except … finally` around the loop. -/
def serveLoop (d : Uuid) (ws : Socket) (frames : List Incoming) : Server Unit := do
  Act.attempt (receiveLoop E ws frames) fun _ => pure ()
  -- keyed by the device, whoever holds its entry by now
  managerDisconnect d

/-- The endpoint once the device is known; `None` closes the socket. -/
def serveDevice (d : Uuid) (ws : Socket) (ip : String) (frames : List Incoming) :
    Option Device → Server Unit
  | none => pure ()
  | some device => do
    clearAttempts ip
    Act.modify fun w => { w with device := device, loaded := device }
    connectSequence E d ws ip
    serveLoop E d ws frames

/-- `device_websocket`. -/
def deviceWebsocket (d : Uuid) (token : String) (ws : Socket) (ip : String)
    (frames : List Incoming) : Server Unit := do
  let limited ← if isLoopback ip then pure false else connectRateLimited ip
  if limited then pure ()
  else do
    let device ← authenticate E d token
    serveDevice E d ws ip frames device

/-! ## The tear-down -/

/-- What the end of the endpoint commits: the session's view, if a flush of it is accepted. -/
theorem getDb_disconnect_committed {E : Env} (d : Uuid) (w : World) :
    (getDb E (managerDisconnect d) w).2.committed =
      if flushAccepted E w then w.view else w.committed := by
  rw [getDb, managerDisconnect]
  cases hacc : flushAccepted E w with
  | true =>
    have hacc' : flushAccepted E { w with manager := w.manager.pop d } = true := hacc
    simp only [Act.modify_run, commit_accepted E hacc']
    rfl
  | false =>
    have hacc' : flushAccepted E { w with manager := w.manager.pop d } = false := hacc
    simp only [Act.modify_run, commit_refused E hacc']
    rfl

end Server

end Dtsys
