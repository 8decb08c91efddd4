/-
  THE STATE a request or a websocket endpoint works on, and the primitive operations on it.

  `World` is one server process as one task sees it: the database as committed, the view of the
  task's open transaction, the rows `db.add`-ed but not flushed, the ORM instance of the device
  the endpoint holds, the Redis keys it uses, the connection manager, and logs of what left the
  process (`wire`: messages put on a socket, `effects`: streams, queues, mails).

  SQLAlchemy's unit of work in four lines:
  * `add` only remembers a row; attributes set on the ORM instance only change the instance;
  * `flush` writes the remembered rows and the attributes that DIFFER from what was last loaded or
    written (`loaded`); if the driver refuses a value it raises, and the transaction is lost;
  * every query and every ORM statement flushes first (autoflush);
  * `commit` flushes and makes the view durable; nothing is reloaded (`expire_on_commit=False`).

  How the pieces are used.

  1. An operation is a `Server α`: it reads and changes the `World` and returns or raises (`Dtsys.Lib.Act`).
     The handlers of the other modules are sequences of the primitives here.
  2. What the driver and the constraints say to a statement is not decided here: `Env` has a `Driver`, and
     `flushAccepted` asks it for the pending rows and for the attributes that differ.
  3. `view` is what the session would see after a flush.  A session with nothing to flush is `Settled`; one
     that has not written at all is `Clean`.  On a settled session every primitive has a plain equation
     (`flush_settled`, `select_settled`, `execute_settled`), and most runs are computed by these.
  4. `getDb` is the dependency around a request: it commits after a return and rolls back after an
     exception.  The websocket endpoint swallows its exceptions, so it always returns.

  Time is a natural number of microseconds (`second`); ids are drawn one after another from `Env.uuid4`.
-/
import Dtsys.Lib.Act
import Dtsys.Server.Manager

namespace Dtsys

/-! ## Redis -/

/-- Keys of the counters, `f"ws_attempts:{ip}"` and `f"event_rate:{device.id}"`. -/
inductive CounterKey where
  | wsAttempts (ip : String)
  | eventRate (d : Uuid)
  deriving DecidableEq, Repr

/-- Keys of the stored documents, `f"screenshot:{device.id}"` and `f"process_list:{device.id}"`. -/
inductive DocKey where
  | screenshot (d : Uuid)
  | processList (d : Uuid)
  deriving DecidableEq, Repr

/-- A key that counts, with the time at which it expires. -/
structure Counter where
  count : Nat
  expiresAt : Option Nat
  deriving DecidableEq, Repr

/-- The keys that the server uses: counters, and JSON documents with the time at which they expire. -/
structure Redis where
  counters : CounterKey → Option Counter
  docs : DocKey → Option (Json × Nat)

/-- One second, in the clock's microseconds. -/
def second : Nat := 1000000

namespace Redis

/-- The counter as it stands at time `t`: an expired key does not exist. -/
def live (r : Redis) (k : CounterKey) (t : Nat) : Option Counter :=
  (r.counters k).filter fun c => match c.expiresAt with
    | some e => decide (t < e)
    | none => true

/-- INCR: the new value, and the store. -/
def incr (r : Redis) (k : CounterKey) (t : Nat) : Nat × Redis :=
  let c := (r.live k t).getD ⟨0, none⟩
  let c' : Counter := ⟨c.count + 1, c.expiresAt⟩
  (c'.count, { r with counters := Function.update r.counters k (some c') })

/-- EXPIRE. -/
def expire (r : Redis) (k : CounterKey) (t secs : Nat) : Redis :=
  let c := (r.live k t).map fun c => ⟨c.count, some (t + secs * second)⟩
  { r with counters := Function.update r.counters k c }

/-- DEL. -/
def delete (r : Redis) (k : CounterKey) : Redis :=
  { r with counters := Function.update r.counters k none }

/-- SETEX. -/
def setex (r : Redis) (k : DocKey) (t secs : Nat) (v : Json) : Redis :=
  { r with docs := Function.update r.docs k (some (v, t + secs * second)) }

end Redis

/-! ## What leaves the process -/

/-- The messages the server sends to an agent (`ServerMessageType`). -/
inductive ServerMessage where
  | command (commandId : Uuid) (commandType : String) (payload : List (String × Json))
  | configUpdate (data : Json)
  | screenshotRequest (commandId : Uuid)
  | ping
  | ack

/-- The payload `NotificationService.notify` builds. -/
structure AlertPayload where
  id : Uuid
  deviceId : Uuid
  deviceHostname : String
  orgId : Option Uuid
  alertType : AlertType
  severity : Severity
  message : String
  isResolved : Bool
  createdAt : Nat
  resolvedAt : Option Nat

/-- The payload `_handle_event` publishes. -/
structure ActivityPayload where
  deviceId : Uuid
  deviceHostname : String
  orgId : Option Uuid
  eventType : Json
  message : String
  source : Option String
  time : Nat

/-- One Expo push message. -/
structure PushMessage where
  token : String
  title : String
  body : String
  deriving DecidableEq, Repr

/-- Things handed to streams, task queues and the push service. -/
inductive Effect where
  | activity (p : ActivityPayload)
  | alertStream (p : AlertPayload)
  | webhook (url : String) (p : AlertPayload)
  | email (address : String) (alertId deviceId : Uuid)
  | push (messages : List PushMessage)

/-! ## Parameters -/

/-- An alert threshold of `Settings`: its value, and the text an f-string prints for it. -/
structure Threshold where
  value : Rat
  text : String

/-- The thresholds of `app/config.py`. -/
structure Settings where
  deviceOfflineThresholdSeconds : Nat := 120
  alertCpuPercent : Threshold := ⟨90, "90.0"⟩
  alertRamPercent : Threshold := ⟨90, "90.0"⟩
  alertDiskPercent : Threshold := ⟨90, "90.0"⟩
  alertCpuTempCelsius : Threshold := ⟨85, "85.0"⟩
  alertNtpOffsetMs : Threshold := ⟨500, "500.0"⟩

/-- What the server's code is run with: the settings, the database driver, the values
    `uuid.uuid4` will return, Python's `str` and `len(json.dumps(·))` on a decoded value, the texts
    of a time (`isoformat()` and `str`), bcrypt's check, the push service's answer (for each message
    whether the entry says `InvalidCredentials`; `none` for a failed request), and the keys
    `generate_api_key` will return with their bcrypt hashes. -/
structure Env where
  settings : Settings
  driver : Driver
  uuid4 : Nat → Uuid
  str : Json → String
  dumpsLength : Json → Nat
  isoformat : Nat → String
  strTime : Nat → String
  verifyApiKey : String → String → Bool
  expoSend : List PushMessage → Option (List Bool)
  generateApiKey : Nat → String
  hashApiKey : String → String

/-- Parameters to run the model with: `str` and `len(json.dumps(·))` on texts, no push service. -/
def Env.sample : Env where
  settings := {}
  driver := .typed
  uuid4 n := BitVec.ofNat 128 (2 ^ 127 + n % 2 ^ 127)
  str v := match v with
    | .str s => s
    | _ => ""
  dumpsLength v := match v with
    | .str s => s.length + 2
    | _ => 0
  isoformat _ := "1970-01-01T00:00:00+00:00"
  strTime _ := "1970-01-01 00:00:00+00:00"
  verifyApiKey key hash := key == hash
  expoSend _ := none
  generateApiKey n := "key" ++ toString n
  hashApiKey key := key

/-! ## The state -/

/-- What a handler can see and change: the database as committed and as its session sees it, the rows that are
    added and not flushed, the instance of the device, Redis, the manager, the clock and what has been sent. -/
structure World where
  committed : Db
  db : Db
  pending : List Row
  device : Device
  loaded : Device
  clock : Nat
  drawn : Nat
  redis : Option Redis
  manager : Manager
  dead : Socket → Bool
  handed : List (Uuid × ServerMessage)
  wire : List (Socket × ServerMessage)
  effects : List Effect

/-- A computation of the server. -/
abbrev Server := Act World PyErr

namespace World

/-- The attributes the websocket handlers set on the ORM instance. -/
def syncDevice (device loaded row : Device) : Device :=
  if row.id = device.id then
    { row with
      lastSeen := if device.lastSeen = loaded.lastSeen then row.lastSeen else device.lastSeen
      status := if device.status = loaded.status then row.status else device.status
      ipAddress := if device.ipAddress = loaded.ipAddress then row.ipAddress else device.ipAddress
      agentVersion :=
        if device.agentVersion = loaded.agentVersion then row.agentVersion
        else device.agentVersion }
  else row

/-- What a flush writes: the changed attributes of the instance, then the new rows. -/
def view (w : World) : Db :=
  { w.db with devices := w.db.devices.map (syncDevice w.device w.loaded) }.insertAll w.pending

/-- A session of `device` that has just begun on the database `db`. -/
def start (db : Db) (device : Device) : World where
  committed := db
  db := db
  pending := []
  device := device
  loaded := device
  clock := 0
  drawn := 0
  redis := none
  manager := .empty
  dead := fun _ => false
  handed := []
  wire := []
  effects := []

/-- Nothing is waiting to be flushed. -/
structure Settled (w : World) : Prop where
  pending : w.pending = []
  loaded : w.loaded = w.device

/-- Nothing is waiting to be flushed or committed: the state between two transactions. -/
structure Clean (w : World) : Prop extends Settled w where
  db : w.db = w.committed

/-- A sync of an instance keeps the ids. -/
theorem syncDevice_id (device loaded row : Device) : (syncDevice device loaded row).id = row.id := by
  rw [syncDevice]
  split <;> rfl

/-- And the rows of other devices. -/
theorem syncDevice_other {device loaded row : Device} (h : row.id ≠ device.id) :
    syncDevice device loaded row = row := by
  rw [syncDevice, if_neg h]

/-- An instance without changes writes nothing. -/
theorem syncDevice_self (device row : Device) : syncDevice device device row = row := by
  rw [syncDevice]
  split
  · simp
  · rfl

/-- A session that starts is clean. -/
theorem start_clean (db : Db) (device : Device) : (start db device).Clean :=
  ⟨⟨rfl, rfl⟩, rfl⟩

/-- A settled session sees what the database holds. -/
theorem Settled.view_eq {w : World} (h : w.Settled) : w.view = w.db := by
  have hsync : syncDevice w.device w.device = id := funext fun row => syncDevice_self _ row
  rw [view, h.pending, h.loaded, hsync, List.map_id]
  rfl

end World

/-! ## Primitive operations -/

namespace Server

variable (E : Env)

/-- The device attributes a flush would write are accepted (`agent_version` is the only one whose
    text is the agent's). -/
def deviceAccepted (device loaded : Device) : Bool :=
  device.agentVersion == loaded.agentVersion ||
    E.driver.accepts (nullable (.string 50)) ((device.agentVersion.map Json.str).getD .null)

/-- Everything waiting to be flushed is accepted. -/
def flushAccepted (w : World) : Bool :=
  w.pending.all E.driver.acceptsRow && deviceAccepted E w.device w.loaded

/-- `await db.flush()`. -/
def flush : Server Unit := fun w =>
  if flushAccepted E w then (.ok (), { w with db := w.view, pending := [], loaded := w.device })
  else (.error .db, w)

/-- `await db.commit()`. -/
def commit : Server Unit := do
  flush E
  Act.modify fun w => { w with committed := w.db }

/-- `await db.rollback()`. -/
def rollback (w : World) : World :=
  { w with db := w.committed, pending := [] }

/-- A fresh `uuid.uuid4()`. -/
def newId : Server Uuid := fun w => (.ok (E.uuid4 w.drawn), { w with drawn := w.drawn + 1 })

@[simp] theorem newId_bind {α : Type} (f : Uuid → Server α) (w : World) :
    (newId E >>= f) w = f (E.uuid4 w.drawn) { w with drawn := w.drawn + 1 } := rfl

/-- `db.add(row)`. -/
def add (r : Row) : Server Unit := Act.modify fun w => { w with pending := w.pending ++ [r] }

/-- Set attributes of the ORM instance. -/
def setDevice (f : Device → Device) : Server Unit :=
  Act.modify fun w => { w with device := f w.device }

/-- An ORM statement: autoflush, then the change. -/
def execute (f : Db → Db) : Server Unit := do
  flush E
  Act.modify fun w => { w with db := f w.db }

/-- An ORM query: autoflush, then the rows. -/
def select {α : Type} (f : Db → α) : Server α := do
  flush E
  Act.read fun w => f w.db

/-- An ORM statement that carries values from outside: refused if the driver refuses one. -/
def executeWith (values : List (Column × Json)) (f : Db → Db) : Server Unit := do
  flush E
  if values.all (fun cv => E.driver.accepts cv.1 cv.2) then
    Act.modify fun w => { w with db := f w.db }
  else Act.raise .db

/-- `scalar_one_or_none()`. -/
def scalarOneOrNone {α : Type} : List α → Server (Option α)
  | [] => pure none
  | [a] => pure (some a)
  | _ => Act.raise .multipleResultsFound

/-- Hand something to a stream, a task queue or the push service. -/
def emit (e : Effect) : Server Unit := Act.modify fun w => { w with effects := w.effects ++ [e] }

/-- `datetime.now(timezone.utc)`. -/
def now : Server Nat := Act.read World.clock

/-! ## Flush and commit -/

/-- A flush whose rows the database takes. -/
theorem flush_accepted {w : World} (h : flushAccepted E w = true) :
    flush E w = (.ok (), { w with db := w.view, pending := [], loaded := w.device }) := by
  rw [flush, if_pos h]

/-- A flush that the driver or a constraint refuses, and that writes nothing. -/
theorem flush_refused {w : World} (h : flushAccepted E w = false) :
    flush E w = (.error .db, w) := by
  rw [flush, if_neg (by simp [h])]

/-- A commit whose rows the database takes. -/
theorem commit_accepted {w : World} (h : flushAccepted E w = true) :
    commit E w = (.ok (),
      { w with committed := w.view, db := w.view, pending := [], loaded := w.device }) := by
  rw [commit, Act.bind_of_ok (flush_accepted E h)]
  rfl

theorem commit_refused {w : World} (h : flushAccepted E w = false) :
    commit E w = (.error .db, w) := by
  rw [commit, Act.bind_of_error (flush_refused E h)]

/-! ## The primitives on a settled session -/

section Settled

variable {E} {w : World}

/-- A settled session has nothing to be refused. -/
theorem flushAccepted_settled (h : w.Settled) : flushAccepted E w = true := by
  rw [flushAccepted, deviceAccepted, h.pending, h.loaded]
  simp

theorem flush_settled (h : w.Settled) : flush E w = (.ok (), w) := by
  rw [flush_accepted E (flushAccepted_settled h), h.view_eq]
  obtain ⟨hp, hl⟩ := h
  cases w
  cases hp
  cases hl
  rfl

/-- An UPDATE or a DELETE in a settled session. -/
theorem execute_settled (h : w.Settled) (f : Db → Db) :
    execute E f w = (.ok (), { w with db := f w.db }) := by
  rw [execute, Act.bind_of_ok (flush_settled h)]
  rfl

theorem select_settled {α : Type} (h : w.Settled) (f : Db → α) :
    select E f w = (.ok (f w.db), w) := by
  rw [select, Act.bind_of_ok (flush_settled h)]
  rfl

/-- An UPDATE with parameters, which the driver may refuse. -/
theorem executeWith_settled (h : w.Settled) (values : List (Column × Json)) (f : Db → Db) :
    executeWith E values f w =
      if values.all (fun cv => E.driver.accepts cv.1 cv.2) then (.ok (), { w with db := f w.db })
      else (.error .db, w) := by
  rw [executeWith, Act.bind_of_ok (flush_settled h)]
  split
  · rfl
  · rfl

/-- One row waiting in a settled session: whether the flush goes through is up to that row. -/
theorem flushAccepted_add (h : w.Settled) (r : Row) (n : Nat) :
    flushAccepted E { w with drawn := n, pending := w.pending ++ [r] } = E.driver.acceptsRow r := by
  simp [flushAccepted, deviceAccepted, h.pending, h.loaded]

/-- A row that is added is seen at once. -/
theorem view_add (h : w.Settled) (r : Row) (n : Nat) :
    ({ w with drawn := n, pending := w.pending ++ [r] } : World).view = w.db.insert r := by
  have hview : w.view = w.db := h.view_eq
  rw [World.view, h.pending] at hview ⊢
  exact congrArg (fun db : Db => db.insert r) hview

theorem flush_add (h : w.Settled) {r : Row} (hr : E.driver.acceptsRow r = true) (n : Nat) :
    flush E { w with drawn := n, pending := w.pending ++ [r] } =
      (.ok (), { w with drawn := n, db := w.db.insert r }) := by
  rw [flush_accepted E ((flushAccepted_add h r n).trans hr), view_add h]
  simp [h.pending, h.loaded]

/-- An INSERT that is refused leaves its row pending. -/
theorem flush_add_refused (h : w.Settled) {r : Row} (hr : E.driver.acceptsRow r = false) (n : Nat) :
    flush E { w with drawn := n, pending := w.pending ++ [r] } =
      (.error .db, { w with drawn := n, pending := w.pending ++ [r] }) :=
  flush_refused E ((flushAccepted_add h r n).trans hr)

end Settled

/-! ## The connection manager, run without interleaving -/

/-- `await manager.connect(device_id, websocket, ip=client_ip)`. -/
def managerConnect (d : Uuid) (ws : Socket) (ip : String) : Server Unit :=
  Act.modify fun w =>
    { w with manager := (w.manager.closeOld d).register d ws ⟨w.clock, ip⟩ }

/-- `await manager.disconnect(device_id)`. -/
def managerDisconnect (d : Uuid) : Server Unit :=
  Act.modify fun w => { w with manager := w.manager.pop d }

/-- `await manager.send_to_device(device_id, message)`: `False` without an entry; a failed send
    drops the entry and is `False` too. -/
def sendToDevice (d : Uuid) (msg : ServerMessage) : Server Bool := fun w =>
  let w := { w with handed := w.handed ++ [(d, msg)] }
  match w.manager.connections d with
  | none => (.ok false, w)
  | some ws =>
    if w.dead ws then (.ok false, { w with manager := w.manager.pop d })
    else (.ok true, { w with wire := w.wire ++ [(ws, msg)] })

/-! ## `get_db` -/

/-- `get_db` around an endpoint: commit if it returned, roll back if it raised.  A commit that
    fails rolls back as well.  The world after the dependency has been torn down. -/
def getDb {α : Type} (endpoint : Server α) : Server α := fun w =>
  match endpoint w with
  | (.ok a, w') => match commit E w' with
    | (.ok _, w'') => (.ok a, w'')
    | (.error e, w'') => (.error e, rollback w'')
  | (.error e, w') => (.error e, rollback w')

/-- A commit of a settled session. -/
theorem commit_settled {w : World} (h : w.Settled) :
    commit E w = (.ok (), { w with committed := w.db }) := by
  rw [commit, Act.bind_of_ok (flush_settled h)]
  rfl

/-- `get_db` rolls back what raised. -/
theorem getDb_of_error {α : Type} {x : Server α} {w w' : World} {e : PyErr}
    (h : x w = (.error e, w')) : getDb E x w = (.error e, rollback w') := by
  rw [getDb, h]

/-- `get_db` commits what returned. -/
theorem getDb_of_settled {α : Type} {x : Server α} {w w' : World} {a : α}
    (h : x w = (.ok a, w')) (hs : w'.Settled) :
    getDb E x w = (.ok a, { w' with committed := w'.db }) := by
  rw [getDb, h]
  simp only [commit_settled E hs]

end Server

end Dtsys
