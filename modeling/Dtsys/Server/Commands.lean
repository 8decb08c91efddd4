/-
  DISPATCHING COMMANDS: `CommandService.dispatch_command` and the three requests that call it, POST
  `/devices/{id}/commands`, POST `/commands/bulk` and POST `/software-updates/dispatch`.

  `dispatch_command` checks the type, the length of the device's queue and the device, flushes a
  `pending` row, TRANSMITS, and then sets the status by what the send returned.  The transmission
  cannot be undone; the row can, by the roll-back of the request's transaction.

  The requests differ in what an exception of one element does: the single dispatch has one element,
  the bulk request runs every element in a savepoint and collects the exceptions, the update
  dispatch lets the exception end the request.
-/
import Dtsys.Server.Session

namespace Dtsys

namespace Server

variable (E : Env)

/-! ## `CommandService` -/

/-- `ALLOWED_COMMAND_TYPES`. -/
def allowedCommandTypes : List String :=
  ["shell", "script", "update_check", "reboot", "sync_time", "request_process_list", "diagnostics",
   "update"]

/-- The `repr` of a set of strings (in one of its orders). -/
def setRepr (xs : List String) : String :=
  "\x7b" ++ ", ".intercalate (xs.map fun x => "'" ++ x ++ "'") ++ "\x7d"

/-- `{**payload, "target_time": now}` for a `sync_time` without one. -/
def withTargetTime (commandType : String) (payload : List (String × Json)) (t : Nat) :
    List (String × Json) :=
  if commandType = "sync_time" ∧ (payload.lookup "target_time").isNone then
    payload ++ [("target_time", .str (E.isoformat t))]
  else payload

/-- The commands of a device that are `pending` or `sent`. -/
def queued (d : Uuid) (c : Command) : Bool :=
  c.deviceId == d && (c.status == .pending || c.status == .sent)

/-- What the return value of the send makes of the row. -/
def settleDispatch (sent failIfOffline : Bool) (t : Nat) (c : Command) : Command :=
  if sent then { c with status := .sent }
  else if failIfOffline then
    { c with status := .failed, output := .str "Device not connected", completedAt := some t }
  else c

/-- `if not c: raise e`. -/
def ensure (c : Bool) (e : PyErr) : Server Unit := if c then pure () else Act.raise e

/-- The checks of `dispatch_command`. -/
def checkDispatch (d : Uuid) (commandType : String) : Server Unit := do
  ensure (allowedCommandTypes.contains commandType)
    (badRequestError ("Command type must be one of: " ++ setRepr allowedCommandTypes))
  let pendingCount ← select E fun db => (db.commands.filter (queued d)).length
  ensure (decide (pendingCount < 100))
    (tooManyRequestsError "Too many queued commands for this device")
  let rows ← select E fun db => db.devices.filter fun r => r.id == d && !r.isRevoked
  let device ← scalarOneOrNone rows
  ensure device.isSome (notFoundError ("Device " ++ d.str ++ " not found"))

/-- Set attributes of the ORM instance whose row was flushed last. -/
def setLastCommand (f : Command → Command) (db : Db) : Db :=
  { db with commands := db.commands.dropLast ++ (db.commands.getLast?.map f).toList }

/-- The row, its flush, the transmission and the status. -/
def transmitCommand (c : Command) (failIfOffline : Bool) : Server (Command × Bool) := do
  add (.command c)
  flush E
  -- from here on the command is on the wire, whatever becomes of the transaction
  let sent ← sendToDevice c.deviceId (.command c.id c.commandType c.payload)
  let t ← now
  let settled := settleDispatch sent failIfOffline t
  Act.modify fun w => { w with db := setLastCommand settled w.db }
  pure (settled c, sent)

/-- `dispatch_command`. -/
def dispatchCommand (d : Uuid) (commandType : String) (payload : List (String × Json))
    (issuedBy : Option Uuid) (failIfOffline : Bool) : Server (Command × Bool) := do
  checkDispatch E d commandType
  let id ← newId E
  let t ← now
  transmitCommand E
    { id, deviceId := d, issuedBy, commandType, payload := withTargetTime E commandType payload t,
      status := .pending, createdAt := t, completedAt := none, exitCode := .null, output := .null }
    failIfOffline

/-! ## Requests -/

/-- The authenticated user of a request. -/
structure User where
  id : Uuid
  username : String

/-- `validate_shell_payload`: a shell command of at most 10000 characters. -/
def validShellPayload (payload : List (String × Json)) : Bool :=
  match payload.lookup "command" with
  | some (.str s) => decide (s.length ≤ 10000)
  | _ => true

/-- A body FastAPI refuses before the endpoint runs. -/
def unprocessable (detail : String) : PyErr := .http 422 detail

/-- `_get_device_for_org`. -/
def getDeviceForOrg (d org : Uuid) : Server Device := do
  let rows ← select E fun db =>
    db.devices.filter fun r => r.id == d && r.orgId == some org && !r.isRevoked
  let device ← scalarOneOrNone rows
  match device with
  | some r => pure r
  | none => Act.raise (.http 404 "Device not found")

/-- `log_action`. -/
def logAction (user : User) (action resourceType resourceId : String) (details : Json) :
    Server Unit := do
  let id ← newId E
  let t ← now
  add (.audit ⟨id, t, user.id, user.username, action, resourceType, resourceId, details⟩)
  flush E

/-- POST `/devices/{id}/commands`. -/
def postCommand (user : User) (org d : Uuid) (commandType : String)
    (payload : List (String × Json)) : Server Command := do
  ensure (validShellPayload payload)
    (unprocessable "shell command payload must be 10000 characters or less")
  let _ ← getDeviceForOrg E d org
  let (command, _) ← dispatchCommand E d commandType payload (some user.id) true
  logAction E user "command_dispatched" "device" d.str (.obj [("command_type", .str commandType)])
  commit E
  pure command

/-- Run `x`; an exception takes the session back to where it was. -/
def savepoint {α : Type} (x : Server α) : Server α := fun w =>
  match x w with
  | (.ok a, w') => (.ok a, w')
  | (.error e, w') => (.error e, { w' with db := w.db, pending := [] })

/-- `async with db.begin_nested()`. -/
def nested {α : Type} (x : Server α) : Server α := do
  flush E
  -- entering the savepoint flushes, and so does releasing it
  let a ← savepoint x
  flush E
  pure a

/-- One element of the bulk request: dispatched, or the exception. -/
def bulkOne (user : User) (allowed : List Uuid) (commandType : String)
    (payload : List (String × Json)) (d : Uuid) : Server (Except PyErr Command) :=
  if allowed.contains d then
    Act.attempt
      (do
        let (command, _) ← nested E (dispatchCommand E d commandType payload (some user.id) false)
        pure (.ok command))
      fun e => pure (.error e)
  else pure (.error (.http 404 "Device not found"))

/-- The loop of the bulk request. -/
def bulkAll (user : User) (allowed : List Uuid) (commandType : String)
    (payload : List (String × Json)) : List Uuid → Server (List (Uuid × Except PyErr Command))
  | [] => pure []
  | d :: ds => do
    let out ← bulkOne E user allowed commandType payload d
    let rest ← bulkAll user allowed commandType payload ds
    pure ((d, out) :: rest)

/-- POST `/commands/bulk`: for every device its command or the exception. -/
def postBulk (user : User) (org : Uuid) (deviceIds : List Uuid) (commandType : String)
    (payload : List (String × Json)) : Server (List (Uuid × Except PyErr Command)) := do
  ensure (!deviceIds.isEmpty) (unprocessable "device_ids must have at least one item")
  ensure (validShellPayload payload)
    (unprocessable "shell command payload must be 10000 characters or less")
  -- revoked devices are let through here, and refused by the dispatch
  let allowed ← select E fun db =>
    (db.devices.filter fun r => r.orgId == some org && deviceIds.contains r.id).map Device.id
  let outs ← bulkAll E user allowed commandType payload deviceIds
  commit E
  pure outs

/-- `_build_update_command`. -/
def buildUpdateCommand (osType : String) (packages : List String) : String :=
  let packageList := " ".intercalate packages
  if osType = "windows" then
    "powershell -Command \"if (Get-Command winget -ErrorAction SilentlyContinue) \x7b " ++
      "; ".intercalate (packages.map fun pkg => "winget upgrade --exact --id " ++ pkg ++ " --silent")
      ++ " \x7d elseif (Get-Command choco -ErrorAction SilentlyContinue) \x7b choco upgrade -y "
      ++ packageList ++ " \x7d else \x7b Write-Output 'No supported package manager found' \x7d\""
  else if osType = "macos" then "brew upgrade " ++ packageList
  else
    "if command -v apt-get >/dev/null 2>&1; then apt-get install -y " ++ packageList
      ++ "; elif command -v dnf >/dev/null 2>&1; then dnf update -y " ++ packageList
      ++ "; else echo 'No supported package manager found'; exit 1; fi"

/-- The loop of the update dispatch: an exception ends it. -/
def updateAll (user : User) (names : List String) (devices : List Device) :
    List Uuid → Server (List (Uuid × Uuid))
  | [] => pure []
  | d :: ds =>
    match devices.find? fun r => r.id == d with
    -- not a device of the organization: skipped
    | none => updateAll user names devices ds
    | some device => do
      let (command, _) ← dispatchCommand E d "shell"
        [("command", .str (buildUpdateCommand device.osType names))] (some user.id) false
      let rest ← updateAll user names devices ds
      pure ((d, command.id) :: rest)

/-- POST `/software-updates/dispatch`: pairs of a device and its command. -/
def dispatchUpdates (user : User) (org : Uuid) (names : List String) (deviceIds : List Uuid) :
    Server (List (Uuid × Uuid)) := do
  let devices ← select E fun db =>
    db.devices.filter fun r => deviceIds.contains r.id && r.orgId == some org
  let dispatched ← updateAll E user names devices deviceIds
  commit E
  pure dispatched

/-! ## The scheduler -/

/-- One dispatch a due schedule asks for: its device (or each of the devices that are not revoked),
    its command, and who made it. -/
structure ScheduledJob where
  deviceId : Uuid
  commandType : String
  payload : List (String × Json)
  createdBy : Option Uuid

/-- One element of a bulk dispatch. -/
def runJob (job : ScheduledJob) : Server Unit := do
  let _ ← dispatchCommand E job.deviceId job.commandType job.payload job.createdBy false
  pure ()

/-- `_run_scheduled_commands`, for the jobs that are due. -/
def runScheduledCommands (jobs : List ScheduledJob) : Server Unit := do
  Act.forEach jobs (runJob E)
  commit E

end Server

end Dtsys
