/-
  `MessageHandler` (`app/websocket/handler.py`) — what the server does with a message of an agent.

  `handle` reads `type` and `data` and dispatches to one of eleven handlers; `pong` and unknown
  types do nothing.  Each handler is transcribed statement by statement, in the source's order:
  which `.get`, `for` or `uuid.UUID` raises, and which writes came before it, is exactly what the
  properties of `handle` turn on.

  The authenticated device is the ORM instance `World.device`.  Columns are filled with the values
  of the payload as they are; a `null` in a column with a default stores the default.
-/
import Dtsys.Server.Alerts
import Dtsys.Server.Address

namespace Dtsys

/-- `ClientMessageType` (`app/websocket/messages.py`). -/
inductive ClientMessageType where
  | telemetry
  | softwareInventory
  | eventReport
  | ntpStatus
  | networkInfo
  | sshKeys
  | processList
  | agentInfo
  | commandOutput
  | commandResult
  | screenshotResult
  deriving DecidableEq, Repr

/-- The member a `type` field matches. -/
def ClientMessageType.ofJson : Json → Option ClientMessageType
  | .str "telemetry" => some .telemetry
  | .str "software_inventory" => some .softwareInventory
  | .str "event_report" => some .eventReport
  | .str "ntp_status" => some .ntpStatus
  | .str "network_info" => some .networkInfo
  | .str "ssh_keys" => some .sshKeys
  | .str "process_list" => some .processList
  | .str "agent_info" => some .agentInfo
  | .str "command_output" => some .commandOutput
  | .str "command_result" => some .commandResult
  | .str "screenshot_result" => some .screenshotResult
  | _ => none

namespace Server

variable (E : Env)

/-! ## Constants -/

/-- `MAX_EVENT_MESSAGE_LEN`. -/
def maxEventMessageLen : Nat := 2048
/-- `MAX_EVENT_SOURCE_LEN`. -/
def maxEventSourceLen : Nat := 256
/-- `MAX_RAW_DATA_BYTES`. -/
def maxRawDataBytes : Nat := 4096
/-- `MAX_SCREENSHOT_B64`. -/
def maxScreenshotB64 : Nat := 2000000
/-- `MAX_PROCESS_COUNT`. -/
def maxProcessCount : Nat := 50

/-! ## Telemetry -/

/-- The `DeviceMetric(...)` of a telemetry payload. -/
def metricOf (id : Uuid) (t : Nat) (d : Uuid) (data : Json) : Except PyErr DeviceMetric := do
  let cpuPercent ← data.get "cpu_percent"
  let ramPercent ← data.get "ram_percent"
  let diskPercent ← data.get "disk_percent"
  let cpuTemp ← data.get "cpu_temp"
  let uptimeSecs ← data.get "uptime_secs"
  let ramTotalMb ← data.get "ram_total_mb"
  let ramUsedMb ← data.get "ram_used_mb"
  let diskTotalGb ← data.get "disk_total_gb"
  let diskUsedGb ← data.get "disk_used_gb"
  let diskReadMbps ← data.get "disk_read_mbps"
  let diskWriteMbps ← data.get "disk_write_mbps"
  let netSentMbps ← data.get "net_sent_mbps"
  let netRecvMbps ← data.get "net_recv_mbps"
  pure { id, time := t, deviceId := d, cpuPercent, ramPercent, diskPercent, cpuTemp, uptimeSecs,
         ramTotalMb, ramUsedMb, diskTotalGb, diskUsedGb, diskReadMbps, diskWriteMbps, netSentMbps,
         netRecvMbps }

/-- One clause of `auto_resolve_alerts`: `x is not None and x < bound`. -/
def autoResolve (d : Uuid) (v : Json) (bound : Rat) (ty : AlertType) (t : Nat) : Server Unit :=
  if v.isNone then pure ()
  else do
    let below ← Act.ofExcept (v.lt bound)
    if below then execute E (resolveAlerts d ty t) else pure ()

/-- `auto_resolve_alerts`. -/
def autoResolveAlerts (d : Uuid) (telemetry : Json) : Server Unit := do
  let t ← now
  let cpu ← Act.ofExcept (telemetry.get "cpu_percent")
  autoResolve E d cpu 80 .highCpu t
  let ram ← Act.ofExcept (telemetry.get "ram_percent")
  autoResolve E d ram 85 .highRam t
  let disk ← Act.ofExcept (telemetry.get "disk_percent")
  autoResolve E d disk 90 .highDisk t

/-- `_handle_telemetry`. -/
def handleTelemetry (data : Json) : Server Unit := do
  let device ← Act.read World.device
  let id ← newId E
  let t ← now
  let metric ← Act.ofExcept (metricOf id t device.id data)
  add (.metric metric)
  setDevice fun d => { d with lastSeen := some t, status := .online }
  flush E
  -- the metric is in the transaction before it is judged
  evaluateMetrics E metric
  autoResolveAlerts E device.id data

/-! ## Full-replace inventories -/

/-- `for x in xs: db.add(row(x))` — building a row may raise, and then the rows before it have been
    added. -/
def addAll (row : Uuid → Json → Except PyErr Row) (xs : List Json) : Server Unit :=
  Act.forEach xs fun x => do
    let id ← newId E
    let r ← Act.ofExcept (row id x)
    add r

/-- `delete(SoftwareInventory).where(device_id == d)`. -/
def deleteSoftware (d : Uuid) (db : Db) : Db :=
  { db with software := db.software.filter fun r => r.deviceId != d }

/-- `delete(SSHKey).where(device_id == d)`. -/
def deleteSshKeys (d : Uuid) (db : Db) : Db :=
  { db with sshKeys := db.sshKeys.filter fun r => r.deviceId != d }

/-- `delete(DeviceNetworkInfo).where(device_id == d)`. -/
def deleteNetwork (d : Uuid) (db : Db) : Db :=
  { db with network := db.network.filter fun r => r.deviceId != d }

/-- The `SoftwareInventory(...)` of one package. -/
def softwareRow (d id : Uuid) (pkg : Json) : Except PyErr Row := do
  let name ← pkg.getD "name" (.str "")
  let version ← pkg.get "version"
  let update ← pkg.getD "update_available" (.bool false)
  let latestVersion ← pkg.get "latest_version"
  pure (.software { id, deviceId := d, name, version,
                    updateAvailable := if update.isNone then .bool false else update,
                    latestVersion })

/-- `_handle_software`: full replace.  The DELETE comes first, before the payload is looked at. -/
def handleSoftware (data : Json) : Server Unit := do
  let device ← Act.read World.device
  execute E (deleteSoftware device.id)
  let packages ← Act.ofExcept (data.getD "packages" (.arr []))
  let items ← Act.ofExcept packages.iter
  addAll E (softwareRow device.id) items

/-- The `SSHKey(...)` of one key. -/
def sshKeyRow (d id : Uuid) (key : Json) : Except PyErr Row := do
  let keyType ← key.getD "type" (.str "")
  let publicKey ← key.getD "public_key" (.str "")
  let fingerprint ← key.getD "fingerprint" (.str "")
  let comment ← key.get "comment"
  pure (.sshKey { id, deviceId := d, keyType, publicKey, fingerprint, comment })

/-- `_handle_ssh_keys`: full replace, the DELETE first. -/
def handleSshKeys (data : Json) : Server Unit := do
  let device ← Act.read World.device
  execute E (deleteSshKeys device.id)
  let keys ← Act.ofExcept (data.getD "keys" (.arr []))
  let items ← Act.ofExcept keys.iter
  addAll E (sshKeyRow device.id) items

/-! ## Network interfaces -/

/-- `iface.get(key, []) or []`. -/
def addressList (iface : Json) (key : String) : Except PyErr Json := do
  let v ← iface.getD key (.arr [])
  pure (if v.truthy then v else .arr [])

/-- The `DeviceNetworkInfo(...)` of one interface. -/
def networkRow (d id : Uuid) (iface : Json) : Except PyErr Row := do
  let ipv4 ← addressList iface "ipv4"
  let ipv6 ← addressList iface "ipv6"
  let interfaceName ← iface.getD "name" (.str "")
  let macAddress ← iface.get "mac_address"
  let isUp ← iface.getD "is_up" (.bool false)
  let mtu ← iface.get "mtu"
  pure (.network { id, deviceId := d, interfaceName, macAddress, ipv4, ipv6,
                   isUp := if isUp.isNone then .bool true else isUp, mtu })

/-- The inner loop over `ipv4_list`: `(preferred_ip, fallback_ip)` is its accumulator. -/
def chooseIp : Option Ipv4 × Option Ipv4 → List Json → Option Ipv4 × Option Ipv4
  | acc, [] => acc
  | (preferred, fallback), raw :: rest =>
    match extractIp raw with
    | none => chooseIp (preferred, fallback) rest
    | some ip =>
      chooseIp (if preferred.isNone ∧ !ip.isPrivate then some ip else preferred,
        if fallback.isNone then some ip else fallback) rest

/-- The loop over the interfaces: each row is added BEFORE its address list is iterated. -/
def addInterfaces (d : Uuid) :
    Option Ipv4 × Option Ipv4 → List Json → Server (Option Ipv4 × Option Ipv4)
  | acc, [] => pure acc
  | acc, iface :: rest => do
    let id ← newId E
    let r ← Act.ofExcept (networkRow d id iface)
    add r
    let ipv4 ← Act.ofExcept (addressList iface "ipv4")
    let addresses ← Act.ofExcept ipv4.iter
    addInterfaces d (chooseIp acc addresses) rest

/-- `device.ip_address = str(preferred_ip or fallback_ip)`, when there is one. -/
def withAddress (chosen : Option Ipv4 × Option Ipv4) (d : Device) : Device :=
  match chosen.1.or chosen.2 with
  | some ip => { d with ipAddress := some ip.str }
  | none => d

/-- `_handle_network_info`. -/
def handleNetworkInfo (data : Json) : Server Unit := do
  let device ← Act.read World.device
  -- unlike the other two: the payload is looked at before the DELETE
  let interfaces ← Act.ofExcept (data.getD "interfaces" (.arr []))
  execute E (deleteNetwork device.id)
  let t ← now
  setDevice fun d => { d with lastSeen := some t, status := .online }
  let items ← Act.ofExcept interfaces.iter
  let chosen ← addInterfaces E device.id (none, none) items
  setDevice (withAddress chosen)

/-! ## Events and NTP -/

/-- `_truncate(value, limit)`. -/
def truncate (v : Json) (limit : Nat) : String :=
  if v.truthy then String.ofList ((E.str v).toList.take limit) else ""

/-- The event rate limit; `true` when the event is to be dropped. -/
def eventRateLimited (d : Uuid) : Server Bool := fun w =>
  match w.redis with
  | none => (.ok false, w)
  | some r =>
    let (count, r) := r.incr (.eventRate d) w.clock
    -- the window of thirty seconds starts with its first event
    let r := if count = 1 then r.expire (.eventRate d) w.clock 30 else r
    (.ok (decide (100 < count)), { w with redis := some r })

/-- `raw_data`, replaced when its JSON text is too long. -/
def boundedRawData (v : Json) : Json :=
  if v.isNone then v
  else if maxRawDataBytes < E.dumpsLength v then .obj [("truncated", .bool true)] else v

/-- The `Event(...)` of a payload: its texts cut, its raw data bounded. -/
def eventOf (id : Uuid) (t : Nat) (d : Uuid) (data : Json) : Except PyErr Event := do
  let message ← data.getD "message" (.str "")
  let rawSource ← data.getD "source" (.str "")
  let source := truncate E rawSource maxEventSourceLen
  let rawData ← data.get "raw_data"
  let eventType ← data.getD "event_type" (.str "info")
  pure { id, time := t, deviceId := d, eventType,
         source := if source = "" then none else some source,
         message := truncate E message maxEventMessageLen,
         rawData := boundedRawData E rawData }

/-- `_handle_event` after the rate limit. -/
def reportEvent (device : Device) (data : Json) : Server Unit := do
  let id ← newId E
  let t ← now
  let event ← Act.ofExcept (eventOf E id t device.id data)
  add (.event event)
  flush E
  emit (.activity
    { deviceId := device.id, deviceHostname := displayName device, orgId := device.orgId,
      eventType := event.eventType, message := event.message, source := event.source, time := t })
  -- read again, without the default: only a reported crash makes an alert
  let reported ← Act.ofExcept (data.get "event_type")
  if reported.isStr "crash" then
    createAlert E .crash .critical ("Crash detected: " ++ event.message)
  else pure ()

/-- `_handle_event`. -/
def handleEvent (data : Json) : Server Unit := do
  let device ← Act.read World.device
  let limited ← eventRateLimited device.id
  if limited then pure () else reportEvent E device data

/-- `abs(data.get("estimated_offset_ms", data.get("offset_ms", 0)))`. -/
def ntpOffset (data : Json) : Except PyErr Json := do
  let plain ← data.getD "offset_ms" (.int 0)
  let estimated ← data.getD "estimated_offset_ms" plain
  estimated.abs

/-- The first half of `_handle_ntp`: an alert when the offset is over the threshold. -/
def checkDrift (offset : Json) : Server Unit := do
  let bound := E.settings.alertNtpOffsetMs
  let drifted ← Act.ofExcept (offset.gt bound.value)
  if drifted then do
    let x ← Act.ofExcept offset.toFloat
    createAlert E .timeDrift .warning
      ("NTP offset is " ++ fixedText 1 x ++ "ms (threshold: " ++ bound.text ++ "ms)")
  else pure ()

/-- The second half: an alert when the clock is unusable, else resolve the open ones. -/
def checkClock (d : Uuid) (data offset : Json) : Server Unit := do
  let clockUsable ← Act.ofExcept (data.getD "clock_usable" (.bool true))
  if clockUsable.truthy then do
    let t ← now
    execute E (resolveAlerts d .clockSkew t)
  else do
    let x ← Act.ofExcept offset.thousandth
    createAlert E .clockSkew .warning
      ("System clock is off by ~" ++ fixedText 0 x ++ "s — run Sync Time to fix")

/-- `_handle_ntp`. -/
def handleNtp (data : Json) : Server Unit := do
  let device ← Act.read World.device
  let offset ← Act.ofExcept (ntpOffset data)
  checkDrift E offset
  checkClock E device.id data offset

/-! ## Commands -/

/-- `update(Command).where(Command.id == id).values(...)`. -/
def updateCommand (id : Uuid) (f : Command → Command) (db : Db) : Db :=
  { db with commands := db.commands.map fun c => if c.id = id then f c else c }

/-- The values a `command_output` message writes. -/
def outputValues (output : Json) (c : Command) : Command :=
  { c with status := .running, output := output }

/-- `"completed" if exit_code == 0 else "failed"`. -/
def resultStatus (exitCode : Json) : CommandStatus :=
  if exitCode.isZero then .completed else .failed

/-- The values a `command_result` message writes. -/
def resultValues (exitCode output : Json) (t : Nat) (c : Command) : Command :=
  { c with status := resultStatus exitCode, exitCode := exitCode, output := output,
           completedAt := some t }

/-- `_handle_command_output`: the row is chosen by the id in the message alone. -/
def handleCommandOutput (data : Json) : Server Unit := do
  let cmdId ← Act.ofExcept (data.get "command_id")
  if cmdId.truthy then do
    let id ← Act.ofExcept cmdId.toUuid
    let output ← Act.ofExcept (data.getD "output" (.str ""))
    executeWith E [(nullable .text, output)] (updateCommand id (outputValues output))
  else pure ()

/-- `_handle_command_result`: the row is chosen by the id in the message alone. -/
def handleCommandResult (data : Json) : Server Unit := do
  let device ← Act.read World.device
  let cmdId ← Act.ofExcept (data.get "command_id")
  if cmdId.truthy then do
    let id ← Act.ofExcept cmdId.toUuid
    let found ← select E fun db => db.commands.find? fun c => c.id == id
    match found with
    -- a result for a row this session cannot see is dropped without a word
    | none => pure ()
    -- no look at `command.device_id`, nor at the status that is replaced
    | some command => do
      let exitCode ← Act.ofExcept (data.getD "exit_code" (.int 1))
      let output ← Act.ofExcept (data.getD "output" (.str ""))
      let t ← now
      executeWith E [(nullable .integer, exitCode), (nullable .text, output)]
        (updateCommand command.id (resultValues exitCode output t))
      if command.commandType = "sync_time" ∧ exitCode.isZero then
        execute E (resolveAlerts device.id .timeDrift t)
      else pure ()
  else pure ()

/-! ## Redis documents and agent info -/

/-- `await self.redis.setex(key, secs, json.dumps(doc))`. -/
def storeDoc (key : DocKey) (secs : Nat) (doc : Json) : Server Unit :=
  Act.modify fun w => { w with redis := w.redis.map fun r => r.setex key w.clock secs doc }

/-- `len(image_b64)`, asked for only when there is an image. -/
def imageSize (image : Json) : Except PyErr Nat := if image.truthy then image.len else .ok 0

/-- `_handle_screenshot_result`. -/
def handleScreenshotResult (data : Json) : Server Unit := do
  let device ← Act.read World.device
  let redis ← Act.read World.redis
  if redis.isNone then pure ()
  else do
    let image ← Act.ofExcept (data.get "image_b64")
    let size ← Act.ofExcept (imageSize image)
    if maxScreenshotB64 < size then pure ()
    else do
      let t ← now
      let width ← Act.ofExcept (data.get "width")
      let height ← Act.ofExcept (data.get "height")
      let error ← Act.ofExcept (data.get "error")
      storeDoc (.screenshot device.id) 300
        (.obj [("image_b64", image), ("captured_at", .str (E.isoformat t)), ("width", width),
               ("height", height), ("error", error)])

/-- `_handle_process_list`. -/
def handleProcessList (data : Json) : Server Unit := do
  let device ← Act.read World.device
  let redis ← Act.read World.redis
  if redis.isNone then pure ()
  else do
    let processes ← Act.ofExcept (data.getD "processes" (.arr []))
    let bounded := match processes with
      | .arr xs => Json.arr (xs.take maxProcessCount)
      | v => v
    let t ← now
    storeDoc (.processList device.id) 600
      (.obj [("processes", bounded), ("captured_at", .str (E.isoformat t))])

/-- `device.agent_version = str(version)[:50]`, for a version that is there. -/
def withVersion (version : Json) (d : Device) : Device :=
  if version.truthy then
    { d with agentVersion := some (String.ofList ((E.str version).toList.take 50)) }
  else d

/-- `_handle_agent_info`. -/
def handleAgentInfo (data : Json) : Server Unit := do
  let version ← Act.ofExcept (data.get "version")
  setDevice (withVersion E version)
  let t ← now
  setDevice fun d => { d with lastSeen := some t, status := .online }

/-! ## `handle` -/

/-- The handler of a message type. -/
def handlerFor : ClientMessageType → Json → Server Unit
  | .telemetry => handleTelemetry E
  | .softwareInventory => handleSoftware E
  | .eventReport => handleEvent E
  | .ntpStatus => handleNtp E
  | .networkInfo => handleNetworkInfo E
  | .sshKeys => handleSshKeys E
  | .processList => handleProcessList E
  | .agentInfo => handleAgentInfo E
  | .commandOutput => handleCommandOutput E
  | .commandResult => handleCommandResult E
  | .screenshotResult => handleScreenshotResult E

/-- `MessageHandler.handle(device, message)`. -/
def handle (message : Json) : Server Unit := do
  let msgType ← Act.ofExcept (message.get "type")
  let payload ← Act.ofExcept (message.getD "data" (.obj []))
  match ClientMessageType.ofJson msgType with
  | some ty => handlerFor E ty payload
  -- `pong`, and with a warning in the log every other type
  | none => pure ()

end Server

/-- A message as the agents send it. -/
def clientMessage (type : String) (data : Json) : Json :=
  .obj [("type", .str type), ("data", data)]

end Dtsys
