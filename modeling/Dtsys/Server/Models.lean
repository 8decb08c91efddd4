/-
  THE DATABASE: one row type per table of `app/models/`, the tables together, and what the driver
  accepts.

  Columns the agent fills (telemetry values, package fields, exit codes, …) are written by the
  handlers WITHOUT validation, so such a column holds the `Json` value as it arrived; whether a
  statement carrying it goes through is decided by the driver and PostgreSQL, not by this
  repository.  `Driver` is that decision as a parameter: `encodes ty v` says that a value can be
  stored in a column of the declared type.  The declared types and `nullable` flags are the
  repository's own (`Row.columns`).

  Tables are lists in insertion order.  Columns no modelled function reads are left out.
-/
import Dtsys.Server.Values

namespace Dtsys

/-! ## Enumerations -/

/-- `devices.status`: online|offline|alert. -/
inductive DeviceStatus where
  | online
  | offline
  | alert
  deriving DecidableEq, Repr

/-- `commands.status`: the values the server writes. -/
inductive CommandStatus where
  | pending
  | sent
  | running
  | completed
  | failed
  deriving DecidableEq, Repr

/-- `alerts.alert_type`: the values the server writes or looks for. -/
inductive AlertType where
  | crash
  | timeDrift
  | clockSkew
  | highCpu
  | highRam
  | diskFull
  | highTemp
  | highDisk
  | offline
  deriving DecidableEq, Repr

/-- The string stored in the column. -/
def AlertType.value : AlertType → String
  | .crash => "crash"
  | .timeDrift => "time_drift"
  | .clockSkew => "clock_skew"
  | .highCpu => "high_cpu"
  | .highRam => "high_ram"
  | .diskFull => "disk_full"
  | .highTemp => "high_temp"
  | .highDisk => "high_disk"
  | .offline => "offline"

/-- `alerts.severity`. -/
inductive Severity where
  | info
  | warning
  | critical
  deriving DecidableEq, Repr

/-- The string stored in the column. -/
def Severity.value : Severity → String
  | .info => "info"
  | .warning => "warning"
  | .critical => "critical"

/-- `uptime_events.event_type`. -/
inductive UptimeType where
  | online
  | offline
  deriving DecidableEq, Repr

/-! ## Rows -/

/-- `app/models/device.py`.  Times are microseconds. -/
structure Device where
  id : Uuid
  hostname : String
  osType : String
  ipAddress : Option String
  apiKeyHash : String
  lastSeen : Option Nat
  status : DeviceStatus
  isRevoked : Bool
  label : Option String
  maintenanceMode : Bool
  agentVersion : Option String
  orgId : Option Uuid
  osVersion : Option String := none
  arch : Option String := none
  fingerprint : Option String := none
  maintenanceUntil : Option Nat := none
  maintenanceReason : Option String := none
  deriving DecidableEq, Repr

/-- `app/models/command.py`. -/
structure Command where
  id : Uuid
  deviceId : Uuid
  issuedBy : Option Uuid
  commandType : String
  payload : List (String × Json)
  status : CommandStatus
  createdAt : Nat
  completedAt : Option Nat
  exitCode : Json
  output : Json

/-- `app/models/alert.py`. -/
structure Alert where
  id : Uuid
  deviceId : Uuid
  alertType : AlertType
  severity : Severity
  message : String
  isResolved : Bool
  createdAt : Nat
  resolvedAt : Option Nat
  deriving DecidableEq, Repr

/-- `app/models/metrics.py`. -/
structure DeviceMetric where
  id : Uuid
  time : Nat
  deviceId : Uuid
  cpuPercent : Json
  ramPercent : Json
  diskPercent : Json
  cpuTemp : Json
  uptimeSecs : Json
  ramTotalMb : Json
  ramUsedMb : Json
  diskTotalGb : Json
  diskUsedGb : Json
  diskReadMbps : Json
  diskWriteMbps : Json
  netSentMbps : Json
  netRecvMbps : Json

/-- `app/models/software.py`. -/
structure SoftwareInventory where
  id : Uuid
  deviceId : Uuid
  name : Json
  version : Json
  updateAvailable : Json
  latestVersion : Json

/-- `app/models/network.py`. -/
structure DeviceNetworkInfo where
  id : Uuid
  deviceId : Uuid
  interfaceName : Json
  macAddress : Json
  ipv4 : Json
  ipv6 : Json
  isUp : Json
  mtu : Json

/-- `app/models/ssh_key.py`. -/
structure SSHKey where
  id : Uuid
  deviceId : Uuid
  keyType : Json
  publicKey : Json
  fingerprint : Json
  comment : Json

/-- `app/models/event.py`. -/
structure Event where
  id : Uuid
  time : Nat
  deviceId : Uuid
  eventType : Json
  source : Option String
  message : String
  rawData : Json

/-- `app/models/uptime_event.py`. -/
structure UptimeEvent where
  id : Uuid
  deviceId : Uuid
  eventType : UptimeType
  timestamp : Nat
  durationSecs : Option Nat
  deriving DecidableEq, Repr

/-- `app/models/audit_log.py`. -/
structure AuditLog where
  id : Uuid
  timestamp : Nat
  userId : Uuid
  username : String
  action : String
  resourceType : String
  resourceId : String
  details : Json

/-- `app/models/device_config.py`. -/
structure DeviceConfig where
  deviceId : Uuid
  config : Json

/-- `app/models/notification_rule.py`. -/
structure NotificationRule where
  orgId : Uuid
  alertType : String
  severityMin : String
  channel : String
  webhookUrl : Option String
  emailAddress : Option String
  isEnabled : Bool
  deriving DecidableEq, Repr

/-- `app/models/push_token.py`. -/
structure PushToken where
  userId : Uuid
  token : String
  lastUsed : Option Nat
  deriving DecidableEq, Repr

/-- `app/models/organization.py`, the membership rows. -/
structure OrganizationMember where
  orgId : Uuid
  userId : Uuid
  deriving DecidableEq, Repr

/-- All tables. -/
structure Db where
  devices : List Device
  commands : List Command
  alerts : List Alert
  metrics : List DeviceMetric
  software : List SoftwareInventory
  network : List DeviceNetworkInfo
  sshKeys : List SSHKey
  events : List Event
  uptimeEvents : List UptimeEvent
  auditLog : List AuditLog
  deviceConfigs : List DeviceConfig
  notificationRules : List NotificationRule
  pushTokens : List PushToken
  members : List OrganizationMember

/-- The database before anything was written. -/
def Db.empty : Db :=
  ⟨[], [], [], [], [], [], [], [], [], [], [], [], [], []⟩

/-- A device to run the model with. -/
def Device.sample (id : Uuid) : Device where
  id := id
  hostname := "host"
  osType := "linux"
  ipAddress := none
  apiKeyHash := "key"
  lastSeen := none
  status := .online
  isRevoked := false
  label := none
  maintenanceMode := false
  agentVersion := none
  orgId := none

/-- A command to run the model with. -/
def Command.sample (id deviceId : Uuid) (status : CommandStatus) : Command where
  id := id
  deviceId := deviceId
  issuedBy := none
  commandType := "shell"
  payload := []
  status := status
  createdAt := 0
  completedAt := none
  exitCode := .null
  output := .null

/-! ## New rows -/

/-- A row handed to `db.add`. -/
inductive Row where
  | command (r : Command)
  | alert (r : Alert)
  | metric (r : DeviceMetric)
  | software (r : SoftwareInventory)
  | network (r : DeviceNetworkInfo)
  | sshKey (r : SSHKey)
  | event (r : Event)
  | uptime (r : UptimeEvent)
  | audit (r : AuditLog)

/-- The device a row belongs to (the audit log has none). -/
def Row.deviceId : Row → Option Uuid
  | .command r => some r.deviceId
  | .alert r => some r.deviceId
  | .metric r => some r.deviceId
  | .software r => some r.deviceId
  | .network r => some r.deviceId
  | .sshKey r => some r.deviceId
  | .event r => some r.deviceId
  | .uptime r => some r.deviceId
  | .audit _ => none

/-- INSERT. -/
def Db.insert (db : Db) : Row → Db
  | .command r => { db with commands := db.commands ++ [r] }
  | .alert r => { db with alerts := db.alerts ++ [r] }
  | .metric r => { db with metrics := db.metrics ++ [r] }
  | .software r => { db with software := db.software ++ [r] }
  | .network r => { db with network := db.network ++ [r] }
  | .sshKey r => { db with sshKeys := db.sshKeys ++ [r] }
  | .event r => { db with events := db.events ++ [r] }
  | .uptime r => { db with uptimeEvents := db.uptimeEvents ++ [r] }
  | .audit r => { db with auditLog := db.auditLog ++ [r] }

/-- One INSERT after the other. -/
def Db.insertAll (db : Db) (rows : List Row) : Db := rows.foldl Db.insert db

/-! ## The driver -/

/-- The column types the models declare. -/
inductive ColumnType where
  | float
  | bigInteger
  | integer
  | string (length : Nat)
  | text
  | boolean
  | jsonb
  | stringArray
  deriving DecidableEq, Repr

/-- asyncpg and PostgreSQL: which values a column of a type can hold.  The one documented fact the
    server's code leans on is that a `Float` column holds numbers in the range of a double. -/
structure Driver where
  encodes : ColumnType → Json → Bool
  float_number : ∀ v, encodes .float v = true → ∃ x, v.toFloat = .ok x

/-- A declared column: its type, and whether NULL may be stored (`nullable`, or a default that
    SQLAlchemy substitutes for `None`). -/
structure Column where
  type : ColumnType
  nullable : Bool

/-- The driver takes `v` for the column. -/
def Driver.accepts (D : Driver) (c : Column) (v : Json) : Bool :=
  if v.isNone then c.nullable else D.encodes c.type v

/-- A nullable column of the given type. -/
def nullable (ty : ColumnType) : Column := ⟨ty, true⟩

/-- A column declared `nullable=False` without a default. -/
def required (ty : ColumnType) : Column := ⟨ty, false⟩

/-- The columns of a new row whose value comes unchecked from outside the server, as
    `app/models/` declares them.  Every other column is filled by the server within its bounds. -/
def Row.columns : Row → List (Column × Json)
  | .command r => [(nullable .jsonb, .obj r.payload)]
  | .alert _ => []
  | .metric r =>
    [(nullable .float, r.cpuPercent), (nullable .float, r.ramPercent),
     (nullable .float, r.diskPercent), (nullable .float, r.cpuTemp),
     (nullable .bigInteger, r.uptimeSecs), (nullable .float, r.ramTotalMb),
     (nullable .float, r.ramUsedMb), (nullable .float, r.diskTotalGb),
     (nullable .float, r.diskUsedGb), (nullable .float, r.diskReadMbps),
     (nullable .float, r.diskWriteMbps), (nullable .float, r.netSentMbps),
     (nullable .float, r.netRecvMbps)]
  | .software r =>
    [(required (.string 500), r.name), (nullable (.string 100), r.version),
     (nullable .boolean, r.updateAvailable), (nullable (.string 100), r.latestVersion)]
  | .network r =>
    [(required (.string 255), r.interfaceName), (nullable (.string 64), r.macAddress),
     (nullable .stringArray, r.ipv4), (nullable .stringArray, r.ipv6),
     (nullable .boolean, r.isUp), (nullable .integer, r.mtu)]
  | .sshKey r =>
    [(required (.string 50), r.keyType), (required .text, r.publicKey),
     (required (.string 255), r.fingerprint), (nullable (.string 255), r.comment)]
  | .event r =>
    [(required (.string 50), r.eventType),
     (nullable (.string 255), (r.source.map Json.str).getD .null),
     (required .text, .str r.message), (nullable .jsonb, r.rawData)]
  | .uptime _ => []
  | .audit _ => []

/-- The INSERT of a row goes through. -/
def Driver.acceptsRow (D : Driver) (r : Row) : Bool :=
  r.columns.all fun cv => D.accepts cv.1 cv.2

/-- A driver to run the model with: values of the column's own Python type, within its range.
    PostgreSQL texts hold no NUL character. -/
def Driver.typed : Driver where
  encodes ty v := match ty, v with
    | .float, v => match v.toFloat with
      | .ok _ => true
      | .error _ => false
    | .bigInteger, .int n => decide (-2 ^ 63 ≤ n ∧ n < 2 ^ 63)
    | .integer, .int n => decide (-2 ^ 31 ≤ n ∧ n < 2 ^ 31)
    | .string length, .str s => decide (s.length ≤ length) && !s.toList.contains '\x00'
    | .text, .str s => !s.toList.contains '\x00'
    | .boolean, .bool _ => true
    | .jsonb, _ => true
    | .stringArray, .arr xs => xs.all fun x => match x with
      | .str s => !s.toList.contains '\x00'
      | _ => false
    | _, _ => false
  float_number v h := by
    cases hv : v.toFloat with
    | ok x => exact ⟨x, rfl⟩
    | error e => simp [hv] at h

end Dtsys
