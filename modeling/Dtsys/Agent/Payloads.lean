/-
  The PAYLOADS an agent sends (`transport/messages.go`), and what the struct tags make of them.

  `encoding/json` writes a struct field under its tag; with `omitempty` it leaves out a field that is
  `false`, zero, the empty string or an empty map.  A nil slice is written as `null`, so slices are
  options here.  A `float64` that is integral and below `10 ^ 21` is written without a point or an
  exponent and is read back as an integer; NaN and the infinities make `Encode` fail.

  `encode` is the value `json.loads` returns for the text; the text itself is only needed where its
  length is.
-/
import Dtsys.Agent.Strings

namespace Dtsys

namespace Agent

/-! ## Fields -/

/-- A `float64`. -/
inductive GoFloat
  | finite (x : Rat)
  | nonFinite
  deriving DecidableEq

/-- The float can be encoded. -/
def GoFloat.isFinite : GoFloat → Bool
  | .finite _ => true
  | .nonFinite => false

/-- The empty value of `omitempty`. -/
def GoFloat.isZero (x : GoFloat) : Bool := decide (x = .finite 0)

/-- The number as it is read back; `none`: `UnsupportedValueError`. -/
def GoFloat.encode : GoFloat → Option Json
  | .finite x => some (if x.den = 1 ∧ |x| < 10 ^ 21 then .int x.num else .float x)
  | .nonFinite => none

/-- A Go string as JSON: invalid bytes become U+FFFD. -/
def GoString.encode (s : GoString) : Json := .str s.text

/-- A slice: nil is `null`. -/
def encodeSlice {α : Type} (f : α → Json) : Option (List α) → Json
  | none => .null
  | some xs => .arr (xs.map f)

/-- A field without `omitempty`. -/
def field (name : String) (v : Json) : List (String × Json) := [(name, v)]

/-- A field with `omitempty`. -/
def omitEmpty (name : String) (empty : Bool) (v : Json) : List (String × Json) :=
  if empty then [] else [(name, v)]

/-! ## The structs -/

/-- `TelemetryData`. -/
structure TelemetryData where
  cpuPercent : GoFloat
  ramPercent : GoFloat
  diskPercent : GoFloat
  cpuTemp : GoFloat
  uptimeSecs : Int
  ramTotalMb : GoFloat
  ramUsedMb : GoFloat
  diskTotalGb : GoFloat
  diskUsedGb : GoFloat
  diskReadMbps : GoFloat
  diskWriteMbps : GoFloat
  netSentMbps : GoFloat
  netRecvMbps : GoFloat

/-- `TelemetryData` as JSON. -/
def TelemetryData.encode (d : TelemetryData) : Option Json := do
  let cpuPercent ← d.cpuPercent.encode
  let ramPercent ← d.ramPercent.encode
  let diskPercent ← d.diskPercent.encode
  let cpuTemp ← d.cpuTemp.encode
  let ramTotalMb ← d.ramTotalMb.encode
  let ramUsedMb ← d.ramUsedMb.encode
  let diskTotalGb ← d.diskTotalGb.encode
  let diskUsedGb ← d.diskUsedGb.encode
  let diskReadMbps ← d.diskReadMbps.encode
  let diskWriteMbps ← d.diskWriteMbps.encode
  let netSentMbps ← d.netSentMbps.encode
  let netRecvMbps ← d.netRecvMbps.encode
  pure (.obj (field "cpu_percent" cpuPercent ++ field "ram_percent" ramPercent ++
    field "disk_percent" diskPercent ++ omitEmpty "cpu_temp" d.cpuTemp.isZero cpuTemp ++
    field "uptime_secs" (.int d.uptimeSecs) ++ field "ram_total_mb" ramTotalMb ++
    field "ram_used_mb" ramUsedMb ++ field "disk_total_gb" diskTotalGb ++
    field "disk_used_gb" diskUsedGb ++
    omitEmpty "disk_read_mbps" d.diskReadMbps.isZero diskReadMbps ++
    omitEmpty "disk_write_mbps" d.diskWriteMbps.isZero diskWriteMbps ++
    omitEmpty "net_sent_mbps" d.netSentMbps.isZero netSentMbps ++
    omitEmpty "net_recv_mbps" d.netRecvMbps.isZero netRecvMbps))

/-- `SoftwarePackage`. -/
structure SoftwarePackage where
  name : GoString
  version : GoString
  updateAvailable : Bool
  latestVersion : GoString

/-- `json.Marshal` of a `SoftwarePackage`. -/
def SoftwarePackage.encode (p : SoftwarePackage) : Json :=
  .obj (field "name" p.name.encode ++ omitEmpty "version" p.version.isEmpty p.version.encode ++
    field "update_available" (.bool p.updateAvailable) ++
    omitEmpty "latest_version" p.latestVersion.isEmpty p.latestVersion.encode)

/-- `SoftwareInventoryData`. -/
structure SoftwareInventoryData where
  packages : Option (List SoftwarePackage)

/-- `json.Marshal` of a `SoftwareInventoryData`. -/
def SoftwareInventoryData.encode (d : SoftwareInventoryData) : Json :=
  .obj (field "packages" (encodeSlice SoftwarePackage.encode d.packages))

/-- `EventData`; the values of `RawData` are given by what is read back. -/
structure EventData where
  eventType : GoString
  source : GoString
  message : GoString
  rawData : List (String × Json)

/-- `json.Marshal` of an `EventData`. -/
def EventData.encode (d : EventData) : Json :=
  .obj (field "event_type" d.eventType.encode ++
    omitEmpty "source" d.source.isEmpty d.source.encode ++ field "message" d.message.encode ++
    omitEmpty "raw_data" d.rawData.isEmpty (.obj d.rawData))

/-- `NTPStatusData`. -/
structure NTPStatusData where
  isSynced : Bool
  offsetMs : GoFloat
  ntpServer : GoString
  systemTime : GoString
  estimatedOffsetMs : GoFloat
  clockUsable : Bool

/-- `json.Marshal` of an `NTPStatusData`; `none` where a float is not finite. -/
def NTPStatusData.encode (d : NTPStatusData) : Option Json := do
  let offsetMs ← d.offsetMs.encode
  let estimatedOffsetMs ← d.estimatedOffsetMs.encode
  pure (.obj (field "is_synced" (.bool d.isSynced) ++ field "offset_ms" offsetMs ++
    omitEmpty "ntp_server" d.ntpServer.isEmpty d.ntpServer.encode ++
    omitEmpty "system_time" d.systemTime.isEmpty d.systemTime.encode ++
    omitEmpty "estimated_offset_ms" d.estimatedOffsetMs.isZero estimatedOffsetMs ++
    omitEmpty "clock_usable" (!d.clockUsable) (.bool d.clockUsable)))

/-- `NetworkInterface`. -/
structure NetworkInterface where
  name : GoString
  macAddress : GoString
  ipv4 : Option (List GoString)
  ipv6 : Option (List GoString)
  isUp : Bool
  mtu : Int

/-- `json.Marshal` of a `NetworkInterface`. -/
def NetworkInterface.encode (i : NetworkInterface) : Json :=
  .obj (field "name" i.name.encode ++ field "mac_address" i.macAddress.encode ++
    field "ipv4" (encodeSlice GoString.encode i.ipv4) ++
    field "ipv6" (encodeSlice GoString.encode i.ipv6) ++
    field "is_up" (.bool i.isUp) ++ field "mtu" (.int i.mtu))

/-- `NetworkInfoData`. -/
structure NetworkInfoData where
  interfaces : Option (List NetworkInterface)

/-- `json.Marshal` of a `NetworkInfoData`. -/
def NetworkInfoData.encode (d : NetworkInfoData) : Json :=
  .obj (field "interfaces" (encodeSlice NetworkInterface.encode d.interfaces))

/-- `SSHKeyInfo`. -/
structure SSHKeyInfo where
  type : GoString
  publicKey : GoString
  comment : GoString
  fingerprint : GoString

/-- `json.Marshal` of an `SSHKeyInfo`. -/
def SSHKeyInfo.encode (k : SSHKeyInfo) : Json :=
  .obj (field "type" k.type.encode ++ field "public_key" k.publicKey.encode ++
    omitEmpty "comment" k.comment.isEmpty k.comment.encode ++
    field "fingerprint" k.fingerprint.encode)

/-- `SSHKeysData`. -/
structure SSHKeysData where
  keys : Option (List SSHKeyInfo)

/-- `json.Marshal` of an `SSHKeysData`. -/
def SSHKeysData.encode (d : SSHKeysData) : Json :=
  .obj (field "keys" (encodeSlice SSHKeyInfo.encode d.keys))

/-- `AgentInfoData`. -/
structure AgentInfoData where
  version : GoString
  buildDate : GoString

/-- `json.Marshal` of an `AgentInfoData`. -/
def AgentInfoData.encode (d : AgentInfoData) : Json :=
  .obj (field "version" d.version.encode ++
    omitEmpty "build_date" d.buildDate.isEmpty d.buildDate.encode)

/-- `CommandResultData`. -/
structure CommandResultData where
  commandId : GoString
  exitCode : Int
  output : GoString

/-- `json.Marshal` of a `CommandResultData`. -/
def CommandResultData.encode (d : CommandResultData) : Json :=
  .obj (field "command_id" d.commandId.encode ++ field "exit_code" (.int d.exitCode) ++
    field "output" d.output.encode)

end Agent

end Dtsys
