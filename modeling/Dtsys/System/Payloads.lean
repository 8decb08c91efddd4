/-
  THE PAYLOADS, READ: what the struct tags of `transport/messages.go` write and what the handlers of
  `app/websocket/handler.py` make of it.

  The two sides have different rules for what is not there.  The agent leaves out a field with
  `omitempty` that is `false`, zero or empty, and writes a nil slice as `null`; the server has a
  default for a key that is ABSENT, which is not always the zero value, and takes a `null` as it is.

  * `Reads` — what a handler makes of each field it reads is what the AGENT SET in it: a number, a
    text, a flag, a list, a map.  Only a number, a text or a map that was left out may be read as
    absent.  A text that a handler cuts, or raw data that it replaces, is not what the agent set.
  * one `…_read_iff` for each struct — exactly which values of it are read as they were set;
  * `FromDatabase` — the exceptions that are not of the handlers' own making, and one `…_raises` for
    each struct: in WHATEVER state, no other exception is raised.

  Whether the database takes what was read is in `Dtsys.System.Agreement`.

  How the proofs go.

  1. Looking up a field in what the tags write is a case distinction for each field in front of it
     (`lookup_field`, `lookup_omitEmpty`); with them `simp` computes what a handler gets for a key.
  2. A number is written exactly when it is finite, and read as it was; a text is read as it was exactly
     when it is valid UTF-8, since `encoding/json` replaces other bytes.
  3. The rows of the lists, then the payloads themselves, are conjunctions of these.
  4. The `…_raises` lemmas walk through the handlers: a `.get` of an object succeeds, arithmetic is on
     numbers below the limit of a float, and what is left comes from the database.

  Nothing here depends on the state of the session, except for which exceptions the database raises.
-/
import Dtsys.Server.Reports
import Dtsys.System.Addresses

namespace Dtsys

namespace Agent

/-! ## Looking up a field -/

theorem lookup_field (name k : String) (v : Json) (rest : List (String × Json)) :
    (field name v ++ rest).lookup k = if k == name then some v else rest.lookup k := by
  show (match k == name with | true => _ | false => _) = _
  cases k == name <;> rfl

theorem lookup_omitEmpty (name k : String) (empty : Bool) (v : Json)
    (rest : List (String × Json)) :
    (omitEmpty name empty v ++ rest).lookup k =
      if k == name && !empty then some v else rest.lookup k := by
  cases empty with
  | true =>
    rw [Bool.not_true, Bool.and_false]
    rfl
  | false =>
    rw [Bool.not_false, Bool.and_true]
    exact lookup_field name k v rest

theorem lookup_field_nil (name k : String) (v : Json) :
    (field name v).lookup k = if k == name then some v else none := by
  have h := lookup_field name k v []
  rwa [List.append_nil] at h

theorem lookup_omitEmpty_nil (name k : String) (empty : Bool) (v : Json) :
    (omitEmpty name empty v).lookup k = if k == name && !empty then some v else none := by
  have h := lookup_omitEmpty name k empty v []
  rwa [List.append_nil] at h

/-! ## The eight payloads -/

/-- A payload struct the agent sends. -/
inductive Payload
  | telemetry (d : TelemetryData)
  | software (d : SoftwareInventoryData)
  | event (d : EventData)
  | ntp (d : NTPStatusData)
  | network (d : NetworkInfoData)
  | sshKeys (d : SSHKeysData)
  | agentInfo (d : AgentInfoData)
  | commandResult (d : CommandResultData)

/-- The payload as JSON; `none`: `json.Encode` returns an error. -/
def Payload.encode : Payload → Option Json
  | .telemetry d => d.encode
  | .software d => some d.encode
  | .event d => some d.encode
  | .ntp d => d.encode
  | .network d => some d.encode
  | .sshKeys d => some d.encode
  | .agentInfo d => some d.encode
  | .commandResult d => some d.encode

/-- The type of the message it is sent in. -/
def Payload.type : Payload → ClientMessageType
  | .telemetry _ => .telemetry
  | .software _ => .softwareInventory
  | .event _ => .eventReport
  | .ntp _ => .ntpStatus
  | .network _ => .networkInfo
  | .sshKeys _ => .sshKeys
  | .agentInfo _ => .agentInfo
  | .commandResult _ => .commandResult

/-- The offset the server goes by: an estimate of zero is left out and read as absent. -/
def NTPStatusData.usedOffset (d : NTPStatusData) : GoFloat :=
  if d.estimatedOffsetMs.isZero then d.offsetMs else d.estimatedOffsetMs

end Agent

namespace Server

open Agent (GoFloat GoString)

variable (E : Env)

/-! ## What is read -/

/-- The number `x` is read as `v`. -/
def NumberIs (x : GoFloat) (v : Json) : Prop := ∃ q, x = .finite q ∧ v.number = some q

/-- The same for a number that is left out when it is zero. -/
def NumberOrNone (x : GoFloat) (v : Json) : Prop := NumberIs x v ∨ (x.isZero = true ∧ v = .null)

/-- The text `s` is read as `v`. -/
def TextIs (s : GoString) (v : Json) : Prop := ∃ t, v = .str t ∧ s.Denotes t

/-- The same for a text that is left out when it is empty. -/
def TextOrNone (s : GoString) (v : Json) : Prop := TextIs s v ∨ (s = [] ∧ v = .null)

/-- A list of texts is read as `v`. -/
def TextsAre (ss : List GoString) (v : Json) : Prop :=
  ∃ vs, v = .arr vs ∧ List.Forall₂ TextIs ss vs

/-- The metric that is stored. -/
structure TelemetryRead (d : Agent.TelemetryData) (m : DeviceMetric) : Prop where
  cpuPercent : NumberIs d.cpuPercent m.cpuPercent
  ramPercent : NumberIs d.ramPercent m.ramPercent
  diskPercent : NumberIs d.diskPercent m.diskPercent
  cpuTemp : NumberOrNone d.cpuTemp m.cpuTemp
  uptimeSecs : m.uptimeSecs = .int d.uptimeSecs
  ramTotalMb : NumberIs d.ramTotalMb m.ramTotalMb
  ramUsedMb : NumberIs d.ramUsedMb m.ramUsedMb
  diskTotalGb : NumberIs d.diskTotalGb m.diskTotalGb
  diskUsedGb : NumberIs d.diskUsedGb m.diskUsedGb
  diskReadMbps : NumberOrNone d.diskReadMbps m.diskReadMbps
  diskWriteMbps : NumberOrNone d.diskWriteMbps m.diskWriteMbps
  netSentMbps : NumberOrNone d.netSentMbps m.netSentMbps
  netRecvMbps : NumberOrNone d.netRecvMbps m.netRecvMbps

/-- The row of a package. -/
structure PackageRead (p : Agent.SoftwarePackage) (r : SoftwareInventory) : Prop where
  name : TextIs p.name r.name
  version : TextOrNone p.version r.version
  updateAvailable : r.updateAvailable = .bool p.updateAvailable
  latestVersion : TextOrNone p.latestVersion r.latestVersion

/-- The event that is stored.  Its source is a text or nothing, and raw data that was left out is
    nothing, too. -/
structure EventRead (d : Agent.EventData) (ev : Event) : Prop where
  eventType : TextIs d.eventType ev.eventType
  source : TextOrNone d.source ((ev.source.map Json.str).getD .null)
  message : d.message.Denotes ev.message
  rawData : ev.rawData = if d.rawData.isEmpty then .null else .obj d.rawData

/-- The offset and the flag. -/
structure NtpRead (d : Agent.NTPStatusData) (offset usable : Json) : Prop where
  offset : ∃ q, d.usedOffset = .finite q ∧ offset.number = some |q|
  clockUsable : usable = .bool d.clockUsable

/-- The row of an interface. -/
structure InterfaceRead (i : Agent.NetworkInterface) (r : DeviceNetworkInfo) : Prop where
  interfaceName : TextIs i.name r.interfaceName
  macAddress : TextIs i.macAddress r.macAddress
  ipv4 : TextsAre (i.ipv4.getD []) r.ipv4
  ipv6 : TextsAre (i.ipv6.getD []) r.ipv6
  isUp : r.isUp = .bool i.isUp
  mtu : r.mtu = .int i.mtu

/-- The row of a key. -/
structure KeyRead (k : Agent.SSHKeyInfo) (r : SSHKey) : Prop where
  keyType : TextIs k.type r.keyType
  publicKey : TextIs k.publicKey r.publicKey
  comment : TextOrNone k.comment r.comment
  fingerprint : TextIs k.fingerprint r.fingerprint

/-- The two values that are stored for a command. -/
structure ResultRead (d : Agent.CommandResultData) (exitCode output : Json) : Prop where
  exitCode : exitCode = .int d.exitCode
  output : TextIs d.output output

/-- The version on the device; an empty one is passed over. -/
structure VersionRead (d : Agent.AgentInfoData) (v : Json) : Prop where
  version : TextIs d.version v
  stored : d.version ≠ [] → ∀ device, ∃ t, (withVersion E v device).agentVersion = some t ∧
    d.version.Denotes t

/-- `v` can be iterated, and its items give the rows of `xs`. -/
def ListRead {α : Type} (row : Uuid → Json → Except PyErr Row) (Is : α → Row → Prop)
    (xs : List α) (v : Json) : Prop :=
  ∃ items, v.iter = .ok items ∧
    List.Forall₂ (fun x item => ∀ id, ∃ r, row id item = .ok r ∧ Is x r) xs items

/-- A handler gets from `data` what the agent set in the payload; a nil slice is the empty list. -/
def Reads : Agent.Payload → Json → Prop
  | .telemetry d, data => ∀ id t dev, ∃ m, metricOf id t dev data = .ok m ∧ TelemetryRead d m
  | .software d, data => ∃ v, data.getD "packages" (.arr []) = .ok v ∧ ∀ dev,
      ListRead (softwareRow dev) (fun p r => ∃ s, r = .software s ∧ PackageRead p s)
        (d.packages.getD []) v
  | .event d, data => ∀ id t dev, ∃ ev, eventOf E id t dev data = .ok ev ∧ EventRead d ev
  | .ntp d, data => ∃ offset usable, ntpOffset data = .ok offset ∧
      data.getD "clock_usable" (.bool true) = .ok usable ∧ NtpRead d offset usable
  | .network d, data => ∃ v, data.getD "interfaces" (.arr []) = .ok v ∧ ∀ dev,
      ListRead (networkRow dev) (fun i r => ∃ n, r = .network n ∧ InterfaceRead i n)
        (d.interfaces.getD []) v
  | .sshKeys d, data => ∃ v, data.getD "keys" (.arr []) = .ok v ∧ ∀ dev,
      ListRead (sshKeyRow dev) (fun k r => ∃ s, r = .sshKey s ∧ KeyRead k s) (d.keys.getD []) v
  | .agentInfo d, data => ∃ v, data.get "version" = .ok v ∧ VersionRead E d v
  -- without an id of a command, the other two fields are not looked at
  | .commandResult d, data => ∃ commandId, data.get "command_id" = .ok commandId ∧
      TextIs d.commandId commandId ∧
      (d.commandId ≠ [] → ∃ id exitCode output, commandId.toUuid = .ok id ∧
        data.getD "exit_code" (.int 1) = .ok exitCode ∧
        data.getD "output" (.str "") = .ok output ∧ ResultRead d exitCode output)

/-- The database refused a statement, or holds more rows than one. -/
def FromDatabase (e : PyErr) : Prop := e = .db ∨ e = .multipleResultsFound

/-! ## Numbers and texts -/

/-- A finite number is written as itself. -/
theorem encode_number {x : GoFloat} {v : Json} (h : x.encode = some v) : NumberIs x v := by
  cases x with
  | nonFinite => cases h
  | finite q =>
    refine ⟨q, rfl, ?_⟩
    rw [← Option.some.inj h]
    split
    · rename_i hint
      refine congrArg some ?_
      show (q.num : Rat) = q
      exact Rat.coe_int_num_of_den_eq_one hint.1
    · rfl

/-- Only finite numbers are written. -/
theorem encode_isSome_iff {x : GoFloat} : (∃ v, x.encode = some v) ↔ x.isFinite = true := by
  cases x with
  | finite q => exact ⟨fun _ => rfl, fun _ => ⟨_, rfl⟩⟩
  | nonFinite => exact ⟨fun ⟨v, h⟩ => (by cases h), fun h => (by cases h)⟩

theorem pow_lt_floatLimit : (10 : Rat) ^ 21 < Json.floatLimit := by
  have hnat : 10 ^ 21 + 2 ^ 970 < 2 ^ 1024 := by decide +kernel
  have hrat : (10 : Rat) ^ 21 + 2 ^ 970 < 2 ^ 1024 := by exact_mod_cast hnat
  exact lt_sub_iff_add_lt.mpr hrat

/-- An integer that is written without an exponent fits into a double. -/
theorem toFloat_encode {x : GoFloat} {v : Json} (h : x.encode = some v) :
    ∃ q, v.toFloat = .ok q := by
  cases x with
  | nonFinite => cases h
  | finite q =>
    rw [← Option.some.inj h]
    split
    · rename_i hint
      refine ⟨(q.num : Rat), ?_⟩
      show (if Json.floatLimit ≤ |(q.num : Rat)| then _ else _) = _
      rw [Rat.coe_int_num_of_den_eq_one hint.1]
      exact if_neg (not_le.mpr (hint.2.trans pow_lt_floatLimit))
    · exact ⟨q, rfl⟩

theorem stored_encode {x : GoFloat} {v : Json} (h : x.encode = some v) : Stored v :=
  Or.inr (toFloat_encode h)

/-- A text is read back when it is valid UTF-8. -/
theorem textIs_encode {s : GoString} : TextIs s s.encode ↔ s.valid = true := by
  rw [← GoString.denotes_text]
  constructor
  · rintro ⟨t, ht, hs⟩
    obtain rfl : s.text = t := Json.str.inj ht
    exact hs
  · exact fun h => ⟨s.text, rfl, h⟩

/-- The value of a text that is left out when it is empty. -/
def optionalText (s : GoString) : Json := if s.isEmpty then .null else s.encode

/-- An empty text becomes None, and is read so. -/
theorem textOrNone_optional {s : GoString} : TextOrNone s (optionalText s) ↔ s.valid = true := by
  rw [TextOrNone, optionalText]
  cases s with
  | nil => exact iff_of_true (Or.inr ⟨rfl, rfl⟩) rfl
  | cons r rs =>
    show TextIs _ (GoString.encode _) ∨ _ ↔ _
    rw [textIs_encode]
    exact ⟨fun h => h.elim id fun hempty => (by cases hempty.1), Or.inl⟩

/-- The value of a number that is left out when it is zero. -/
def optionalNumber (x : GoFloat) (v : Json) : Json := if x.isZero then .null else v

theorem numberOrNone_optional {x : GoFloat} {v : Json} (h : x.encode = some v) :
    NumberOrNone x (optionalNumber x v) := by
  rw [NumberOrNone, optionalNumber]
  cases hzero : x.isZero with
  | true => exact Or.inr ⟨rfl, rfl⟩
  | false => exact Or.inl (encode_number h)

theorem stored_optional {x : GoFloat} {v : Json} (h : x.encode = some v) :
    Stored (optionalNumber x v) := by
  rw [optionalNumber]
  split
  · exact Or.inl rfl
  · exact stored_encode h

theorem getD_omitted {c : Prop} [Decidable c] (v w : Json) :
    (if c then none else some v).getD w = if c then w else v := by
  split <;> rfl

theorem getD_kept (b : Bool) (v w : Json) :
    (if b = false then some v else none).getD w = if b then w else v := by
  cases b <;> rfl

/-! ## The rows of the lists -/

/-- A package is read field by field. -/
theorem softwareRow_encode (dev id : Uuid) (p : Agent.SoftwarePackage) :
    softwareRow dev id p.encode = .ok (.software
      ⟨id, dev, p.name.encode, optionalText p.version, .bool p.updateAvailable,
        optionalText p.latestVersion⟩) := by
  unfold softwareRow Agent.SoftwarePackage.encode optionalText
  simp [Json.getD, Json.get, Agent.lookup_field, Agent.lookup_omitEmpty,
    Agent.lookup_omitEmpty_nil, Bind.bind, Except.bind, Pure.pure, Except.pure, Json.isNone,
    getD_omitted]

theorem sshKeyRow_encode (dev id : Uuid) (k : Agent.SSHKeyInfo) :
    sshKeyRow dev id k.encode = .ok (.sshKey
      ⟨id, dev, k.type.encode, k.publicKey.encode, k.fingerprint.encode,
        optionalText k.comment⟩) := by
  rw [sshKeyRow, Agent.SSHKeyInfo.encode, optionalText]
  simp [Json.getD, Json.get, Agent.lookup_field, Agent.lookup_field_nil, Agent.lookup_omitEmpty,
    Bind.bind, Except.bind, Pure.pure, Except.pure, getD_omitted]

/-- A list of addresses as it is stored. -/
def storedTexts (texts : Option (List GoString)) : Json :=
  .arr ((texts.getD []).map GoString.encode)

theorem orEmpty_encodeSlice (texts : Option (List GoString)) :
    (if (Agent.encodeSlice GoString.encode texts).truthy then
      Agent.encodeSlice GoString.encode texts else .arr []) = storedTexts texts := by
  cases texts with
  | none => rfl
  | some ts =>
    cases ts with
    | nil => rfl
    | cons t ts => rfl

theorem networkRow_encode (dev id : Uuid) (i : Agent.NetworkInterface) :
    networkRow dev id i.encode = .ok (.network
      ⟨id, dev, i.name.encode, i.macAddress.encode, storedTexts i.ipv4, storedTexts i.ipv6,
        .bool i.isUp, .int i.mtu⟩) := by
  unfold networkRow addressList Agent.NetworkInterface.encode
  simp [Json.getD, Json.get, Agent.lookup_field, Agent.lookup_field_nil, Bind.bind, Except.bind,
    Pure.pure, Except.pure, Json.isNone, orEmpty_encodeSlice]

theorem textsAre_stored {texts : Option (List GoString)} :
    TextsAre (texts.getD []) (storedTexts texts) ↔ ∀ s ∈ texts.getD [], GoString.valid s := by
  have hsame : List.Forall₂ TextIs (texts.getD []) ((texts.getD []).map GoString.encode) ↔
      ∀ s ∈ texts.getD [], GoString.valid s := by
    rw [List.forall₂_map_right_iff, List.forall₂_same]
    exact forall₂_congr fun s _ => textIs_encode
  rw [← hsame]
  constructor
  · rintro ⟨vs, hvs, hall⟩
    rwa [Json.arr.inj hvs]
  · exact fun h => ⟨_, rfl, h⟩

/-- A package is stored as it was sent exactly when its texts are valid. -/
theorem package_read_iff {dev id : Uuid} {p : Agent.SoftwarePackage} :
    (∃ r, softwareRow dev id p.encode = .ok r ∧ ∃ s, r = .software s ∧ PackageRead p s) ↔
      p.name.valid ∧ p.version.valid ∧ p.latestVersion.valid := by
  rw [softwareRow_encode]
  constructor
  · rintro ⟨r, hr, s, rfl, hread⟩
    obtain rfl := Row.software.inj (Except.ok.inj hr)
    exact ⟨textIs_encode.mp hread.name, textOrNone_optional.mp hread.version,
      textOrNone_optional.mp hread.latestVersion⟩
  · rintro ⟨hname, hversion, hlatest⟩
    exact ⟨_, rfl, _, rfl, textIs_encode.mpr hname, textOrNone_optional.mpr hversion, rfl,
      textOrNone_optional.mpr hlatest⟩

theorem interface_read_iff {dev id : Uuid} {i : Agent.NetworkInterface} :
    (∃ r, networkRow dev id i.encode = .ok r ∧ ∃ n, r = .network n ∧ InterfaceRead i n) ↔
      i.name.valid ∧ i.macAddress.valid ∧ (∀ s ∈ i.ipv4.getD [], GoString.valid s) ∧
        ∀ s ∈ i.ipv6.getD [], GoString.valid s := by
  rw [networkRow_encode]
  constructor
  · rintro ⟨r, hr, n, rfl, hread⟩
    obtain rfl := Row.network.inj (Except.ok.inj hr)
    exact ⟨textIs_encode.mp hread.interfaceName, textIs_encode.mp hread.macAddress,
      textsAre_stored.mp hread.ipv4, textsAre_stored.mp hread.ipv6⟩
  · rintro ⟨hname, hmac, hipv4, hipv6⟩
    exact ⟨_, rfl, _, rfl, textIs_encode.mpr hname, textIs_encode.mpr hmac,
      textsAre_stored.mpr hipv4, textsAre_stored.mpr hipv6, rfl, rfl⟩

theorem key_read_iff {dev id : Uuid} {k : Agent.SSHKeyInfo} :
    (∃ r, sshKeyRow dev id k.encode = .ok r ∧ ∃ s, r = .sshKey s ∧ KeyRead k s) ↔
      k.type.valid ∧ k.publicKey.valid ∧ k.comment.valid ∧ k.fingerprint.valid := by
  rw [sshKeyRow_encode]
  constructor
  · rintro ⟨r, hr, s, rfl, hread⟩
    obtain rfl := Row.sshKey.inj (Except.ok.inj hr)
    exact ⟨textIs_encode.mp hread.keyType, textIs_encode.mp hread.publicKey,
      textOrNone_optional.mp hread.comment, textIs_encode.mp hread.fingerprint⟩
  · rintro ⟨htype, hkey, hcomment, hfinger⟩
    exact ⟨_, rfl, _, rfl, textIs_encode.mpr htype, textIs_encode.mpr hkey,
      textOrNone_optional.mpr hcomment, textIs_encode.mpr hfinger⟩

/-- A slice is read item by item, if it is not nil: `null` cannot be iterated. -/
theorem listRead_iff {α : Type} {row : Uuid → Json → Except PyErr Row} {Is : α → Row → Prop}
    {f : α → Json} {ok : α → Prop}
    (hitem : ∀ x id, (∃ r, row id (f x) = .ok r ∧ Is x r) ↔ ok x) (xs : Option (List α)) :
    ListRead row Is (xs.getD []) (Agent.encodeSlice f xs) ↔
      ∃ ys, xs = some ys ∧ ∀ y ∈ ys, ok y := by
  cases xs with
  | none =>
    constructor
    · rintro ⟨items, hiter, -⟩
      cases hiter
    · rintro ⟨ys, hys, -⟩
      cases hys
  | some ys =>
    have hall : List.Forall₂ (fun x item => ∀ id, ∃ r, row id item = .ok r ∧ Is x r) ys
        (ys.map f) ↔ ∀ y ∈ ys, ok y := by
      rw [List.forall₂_map_right_iff, List.forall₂_same]
      exact forall₂_congr fun y _ => ⟨fun h => (hitem y 0).mp (h 0), fun h id =>
        (hitem y id).mpr h⟩
    constructor
    · rintro ⟨items, hiter, hread⟩
      obtain rfl : ys.map f = items := Except.ok.inj hiter
      exact ⟨ys, rfl, hall.mp hread⟩
    · rintro ⟨zs, hzs, hok⟩
      obtain rfl := Option.some.inj hzs
      exact ⟨_, rfl, hall.mpr hok⟩

theorem getD_single (key : String) (v default : Json) :
    (Json.obj (Agent.field key v)).getD key default = .ok v := by
  show Except.ok (((Agent.field key v).lookup key).getD default) = _
  rw [Agent.lookup_field_nil, beq_self_eq_true]
  rfl

/-- The list under the only key of a payload. -/
theorem listPayload_iff {α : Type} {row : Uuid → Uuid → Json → Except PyErr Row}
    {Is : α → Row → Prop} {f : α → Json} {ok : α → Prop} {key : String}
    (hitem : ∀ dev x id, (∃ r, row dev id (f x) = .ok r ∧ Is x r) ↔ ok x)
    (xs : Option (List α)) :
    (∃ v, (Json.obj (Agent.field key (Agent.encodeSlice f xs))).getD key (.arr []) = .ok v ∧
      ∀ dev, ListRead (row dev) Is (xs.getD []) v) ↔ ∃ ys, xs = some ys ∧ ∀ y ∈ ys, ok y := by
  rw [getD_single]
  constructor
  · rintro ⟨v, hv, hread⟩
    obtain rfl := Except.ok.inj hv
    exact (listRead_iff (hitem 0) xs).mp (hread 0)
  · exact fun h => ⟨_, rfl, fun dev => (listRead_iff (hitem dev) xs).mpr h⟩

/-! ## Telemetry -/

/-- The metric of a telemetry payload, and what is known of its values. -/
theorem telemetry_read {d : Agent.TelemetryData} {data : Json} (h : d.encode = some data)
    (id : Uuid) (t : Nat) (dev : Uuid) :
    ∃ m, metricOf id t dev data = .ok m ∧ TelemetryRead d m ∧
      ∀ cv ∈ (Row.metric m).columns, cv.1.type = .float → Stored cv.2 := by
  rw [Agent.TelemetryData.encode] at h
  obtain ⟨cpu, hcpu, h⟩ := Option.bind_eq_some_iff.mp h
  obtain ⟨ram, hram, h⟩ := Option.bind_eq_some_iff.mp h
  obtain ⟨disk, hdisk, h⟩ := Option.bind_eq_some_iff.mp h
  obtain ⟨temp, htemp, h⟩ := Option.bind_eq_some_iff.mp h
  obtain ⟨ramTotal, hramTotal, h⟩ := Option.bind_eq_some_iff.mp h
  obtain ⟨ramUsed, hramUsed, h⟩ := Option.bind_eq_some_iff.mp h
  obtain ⟨diskTotal, hdiskTotal, h⟩ := Option.bind_eq_some_iff.mp h
  obtain ⟨diskUsed, hdiskUsed, h⟩ := Option.bind_eq_some_iff.mp h
  obtain ⟨diskRead, hdiskRead, h⟩ := Option.bind_eq_some_iff.mp h
  obtain ⟨diskWrite, hdiskWrite, h⟩ := Option.bind_eq_some_iff.mp h
  obtain ⟨sent, hsent, h⟩ := Option.bind_eq_some_iff.mp h
  obtain ⟨recv, hrecv, h⟩ := Option.bind_eq_some_iff.mp h
  obtain rfl := Option.some.inj h
  -- The five numbers with omitempty are missing where they are zero, and None is stored.
  refine ⟨⟨id, t, dev, cpu, ram, disk, optionalNumber d.cpuTemp temp, .int d.uptimeSecs, ramTotal,
    ramUsed, diskTotal, diskUsed, optionalNumber d.diskReadMbps diskRead,
    optionalNumber d.diskWriteMbps diskWrite, optionalNumber d.netSentMbps sent,
    optionalNumber d.netRecvMbps recv⟩, ?_, ?_, ?_⟩
  · unfold metricOf optionalNumber
    simp [Json.get, Agent.lookup_field, Agent.lookup_omitEmpty, Agent.lookup_omitEmpty_nil,
      Bind.bind, Except.bind, Pure.pure, Except.pure, getD_kept]
  rotate_left
  · intro cv hcv hfloat
    simp only [Row.columns, List.mem_cons, List.not_mem_nil, or_false] at hcv
    rcases hcv with rfl | rfl | rfl | rfl | rfl | rfl | rfl | rfl | rfl | rfl | rfl | rfl | rfl
    · exact stored_encode hcpu
    · exact stored_encode hram
    · exact stored_encode hdisk
    · exact stored_optional htemp
    · cases hfloat
    · exact stored_encode hramTotal
    · exact stored_encode hramUsed
    · exact stored_encode hdiskTotal
    · exact stored_encode hdiskUsed
    · exact stored_optional hdiskRead
    · exact stored_optional hdiskWrite
    · exact stored_optional hsent
    · exact stored_optional hrecv
  · exact
    { cpuPercent := encode_number hcpu
      ramPercent := encode_number hram
      diskPercent := encode_number hdisk
      cpuTemp := numberOrNone_optional htemp
      uptimeSecs := rfl
      ramTotalMb := encode_number hramTotal
      ramUsedMb := encode_number hramUsed
      diskTotalGb := encode_number hdiskTotal
      diskUsedGb := encode_number hdiskUsed
      diskReadMbps := numberOrNone_optional hdiskRead
      diskWriteMbps := numberOrNone_optional hdiskWrite
      netSentMbps := numberOrNone_optional hsent
      netRecvMbps := numberOrNone_optional hrecv }

/-- A struct is encoded if its number is finite and the rest is encoded, whatever was written. -/
theorem encodable_bind {x : GoFloat} {f : Json → Option Json} {P : Prop}
    (h : ∀ v, (∃ data, f v = some data) ↔ P) :
    (∃ data, (x.encode >>= f) = some data) ↔ x.isFinite = true ∧ P := by
  rw [← encode_isSome_iff]
  constructor
  · rintro ⟨data, hdata⟩
    obtain ⟨v, hv, hrest⟩ := Option.bind_eq_some_iff.mp hdata
    exact ⟨⟨v, hv⟩, (h v).mp ⟨data, hrest⟩⟩
  · rintro ⟨⟨v, hv⟩, hP⟩
    obtain ⟨data, hrest⟩ := (h v).mpr hP
    exact ⟨data, Option.bind_eq_some_iff.mpr ⟨v, hv, hrest⟩⟩

/-- The last number of a struct. -/
theorem encodable_last {x : GoFloat} {f : Json → Json} :
    (∃ data, (x.encode >>= fun v => pure (f v)) = some data) ↔ x.isFinite = true :=
  (encodable_bind (P := True) fun v => iff_of_true ⟨f v, rfl⟩ trivial).trans
    (and_iff_left trivial)

/-- The numbers of the struct are finite. -/
def FiniteTelemetry (d : Agent.TelemetryData) : Prop :=
  d.cpuPercent.isFinite ∧ d.ramPercent.isFinite ∧ d.diskPercent.isFinite ∧ d.cpuTemp.isFinite ∧
    d.ramTotalMb.isFinite ∧ d.ramUsedMb.isFinite ∧ d.diskTotalGb.isFinite ∧ d.diskUsedGb.isFinite ∧
    d.diskReadMbps.isFinite ∧ d.diskWriteMbps.isFinite ∧ d.netSentMbps.isFinite ∧ d.netRecvMbps.isFinite

/-- Telemetry can be sent when its numbers are finite. -/
theorem telemetry_finite_iff {d : Agent.TelemetryData} :
    (∃ data, d.encode = some data) ↔ FiniteTelemetry d :=
  encodable_bind fun _ => encodable_bind fun _ => encodable_bind fun _ => encodable_bind fun _ =>
    encodable_bind fun _ => encodable_bind fun _ => encodable_bind fun _ => encodable_bind fun _ =>
      encodable_bind fun _ => encodable_bind fun _ => encodable_bind fun _ => encodable_last

/-! ## Events, offsets, versions, results -/

variable {E}

/-- `_truncate` keeps the first characters of a text. -/
def cut (limit : Nat) (t : String) : String := String.ofList (t.toList.take limit)

/-- A text that is short is not cut. -/
theorem cut_eq_iff {limit : Nat} {t : String} : cut limit t = t ↔ t.length ≤ limit := by
  rw [cut, ← String.length_toList]
  constructor
  · intro h
    have hlist := congrArg String.toList h
    rw [String.toList_ofList, List.take_eq_self_iff] at hlist
    exact hlist
  · intro h
    rw [List.take_of_length_le h, String.ofList_toList]

/-- What is left of a text is what the agent set exactly if the text is UTF-8 and short. -/
theorem denotes_cut_iff {s : GoString} {limit : Nat} :
    s.Denotes (cut limit s.text) ↔ s.valid = true ∧ s.text.length ≤ limit := by
  constructor
  · intro h
    have htext : s.text = cut limit s.text := by
      conv_lhs => rw [h, GoString.text_ofString]
    exact ⟨GoString.valid_of_denotes h, cut_eq_iff.mp htext.symm⟩
  · rintro ⟨hvalid, hshort⟩
    rw [cut_eq_iff.mpr hshort]
    exact GoString.denotes_text.mpr hvalid

theorem text_eq_empty {s : GoString} : s.text = "" ↔ s = [] := by
  rw [← String.toList_eq_nil_iff, GoString.text, String.toList_ofList, List.map_eq_nil_iff]

/-- `_truncate` on a text. -/
theorem truncate_str (hstr : ∀ s, E.str (.str s) = s) (t : String) (limit : Nat) :
    truncate E (.str t) limit = cut limit t := by
  rw [truncate, cut, hstr]
  by_cases ht : t = ""
  · subst ht
    show (if ("" != "") = true then _ else _) = _
    rw [bne_self_eq_false]
    exact (String.ext (by simp)).symm
  · have htruthy : (Json.str t).truthy = true := bne_iff_ne.mpr ht
    rw [htruthy]
    rfl

theorem cut_eq_empty {limit : Nat} (hlimit : 0 < limit) {t : String} :
    cut limit t = "" ↔ t = "" := by
  rw [cut]
  rw [← String.toList_eq_nil_iff, String.toList_ofList, List.take_eq_nil_iff,
    String.toList_eq_nil_iff]
  constructor
  · rintro (h | h)
    · omega
    · exact h
  · exact Or.inr

/-- The event that the handler makes, its texts cut. -/
theorem eventOf_encode (hstr : ∀ s, E.str (.str s) = s) (id : Uuid) (t : Nat) (dev : Uuid)
    (d : Agent.EventData) :
    eventOf E id t dev d.encode = .ok
      ⟨id, t, dev, d.eventType.encode,
        if d.source.text = "" then none else some (cut maxEventSourceLen d.source.text),
        cut maxEventMessageLen d.message.text,
        boundedRawData E (if d.rawData.isEmpty then .null else .obj d.rawData)⟩ := by
  have hsource : truncate E (if d.source = [] then .str "" else d.source.encode)
      maxEventSourceLen = cut maxEventSourceLen d.source.text := by
    split
    · rename_i hempty
      rw [hempty, truncate_str hstr]
      rfl
    · exact truncate_str hstr _ _
  rw [eventOf, Agent.EventData.encode]
  simp [Json.get, Json.getD, Agent.lookup_field, Agent.lookup_omitEmpty,
    Agent.lookup_omitEmpty_nil, Bind.bind, Except.bind, Pure.pure, Except.pure, getD_omitted,
    hsource, cut_eq_empty (show 0 < maxEventSourceLen by decide)]
  exact truncate_str hstr _ _

/-- A source that was left out is stored as nothing. -/
theorem source_read_iff {s : GoString} {limit : Nat} :
    TextOrNone s (((if s.text = "" then none else some (cut limit s.text)).map Json.str).getD .null) ↔
      s.valid = true ∧ s.text.length ≤ limit := by
  by_cases hs : s = []
  · subst hs
    exact iff_of_true (.inr ⟨rfl, rfl⟩) ⟨rfl, Nat.zero_le _⟩
  · rw [if_neg (mt text_eq_empty.mp hs), ← denotes_cut_iff]
    constructor
    · rintro (⟨t, ht, hden⟩ | ⟨hempty, -⟩)
      · obtain rfl : cut limit s.text = t := Json.str.inj ht
        exact hden
      · exact absurd hempty hs
    · exact fun h => .inl ⟨_, rfl, h⟩

variable (E) in
/-- Raw data that the handler leaves as it is. -/
def ShortRawData (d : Agent.EventData) : Prop :=
  d.rawData ≠ [] → E.dumpsLength (.obj d.rawData) ≤ maxRawDataBytes

/-- Raw data is kept exactly if its text is short; what stands for longer data is short. -/
theorem rawData_read_iff (hmark : E.dumpsLength (.obj [("truncated", .bool true)]) ≤ maxRawDataBytes)
    {d : Agent.EventData} :
    (boundedRawData E (if d.rawData.isEmpty then .null else .obj d.rawData) =
      if d.rawData.isEmpty then .null else .obj d.rawData) ↔ ShortRawData E d := by
  rw [ShortRawData]
  cases hraw : d.rawData with
  | nil => exact iff_of_true rfl fun hne => absurd rfl hne
  | cons kv rest =>
    show boundedRawData E (.obj (kv :: rest)) = .obj (kv :: rest) ↔ _
    rw [boundedRawData, if_neg (by simp [Json.isNone])]
    constructor
    · intro h _
      by_contra hlong
      rw [if_pos (Nat.lt_of_not_le hlong)] at h
      rw [← h] at hlong
      exact hlong hmark
    · exact fun h => if_neg (Nat.not_lt.mpr (h (List.cons_ne_nil _ _)))

/-- An event is stored as it was sent exactly when nothing is cut. -/
theorem event_read_iff (hstr : ∀ s, E.str (.str s) = s)
    (hmark : E.dumpsLength (.obj [("truncated", .bool true)]) ≤ maxRawDataBytes) {id : Uuid} {t : Nat}
    {dev : Uuid} {d : Agent.EventData} :
    (∃ ev, eventOf E id t dev d.encode = .ok ev ∧ EventRead d ev) ↔
      d.eventType.valid ∧ (d.source.valid = true ∧ d.source.text.length ≤ maxEventSourceLen) ∧
        (d.message.valid = true ∧ d.message.text.length ≤ maxEventMessageLen) ∧ ShortRawData E d := by
  rw [eventOf_encode hstr]
  constructor
  · rintro ⟨ev, hev, hread⟩
    obtain rfl := Except.ok.inj hev
    exact ⟨textIs_encode.mp hread.eventType, source_read_iff.mp hread.source,
      denotes_cut_iff.mp hread.message, (rawData_read_iff hmark).mp hread.rawData⟩
  · rintro ⟨htype, hsource, hmessage, hraw⟩
    exact ⟨_, rfl, textIs_encode.mpr htype, source_read_iff.mpr hsource, denotes_cut_iff.mpr hmessage,
      (rawData_read_iff hmark).mpr hraw⟩

/-- The offset and the flag as they are read: the flag is left out when it is `false`, and its
    default is `True`. -/
theorem ntp_read {d : Agent.NTPStatusData} {data : Json} (h : d.encode = some data) :
    ∃ v, d.usedOffset.encode = some v ∧ ntpOffset data = v.abs ∧
      data.getD "clock_usable" (.bool true) = .ok (.bool true) := by
  rw [Agent.NTPStatusData.encode] at h
  obtain ⟨offset, hoffset, h⟩ := Option.bind_eq_some_iff.mp h
  obtain ⟨estimated, hestimated, h⟩ := Option.bind_eq_some_iff.mp h
  obtain rfl := Option.some.inj h
  have husable : ∀ b : Bool, (if b = true then some (Json.bool b) else none).getD (.bool true) =
      .bool true := by
    intro b
    cases b <;> rfl
  rw [Agent.NTPStatusData.usedOffset, ntpOffset]
  cases hzero : d.estimatedOffsetMs.isZero with
  | true =>
    refine ⟨offset, hoffset, ?_, ?_⟩
    · simp [Json.getD, Agent.lookup_field, Agent.lookup_omitEmpty, Agent.lookup_omitEmpty_nil,
        Bind.bind, Except.bind]
    · simp [Json.getD, Agent.lookup_field, Agent.lookup_omitEmpty, Agent.lookup_omitEmpty_nil,
        husable]
  | false =>
    refine ⟨estimated, hestimated, ?_, ?_⟩
    · simp [Json.getD, Agent.lookup_field, Agent.lookup_omitEmpty, Bind.bind, Except.bind]
    · simp [Json.getD, Agent.lookup_field, Agent.lookup_omitEmpty, Agent.lookup_omitEmpty_nil,
        husable]

theorem ntp_finite_iff {d : Agent.NTPStatusData} :
    (∃ data, d.encode = some data) ↔
      d.offsetMs.isFinite = true ∧ d.estimatedOffsetMs.isFinite = true :=
  encodable_bind fun _ => encodable_last

theorem version_encode (d : Agent.AgentInfoData) :
    d.encode.get "version" = .ok d.version.encode := by
  rw [Agent.AgentInfoData.encode]
  simp [Json.get, Agent.lookup_field]

theorem result_encode (d : Agent.CommandResultData) :
    d.encode.get "command_id" = .ok d.commandId.encode ∧
      d.encode.getD "exit_code" (.int 1) = .ok (.int d.exitCode) ∧
      d.encode.getD "output" (.str "") = .ok d.output.encode := by
  rw [Agent.CommandResultData.encode]
  refine ⟨?_, ?_, ?_⟩
  · simp [Json.get, Agent.lookup_field]
  · simp [Json.getD, Agent.lookup_field]
  · simp [Json.getD, Agent.lookup_field, Agent.lookup_field_nil]

/-! ## Exceptions of the handlers -/

/-- A flush raises what the database raises. -/
theorem flush_raises : Act.RaisesOnly FromDatabase (flush E) := by
  intro w e he
  rw [flush] at he
  split at he
  · cases he
  · exact Or.inl (Except.error.inj he).symm

theorem select_raises {α : Type} (f : Db → α) : Act.RaisesOnly FromDatabase (select E f) :=
  flush_raises.bind fun _ => .read _

theorem execute_raises (f : Db → Db) : Act.RaisesOnly FromDatabase (execute E f) :=
  flush_raises.bind fun _ => .modify _

theorem executeWith_raises (values : List (Column × Json)) (f : Db → Db) :
    Act.RaisesOnly FromDatabase (executeWith E values f) :=
  flush_raises.bind fun _ => .ite (.modify _) (.raise (Or.inl rfl))

theorem newId_raises : Act.RaisesOnly FromDatabase (newId E) := fun _ _ h => by cases h

theorem scalarOneOrNone_raises {α : Type} (rows : List α) :
    Act.RaisesOnly FromDatabase (scalarOneOrNone rows) := by
  match rows with
  | [] => exact .pure _
  | [a] => exact .pure _
  | a :: b :: rest => exact .raise (Or.inr rfl)

/-- A push that fails is logged, and raises nothing. -/
theorem sendPush_raises (org : Uuid) (title body : String) :
    Act.RaisesOnly FromDatabase (sendPushNotifications E org title body) := by
  rw [sendPushNotifications]
  refine (select_raises _).bind fun tokens => .ite (.pure _) ?_
  refine Act.RaisesOnly.bind (.modify _) fun _ => ?_
  split
  · exact .pure _
  · exact Act.RaisesOnly.bind (.read _) fun t => execute_raises _

/-- `notify`. -/
theorem notify_raises (alert : Alert) (device : Device) :
    Act.RaisesOnly FromDatabase (notify E alert device) := by
  rw [notify]
  refine (select_raises _).bind fun rules => ?_
  refine Act.RaisesOnly.bind (.forEach fun _ _ => .modify _) fun _ => ?_
  rw [notifyPush]
  split
  · exact .ite (sendPush_raises _ _ _) (.pure _)
  · exact .pure _

/-- `create_alert`. -/
theorem createAlert_raises (ty : AlertType) (severity : Severity) (message : String) :
    Act.RaisesOnly FromDatabase (createAlert E ty severity message) := by
  rw [createAlert]
  refine Act.RaisesOnly.bind (.read _) fun device => .ite (.pure _) ?_
  refine (select_raises _).bind fun rows => (scalarOneOrNone_raises rows).bind fun existing => ?_
  split
  · exact .pure _
  · refine newId_raises.bind fun id => Act.RaisesOnly.bind (.read _) fun t => ?_
    refine Act.RaisesOnly.bind (.modify _) fun _ => Act.RaisesOnly.bind (.modify _) fun _ => ?_
    exact flush_raises.bind fun _ => Act.RaisesOnly.bind (.read _) fun device => notify_raises _ _

theorem toFloat_of_small {n : Int} (h : ¬ Json.floatLimit ≤ |(n : Rat)|) :
    (Json.int n).toFloat = .ok (n : Rat) := by
  rw [toFloat_int, if_neg h]

/-- `abs` of a number that can be formatted. -/
theorem toFloat_abs {v : Json} {q : Rat} (h : v.toFloat = .ok q) :
    ∃ a, v.abs = .ok a ∧ a.toFloat = .ok |q| := by
  cases v with
  | bool b =>
    obtain rfl := Except.ok.inj h
    have hone : (1 : Rat) < Json.floatLimit := lt_trans (by norm_num) pow_lt_floatLimit
    cases b with
    | true =>
      refine ⟨.int 1, rfl, (toFloat_of_small ?_).trans ?_⟩
      · rw [Int.cast_one, abs_one]
        exact not_le.mpr hone
      · rw [if_pos rfl, Int.cast_one, abs_one]
    | false =>
      refine ⟨.int 0, rfl, (toFloat_of_small ?_).trans ?_⟩
      · rw [Int.cast_zero, abs_zero]
        exact not_le.mpr (zero_lt_one.trans hone)
      · rw [if_neg Bool.false_ne_true, Int.cast_zero, abs_zero]
  | int n =>
    have hif : (if Json.floatLimit ≤ |(n : Rat)| then Except.error PyErr.overflowError
      else .ok (n : Rat)) = .ok q := h
    obtain ⟨hsmall, hq⟩ := ok_of_guard hif
    obtain rfl := Except.ok.inj hq
    refine ⟨.int n.natAbs, rfl, ?_⟩
    have habs : ((n.natAbs : Int) : Rat) = |(n : Rat)| := by
      rw [Int.natCast_natAbs, Int.cast_abs]
    rw [toFloat_of_small (by rwa [habs, abs_abs]), habs]
  | float x =>
    obtain rfl := Except.ok.inj h
    exact ⟨.float |x|, rfl, rfl⟩
  | null | str s | arr xs | obj fields => cases h

theorem checkThreshold_raises {v : Json} (hv : Stored v) (bound : Threshold) (ty : AlertType)
    (severity : Severity) (text : String → String) :
    Act.RaisesOnly FromDatabase (checkThreshold E v bound ty severity text) := by
  rw [checkThreshold]
  rcases hv with hnone | ⟨q, hq⟩
  · rw [if_pos hnone]
    exact .pure _
  · have hgt : v.gt bound.value = .ok (decide (bound.value < q)) := by
      rw [Json.gt, number_of_toFloat hq]
    exact .ite (.pure _) (.ofExcept_bind hgt (.ite
      (.ofExcept_bind hq (createAlert_raises _ _ _)) (.pure _)))

theorem autoResolve_raises {v : Json} (hv : Stored v) (d : Uuid) (bound : Rat) (ty : AlertType)
    (t : Nat) : Act.RaisesOnly FromDatabase (autoResolve E d v bound ty t) := by
  rw [autoResolve]
  rcases hv with hnone | ⟨q, hq⟩
  · rw [if_pos hnone]
    exact .pure _
  · have hlt : v.lt bound = .ok (decide (q < bound)) := by
      rw [Json.lt, number_of_toFloat hq]
    exact .ite (.pure _) (.ofExcept_bind hlt (.ite (execute_raises _) (.pure _)))

/-! ## Payload by payload -/

theorem metricOf_get {id : Uuid} {t : Nat} {dev : Uuid} {data : Json} {m : DeviceMetric}
    (h : metricOf id t dev data = .ok m) :
    data.get "cpu_percent" = .ok m.cpuPercent ∧ data.get "ram_percent" = .ok m.ramPercent ∧
      data.get "disk_percent" = .ok m.diskPercent := by
  cases data with
  | obj fields =>
    rw [← Except.ok.inj h]
    exact ⟨rfl, rfl, rfl⟩
  | null | bool b | int n | float x | str s | arr xs => cases h

/-- Telemetry raises nothing of its own. -/
theorem telemetry_raises {d : Agent.TelemetryData} {data : Json} (hdata : d.encode = some data) :
    Act.RaisesOnly FromDatabase (handleTelemetry E data) := by
  rw [handleTelemetry]
  refine Act.RaisesOnly.bind (.read _) fun device => newId_raises.bind fun id =>
    Act.RaisesOnly.bind (.read _) fun t => ?_
  obtain ⟨m, hm, -, hstored⟩ := telemetry_read hdata id t device.id
  have hcpu : Stored m.cpuPercent := hstored (nullable .float, _) (by simp [Row.columns]) rfl
  have hram : Stored m.ramPercent := hstored (nullable .float, _) (by simp [Row.columns]) rfl
  have hdisk : Stored m.diskPercent := hstored (nullable .float, _) (by simp [Row.columns]) rfl
  have htemp : Stored m.cpuTemp := hstored (nullable .float, _) (by simp [Row.columns]) rfl
  obtain ⟨hgetCpu, hgetRam, hgetDisk⟩ := metricOf_get hm
  refine .ofExcept_bind hm (Act.RaisesOnly.bind (.modify _) fun _ =>
    Act.RaisesOnly.bind (.modify _) fun _ => flush_raises.bind fun _ => ?_)
  refine Act.RaisesOnly.bind ?_ fun _ => ?_
  · rw [evaluateMetrics]
    exact (checkThreshold_raises hcpu _ _ _ _).bind fun _ =>
      (checkThreshold_raises hram _ _ _ _).bind fun _ =>
        (checkThreshold_raises hdisk _ _ _ _).bind fun _ => checkThreshold_raises htemp _ _ _ _
  · rw [autoResolveAlerts]
    refine Act.RaisesOnly.bind (.read _) fun t => ?_
    exact .ofExcept_bind hgetCpu ((autoResolve_raises hcpu _ _ _ _).bind fun _ =>
      .ofExcept_bind hgetRam ((autoResolve_raises hram _ _ _ _).bind fun _ =>
        .ofExcept_bind hgetDisk (autoResolve_raises hdisk _ _ _ _)))

/-- `for x in xs: db.add(row(x))` over items that all give a row. -/
theorem addAll_raises {row : Uuid → Json → Except PyErr Row} {items : List Json}
    (h : ∀ item ∈ items, ∀ id, ∃ r, row id item = .ok r) :
    Act.RaisesOnly FromDatabase (addAll E row items) := by
  refine .forEach fun item hitem => newId_raises.bind fun id => ?_
  obtain ⟨r, hr⟩ := h item hitem id
  exact .ofExcept_bind hr (.modify _)

/-- The list of packages, if it is not nil. -/
theorem packages_encode {d : Agent.SoftwareInventoryData} {ps : List Agent.SoftwarePackage}
    (h : d.packages = some ps) : d.encode.getD "packages" (.arr []) =
      .ok (.arr (ps.map Agent.SoftwarePackage.encode)) := by
  rw [Agent.SoftwareInventoryData.encode, getD_single, h]
  rfl

/-- When an inventory is read as it was sent. -/
theorem software_read_iff {d : Agent.SoftwareInventoryData} : Reads E (.software d) d.encode ↔
    ∃ ps, d.packages = some ps ∧ ∀ p ∈ ps, p.name.valid ∧ p.version.valid ∧ p.latestVersion.valid :=
  listPayload_iff (fun _ _ _ => package_read_iff) d.packages

/-- An inventory raises nothing of its own. -/
theorem software_raises {d : Agent.SoftwareInventoryData} {ps : List Agent.SoftwarePackage}
    (h : d.packages = some ps) : Act.RaisesOnly FromDatabase (handleSoftware E d.encode) := by
  rw [handleSoftware]
  refine Act.RaisesOnly.bind (.read _) fun device => (execute_raises _).bind fun _ => ?_
  refine .ofExcept_bind (packages_encode h) (.ofExcept_bind rfl (addAll_raises fun item hitem id => ?_))
  obtain ⟨p, -, rfl⟩ := List.mem_map.mp hitem
  exact ⟨_, softwareRow_encode _ _ p⟩

/-- The list of keys, if it is not nil. -/
theorem keys_encode {d : Agent.SSHKeysData} {ks : List Agent.SSHKeyInfo} (h : d.keys = some ks) :
    d.encode.getD "keys" (.arr []) = .ok (.arr (ks.map Agent.SSHKeyInfo.encode)) := by
  rw [Agent.SSHKeysData.encode, getD_single, h]
  rfl

theorem sshKeys_read_iff {d : Agent.SSHKeysData} : Reads E (.sshKeys d) d.encode ↔ ∃ ks, d.keys = some ks ∧
    ∀ k ∈ ks, k.type.valid ∧ k.publicKey.valid ∧ k.comment.valid ∧ k.fingerprint.valid :=
  listPayload_iff (fun _ _ _ => key_read_iff) d.keys

theorem sshKeys_raises {d : Agent.SSHKeysData} {ks : List Agent.SSHKeyInfo} (h : d.keys = some ks) :
    Act.RaisesOnly FromDatabase (handleSshKeys E d.encode) := by
  rw [handleSshKeys]
  refine Act.RaisesOnly.bind (.read _) fun device => (execute_raises _).bind fun _ => ?_
  refine .ofExcept_bind (keys_encode h) (.ofExcept_bind rfl (addAll_raises fun item hitem id => ?_))
  obtain ⟨k, -, rfl⟩ := List.mem_map.mp hitem
  exact ⟨_, sshKeyRow_encode _ _ k⟩

/-- The list of interfaces, if it is not nil. -/
theorem interfaces_encode {d : Agent.NetworkInfoData} {is : List Agent.NetworkInterface}
    (h : d.interfaces = some is) : d.encode.getD "interfaces" (.arr []) =
      .ok (.arr (is.map Agent.NetworkInterface.encode)) := by
  rw [Agent.NetworkInfoData.encode, getD_single, h]
  rfl

theorem network_read_iff {d : Agent.NetworkInfoData} : Reads E (.network d) d.encode ↔
    ∃ is, d.interfaces = some is ∧ ∀ i ∈ is, i.name.valid ∧ i.macAddress.valid ∧
      (∀ s ∈ i.ipv4.getD [], GoString.valid s) ∧ ∀ s ∈ i.ipv6.getD [], GoString.valid s :=
  listPayload_iff (fun _ _ _ => interface_read_iff) d.interfaces

theorem network_raises {d : Agent.NetworkInfoData} {is : List Agent.NetworkInterface}
    (h : d.interfaces = some is) : Act.RaisesOnly FromDatabase (handleNetworkInfo E d.encode) := by
  rw [handleNetworkInfo]
  refine Act.RaisesOnly.bind (.read _) fun device => .ofExcept_bind (interfaces_encode h)
    ((execute_raises _).bind fun _ => Act.RaisesOnly.bind (.read _) fun t =>
      Act.RaisesOnly.bind (.modify _) fun _ => .ofExcept_bind rfl ?_)
  refine Act.RaisesOnly.bind (fun w e he => ?_) fun chosen => .modify _
  obtain ⟨w', hloop, -⟩ := @addInterfaces_encode E device.id is (none, none) w
  rw [hloop] at he
  cases he

theorem event_raises (hstr : ∀ s, E.str (.str s) = s) (d : Agent.EventData) :
    Act.RaisesOnly FromDatabase (handleEvent E d.encode) := by
  rw [handleEvent]
  have hlimit : ∀ dev, Act.RaisesOnly FromDatabase (eventRateLimited dev) := by
    intro dev w e he
    rw [eventRateLimited] at he
    split at he <;> cases he
  refine Act.RaisesOnly.bind (.read _) fun device => (hlimit _).bind fun limited =>
    .ite (.pure _) ?_
  rw [reportEvent]
  refine newId_raises.bind fun id => Act.RaisesOnly.bind (.read _) fun t =>
    .ofExcept_bind (eventOf_encode hstr id t device.id d) ?_
  refine Act.RaisesOnly.bind (.modify _) fun _ => flush_raises.bind fun _ =>
    Act.RaisesOnly.bind (.modify _) fun _ => ?_
  have hget : d.encode.get "event_type" = .ok d.eventType.encode := by
    rw [Agent.EventData.encode]
    simp [Json.get, Agent.lookup_field]
  exact .ofExcept_bind hget (.ite (createAlert_raises _ _ _) (.pure _))

/-- A version that is there is cut at the width of its column. -/
theorem withVersion_encode (hstr : ∀ s, E.str (.str s) = s) {s : GoString} (hs : s ≠ []) (device : Device) :
    withVersion E s.encode device = { device with agentVersion := some (cut 50 s.text) } := by
  have htruthy : s.encode.truthy = true := bne_iff_ne.mpr (mt text_eq_empty.mp hs)
  rw [withVersion, if_pos htruthy, GoString.encode, hstr]
  rfl

theorem agentInfo_read_iff (hstr : ∀ s, E.str (.str s) = s) {d : Agent.AgentInfoData} :
    Reads E (.agentInfo d) d.encode ↔ d.version.valid = true ∧ d.version.text.length ≤ 50 := by
  by_cases hs : d.version = []
  · refine iff_of_true ⟨_, version_encode d, ⟨?_, fun hne => absurd hs hne⟩⟩ ?_
    · exact textIs_encode.mpr (by rw [hs]; rfl)
    · rw [hs]
      exact ⟨rfl, Nat.zero_le _⟩
  · rw [← denotes_cut_iff]
    constructor
    · rintro ⟨v, hv, hread⟩
      obtain rfl := Except.ok.inj ((version_encode d).symm.trans hv)
      obtain ⟨t, ht, hden⟩ := hread.stored hs (.sample 1)
      rw [withVersion_encode hstr hs] at ht
      obtain rfl : cut 50 d.version.text = t := Option.some.inj ht
      exact hden
    · intro hden
      refine ⟨_, version_encode d, textIs_encode.mpr (GoString.valid_of_denotes hden), fun _ device => ?_⟩
      rw [withVersion_encode hstr hs]
      exact ⟨_, rfl, hden⟩

theorem agentInfo_raises (d : Agent.AgentInfoData) :
    Act.RaisesOnly FromDatabase (handleAgentInfo E d.encode) := by
  rw [handleAgentInfo]
  exact .ofExcept_bind (version_encode d) (Act.RaisesOnly.bind (.modify _) fun _ =>
    Act.RaisesOnly.bind (.read _) fun t => .modify _)

/-- An offset that could be encoded is a number, and so is its absolute value. -/
theorem ntp_offset {d : Agent.NTPStatusData} {data : Json} (hdata : d.encode = some data) :
    ∃ offset q, d.usedOffset = .finite q ∧ ntpOffset data = .ok offset ∧ offset.toFloat = .ok |q| := by
  obtain ⟨v, hv, habs, -⟩ := ntp_read hdata
  obtain ⟨q, hq, hnumber⟩ := encode_number hv
  obtain ⟨q', hfloat⟩ := toFloat_encode hv
  obtain rfl : q' = q := Option.some.inj ((number_of_toFloat hfloat).symm.trans hnumber)
  obtain ⟨a, ha, hafloat⟩ := toFloat_abs hfloat
  exact ⟨a, q', hq, habs.trans ha, hafloat⟩

/-- When an NTP status is. -/
theorem ntp_reads_iff {d : Agent.NTPStatusData} {data : Json} (hdata : d.encode = some data) :
    Reads E (.ntp d) data ↔ d.clockUsable = true := by
  obtain ⟨-, -, -, hdefault⟩ := ntp_read hdata
  constructor
  · rintro ⟨offset, usable, -, husable, hread⟩
    obtain rfl := Except.ok.inj (hdefault.symm.trans husable)
    exact (Json.bool.inj hread.clockUsable).symm
  · intro husable
    obtain ⟨offset, q, hq, hoffset, hfloat⟩ := ntp_offset hdata
    exact ⟨offset, .bool true, hoffset, hdefault, ⟨q, hq, number_of_toFloat hfloat⟩,
      congrArg Json.bool husable.symm⟩

theorem ntp_raises {d : Agent.NTPStatusData} {data : Json} (hdata : d.encode = some data) :
    Act.RaisesOnly FromDatabase (handleNtp E data) := by
  obtain ⟨-, -, -, hdefault⟩ := ntp_read hdata
  obtain ⟨offset, q, -, hoffset, hfloat⟩ := ntp_offset hdata
  rw [handleNtp]
  refine Act.RaisesOnly.bind (.read _) fun device => .ofExcept_bind hoffset ?_
  refine Act.RaisesOnly.bind ?_ fun _ => ?_
  · have hgt : offset.gt E.settings.alertNtpOffsetMs.value =
        .ok (decide (E.settings.alertNtpOffsetMs.value < |q|)) := by
      rw [Json.gt, number_of_toFloat hfloat]
    rw [checkDrift]
    exact .ofExcept_bind hgt (.ite (.ofExcept_bind hfloat (createAlert_raises _ _ _)) (.pure _))
  · rw [checkClock]
    refine .ofExcept_bind hdefault ?_
    exact Act.RaisesOnly.bind (.read _) fun t => execute_raises _

theorem toUuid_encode_of_some {s : GoString} {id : Uuid} (h : Uuid.parse s.text = some id) :
    s.encode.toUuid = .ok id := by
  rw [GoString.encode, Json.toUuid]
  simp only [h]

theorem toUuid_encode_of_none {s : GoString} (h : Uuid.parse s.text = none) :
    s.encode.toUuid = .error .valueError := by
  rw [GoString.encode, Json.toUuid]
  simp only [h]

/-- The id of a command, if there is one, has to be a UUID. -/
theorem commandResult_read_iff {d : Agent.CommandResultData} : Reads E (.commandResult d) d.encode ↔
    d.commandId = [] ∨
      d.commandId.valid ∧ (Uuid.parse d.commandId.text).isSome ∧ d.output.valid := by
  obtain ⟨hget, hcode, houtput⟩ := result_encode d
  by_cases hs : d.commandId = []
  · refine iff_of_true ⟨_, hget, textIs_encode.mpr (by rw [hs]; rfl), fun hne => absurd hs hne⟩ (.inl hs)
  · constructor
    · rintro ⟨commandId, hid, htext, hrest⟩
      obtain rfl := Except.ok.inj (hget.symm.trans hid)
      obtain ⟨id, exitCode, output, huuid, -, hout, hread⟩ := hrest hs
      obtain rfl := Except.ok.inj (houtput.symm.trans hout)
      refine .inr ⟨textIs_encode.mp htext, ?_, textIs_encode.mp hread.output⟩
      cases hparse : Uuid.parse d.commandId.text with
      | some id => rfl
      | none =>
        rw [toUuid_encode_of_none hparse] at huuid
        cases huuid
    · rintro (hempty | ⟨hvalid, hparse, hout⟩)
      · exact absurd hempty hs
      · obtain ⟨id, hid⟩ := Option.isSome_iff_exists.mp hparse
        exact ⟨_, hget, textIs_encode.mpr hvalid, fun _ => ⟨id, _, _, toUuid_encode_of_some hid, hcode,
          houtput, rfl, textIs_encode.mpr hout⟩⟩

/-- A result whose id is absent or can be read. -/
theorem commandResult_raises {d : Agent.CommandResultData}
    (h : d.commandId = [] ∨ (Uuid.parse d.commandId.text).isSome) :
    Act.RaisesOnly FromDatabase (handleCommandResult E d.encode) := by
  obtain ⟨hget, hcode, houtput⟩ := result_encode d
  rw [handleCommandResult]
  refine Act.RaisesOnly.bind (.read _) fun device => .ofExcept_bind hget ?_
  rcases h with hempty | hparsed
  · have hfalsy : ¬ d.commandId.encode.truthy = true := by
      rw [hempty]
      decide
    rw [if_neg hfalsy]
    exact .pure _
  · obtain ⟨id, hid⟩ := Option.isSome_iff_exists.mp hparsed
    refine .ite (.ofExcept_bind (toUuid_encode_of_some hid)
      ((select_raises _).bind fun found => ?_)) (.pure _)
    split
    · exact .pure _
    · refine .ofExcept_bind hcode (.ofExcept_bind houtput ?_)
      refine Act.RaisesOnly.bind (.read _) fun t => (executeWith_raises _ _).bind fun _ => ?_
      exact .ite (execute_raises _) (.pure _)

end Server

end Dtsys
