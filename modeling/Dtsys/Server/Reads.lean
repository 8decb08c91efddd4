/-
  READS of devices and of what belongs to them: `list_devices`, `get_device` and
  `get_device_network` (`app/api/v1/devices.py`), `list_alerts` (`alerts.py`), `list_commands` and
  `get_command` (`commands.py`).

  A table is a MULTISET of rows: what a query does not order comes in whatever order the database
  likes.  `Queries` is that choice, and what else the database decides about texts; it may look at the
  rows a query selects, and at nothing else.

  The rows have the columns the requests return.  A date is its ISO text here.
-/
import Dtsys.Server.Accounts
import Dtsys.Server.Session
import Mathlib.Data.Multiset.Bind
import Mathlib.Data.Multiset.Filter
import Mathlib.Data.Rat.Floor

namespace Dtsys

/-! ## Tables -/

/-- The text of the enumeration. -/
def DeviceStatus.value : DeviceStatus → String
  | .online => "online"
  | .offline => "offline"
  | .alert => "alert"

/-- The text of the enumeration. -/
def CommandStatus.value : CommandStatus → String
  | .pending => "pending"
  | .sent => "sent"
  | .running => "running"
  | .completed => "completed"
  | .failed => "failed"

/-- `app/models/device.py`, with the columns only the requests read. -/
structure DeviceRow extends Device where
  enrolledAt : Nat
  notes : Option String := none
  tags : Option (List String) := none
  serialNumber : Option String := none
  manufacturer : Option String := none
  modelName : Option String := none
  purchaseDate : Option String := none
  warrantyExpires : Option String := none
  location : Option String := none
  assignedTo : Option String := none
  assetTag : Option String := none

/-- `app/models/command.py`, with `started_at`. -/
structure CommandRow extends Command where
  startedAt : Option Nat

/-- `app/models/network.py`, with `updated_at`. -/
structure NetworkRow extends DeviceNetworkInfo where
  updatedAt : Option Nat

/-- What the reads look at: tables, and which devices have a socket. -/
structure Tables where
  accounts : Accounts
  devices : Multiset DeviceRow
  network : Multiset NetworkRow
  alerts : Multiset Alert
  commands : Multiset CommandRow
  connected : Uuid → Bool
  /-- the primary key -/
  commandsKey : (commands.map fun r => r.id).Nodup

/-- What the database decides: the order of the rows it returns, `ILIKE` on a text and a pattern, and
    the order of texts. -/
structure Queries where
  rows : {α : Type} → Multiset α → List α
  coe_rows : ∀ {α : Type} (m : Multiset α), (rows m : Multiset α) = m
  ilike : String → String → Bool
  before : String → String → Bool

namespace Queries

variable (Q : Queries) {α : Type}

/-- ORDER BY. -/
def orderBy (le : α → α → Bool) (m : Multiset α) : List α := (Q.rows m).mergeSort le

/-- `scalar_one_or_none()`. -/
def one (m : Multiset α) : Except PyErr (Option α) := Accounts.oneOrNone (Q.rows m)

theorem mem_rows {m : Multiset α} {a : α} : a ∈ Q.rows m ↔ a ∈ m := by
  rw [← Multiset.mem_coe, Q.coe_rows]

/-- `scalar_one_or_none()` returns a selected row. -/
theorem mem_of_one {Q : Queries} {m : Multiset α} {a : α} (h : Q.one m = .ok (some a)) : a ∈ m := by
  have hone := Accounts.oneOrNone_eq_some h
  rw [← Q.mem_rows, hone]
  exact List.mem_singleton_self a

theorem mem_orderBy {le : α → α → Bool} {m : Multiset α} {a : α} : a ∈ Q.orderBy le m ↔ a ∈ m := by
  rw [orderBy, List.mem_mergeSort, mem_rows]

end Queries

/-- OFFSET and LIMIT: 64-bit numbers that are not negative. -/
def page {α : Type} (skip limit : Int) (rows : List α) : Except PyErr (List α) :=
  if 0 ≤ skip ∧ skip < 2 ^ 63 ∧ 0 ≤ limit ∧ limit < 2 ^ 63 then
    .ok ((rows.drop skip.toNat).take limit.toNat)
  else .error .db

theorem mem_of_page {α : Type} {skip limit : Int} {rows out : List α} (h : page skip limit rows = .ok out)
    {a : α} (ha : a ∈ out) : a ∈ rows := by
  rw [page] at h
  split at h
  · cases h
    exact List.mem_of_mem_drop (List.mem_of_mem_take ha)
  · cases h

/-- `Query(0, ge=0)` and `Query(100, ge=1, le=500)`. -/
def validPage (skip limit : Int) : Except PyErr Unit :=
  if 0 ≤ skip ∧ 1 ≤ limit ∧ limit ≤ 500 then .ok () else .error (.http 422 "")

/-- The status of the answer; what is no `HTTPException` is an internal error. -/
def httpStatus {α : Type} : Except PyErr α → Nat
  | .ok _ => 200
  | .error (.http status _) => status
  | .error _ => 500

/-- What a request returns: `X-Total-Count`, where it has one, and the body. -/
structure Answer where
  total : Option Nat := none
  body : Json

namespace Reads

variable (E : Env) (Q : Queries)

/-! ## Bodies -/

/-- `null` for `None`. -/
def optionalText (s : Option String) : Json := (s.map Json.str).getD .null

/-- `isoformat()`, and `null` for `None`. -/
def optionalTime (t : Option Nat) : Json := (t.map fun t => Json.str (E.isoformat t)).getD .null

/-- The body `list_devices` and `get_device` have for a device. -/
def deviceBody (connected : Uuid → Bool) (d : DeviceRow) : Json :=
  .obj [("id", .str d.id.str), ("hostname", .str d.hostname), ("os_type", .str d.osType),
    ("os_version", optionalText d.osVersion), ("arch", optionalText d.arch),
    ("ip_address", optionalText d.ipAddress), ("status", .str d.status.value),
    ("last_seen", optionalTime E d.lastSeen), ("enrolled_at", .str (E.isoformat d.enrolledAt)),
    ("label", optionalText d.label), ("notes", optionalText d.notes),
    ("tags", .arr ((d.tags.getD []).map Json.str)),
    ("serial_number", optionalText d.serialNumber), ("manufacturer", optionalText d.manufacturer),
    ("model_name", optionalText d.modelName), ("purchase_date", optionalText d.purchaseDate),
    ("warranty_expires", optionalText d.warrantyExpires), ("location", optionalText d.location),
    ("assigned_to", optionalText d.assignedTo), ("asset_tag", optionalText d.assetTag),
    ("maintenance_mode", .bool d.maintenanceMode),
    ("maintenance_until", optionalTime E d.maintenanceUntil),
    ("maintenance_reason", optionalText d.maintenanceReason),
    ("agent_version", optionalText d.agentVersion), ("is_online", .bool (connected d.id))]

/-- An interface in an answer. -/
def interfaceBody (r : NetworkRow) : Json :=
  .obj [("id", .str r.id.str), ("interface_name", r.interfaceName), ("mac_address", r.macAddress),
    ("ipv4", r.ipv4), ("ipv6", r.ipv6), ("is_up", r.isUp), ("mtu", r.mtu),
    ("updated_at", optionalTime E r.updatedAt)]

/-- `_fmt` of `alerts.py`. -/
def alertBody (a : Alert) : Json :=
  .obj [("id", .str a.id.str), ("device_id", .str a.deviceId.str),
    ("alert_type", .str a.alertType.value), ("severity", .str a.severity.value),
    ("message", .str a.message), ("is_resolved", .bool a.isResolved),
    ("created_at", .str (E.isoformat a.createdAt)), ("resolved_at", optionalTime E a.resolvedAt)]

/-- A command in `list_commands`. -/
def commandBody (c : CommandRow) : Json :=
  .obj [("id", .str c.id.str), ("command_type", .str c.commandType), ("payload", .obj c.payload),
    ("status", .str c.status.value), ("exit_code", c.exitCode),
    ("created_at", .str (E.isoformat c.createdAt)), ("completed_at", optionalTime E c.completedAt),
    ("output", c.output)]

/-- The command of `get_command`. -/
def commandDetail (c : CommandRow) : Json :=
  .obj [("id", .str c.id.str), ("command_type", .str c.commandType), ("payload", .obj c.payload),
    ("status", .str c.status.value), ("exit_code", c.exitCode), ("output", c.output),
    ("created_at", .str (E.isoformat c.createdAt)), ("started_at", optionalTime E c.startedAt),
    ("completed_at", optionalTime E c.completedAt)]

/-! ## Requests -/

/-- The devices `list_devices` and `count_devices` select; an empty text is no filter. -/
def listed (org : Uuid) (tag search : Option String) (d : DeviceRow) : Bool :=
  !d.isRevoked && d.orgId == some org &&
    (match tag.filter (· ≠ "") with
      | some tag => (d.tags.getD []).contains tag
      | none => true) &&
    (match search.filter (· ≠ "") with
      | some text =>
        let matched := fun value => Q.ilike value ("%" ++ text ++ "%")
        matched d.hostname || d.label.any matched || d.ipAddress.any matched
      | none => true)

/-- GET `/devices`. -/
def listDevices (org : Uuid) (skip limit : Int) (tag search : Option String) (T : Tables) :
    Except PyErr Answer := do
  validPage skip limit
  let selected := T.devices.filter fun d => listed Q org tag search d = true
  let devices ← page skip limit (Q.rows selected)
  pure { total := some selected.card, body := .arr (devices.map (deviceBody E T.connected)) }

/-- GET `/devices/{device_id}`. -/
def getDevice (org d : Uuid) (T : Tables) : Except PyErr Answer := do
  let device ← Q.one (T.devices.filter fun r => r.id = d ∧ r.orgId = some org)
  match device with
  | some device => pure { body := deviceBody E T.connected device }
  | none => .error (notFoundError ("Device " ++ d.str ++ " not found"))

/-- `_get_device_for_org`. -/
def getDeviceForOrg (org d : Uuid) (T : Tables) : Except PyErr DeviceRow := do
  let device ← Q.one (T.devices.filter fun r => r.id = d ∧ r.orgId = some org ∧ r.isRevoked = false)
  match device with
  | some device => pure device
  | none => .error (.http 404 "Device not found")

/-- GET `/devices/{device_id}/network`. -/
def getDeviceNetwork (org d : Uuid) (T : Tables) : Except PyErr Answer := do
  let _ ← getDeviceForOrg Q org d T
  let interfaces := Q.orderBy (fun a b => Q.before (E.str a.interfaceName) (E.str b.interfaceName))
    (T.network.filter fun r => r.deviceId = d)
  pure { body := .obj [("interfaces", .arr (interfaces.map (interfaceBody E)))] }

/-- The alerts of `list_alerts`, apart from the join. -/
def wanted (device : Option Uuid) (resolved : Option Bool) (severity : Option String) (a : Alert) :
    Bool :=
  (match device with
    | some d => a.deviceId == d
    | none => true) &&
  (match resolved with
    | some b => a.isResolved == b
    | none => true) &&
  (match severity.filter (· ≠ "") with
    | some s => a.severity.value == s
    | none => true)

/-- `join(Device, Alert.device_id == Device.id)`, and the filters. -/
def joined (org : Uuid) (p : Alert → Bool) (T : Tables) : Multiset Alert :=
  T.alerts.bind fun a =>
    (T.devices.filter fun r => r.id = a.deviceId ∧ r.orgId = some org ∧ p a = true).map fun _ => a

/-- GET `/alerts`. -/
def listAlerts (org : Uuid) (device : Option Uuid) (resolved : Option Bool)
    (severity : Option String) (skip limit : Int) (T : Tables) : Except PyErr Answer := do
  validPage skip limit
  let selected := joined org (wanted device resolved severity) T
  let alerts ← page skip limit
    (Q.orderBy (fun a b => decide (b.createdAt ≤ a.createdAt)) selected)
  pure { total := some selected.card, body := .arr (alerts.map (alertBody E)) }

/-- GET `/devices/{device_id}/commands`; `skip` and `limit` are any numbers. -/
def listCommands (org d : Uuid) (skip limit : Int) (T : Tables) : Except PyErr Answer := do
  let _ ← getDeviceForOrg Q org d T
  let selected := T.commands.filter fun c => c.deviceId = d
  let commands ← page skip limit
    (Q.orderBy (fun a b => decide (b.createdAt ≤ a.createdAt)) selected)
  pure { total := some selected.card, body := .arr (commands.map (commandBody E)) }

/-- The command of `get_command`. -/
def findCommand (d c : Uuid) (T : Tables) : Except PyErr CommandRow := do
  let command ← Q.one (T.commands.filter fun r => r.id = c)
  match command with
  | some command =>
    if command.deviceId = d then pure command else .error (.http 404 "Command not found")
  | none => .error (notFoundError ("Command " ++ c.str ++ " not found"))

/-- GET `/devices/{device_id}/commands/{command_id}`. -/
def getCommand (org d c : Uuid) (T : Tables) : Except PyErr Answer := do
  let _ ← getDeviceForOrg Q org d T
  let command ← findCommand Q d c T
  pure { body := commandDetail E command }

/-- A read. -/
inductive Request
  | listDevices (skip limit : Int) (tag search : Option String)
  | getDevice (d : Uuid)
  | getDeviceNetwork (d : Uuid)
  | listAlerts (device : Option Uuid) (resolved : Option Bool) (severity : Option String)
      (skip limit : Int)
  | listCommands (d : Uuid) (skip limit : Int)
  | getCommand (d c : Uuid)

/-- A read of a user of the organization. -/
def read (org : Uuid) : Request → Tables → Except PyErr Answer
  | .listDevices skip limit tag search => listDevices E Q org skip limit tag search
  | .getDevice d => getDevice E Q org d
  | .getDeviceNetwork d => getDeviceNetwork E Q org d
  | .listAlerts device resolved severity skip limit =>
    listAlerts E Q org device resolved severity skip limit
  | .listCommands d skip limit => listCommands E Q org d skip limit
  | .getCommand d c => getCommand E Q org d c

variable {τ K : Type} [Field K] [LinearOrder K] [FloorRing K] (A : Accounts.AuthEnv τ) (v : K)

/-- The request, with `get_current_user` and `get_current_org_id` before it. -/
def serve (credentials : Option τ) (request : Request) (T : Tables) : Except PyErr Answer := do
  let _ ← (Accounts.getCurrentUser A v credentials T.accounts).1
  let org ← (Accounts.getCurrentOrgId A v credentials T.accounts).1
  read E Q org request T

/-! ## Two databases -/

/-- The ids of the organization's devices. -/
def ownIds (org : Uuid) (T : Tables) : Multiset Uuid :=
  (T.devices.filter fun r => r.orgId = some org).map fun r => r.id

/-- The databases agree on a user's row, on the devices of an organization, on the rows that belong
    to these, and on who of them has a socket. -/
structure Agree (org user : Uuid) (S T : Tables) : Prop where
  user : (S.accounts.users.filter fun u => u.id == user) =
    T.accounts.users.filter fun u => u.id == user
  devices : (S.devices.filter fun r => r.orgId = some org) =
    T.devices.filter fun r => r.orgId = some org
  network : (S.network.filter fun r => r.deviceId ∈ ownIds org S) =
    T.network.filter fun r => r.deviceId ∈ ownIds org T
  alerts : (S.alerts.filter fun r => r.deviceId ∈ ownIds org S) =
    T.alerts.filter fun r => r.deviceId ∈ ownIds org T
  commands : (S.commands.filter fun r => r.deviceId ∈ ownIds org S) =
    T.commands.filter fun r => r.deviceId ∈ ownIds org T
  connected : ∀ d ∈ ownIds org S, S.connected d = T.connected d

/-- The status of the answers is the same, and on success the answers are. -/
structure Alike (x y : Except PyErr Answer) : Prop where
  status : httpStatus x = httpStatus y
  answer : ∀ a, x = .ok a ↔ y = .ok a

theorem Alike.of_eq {x y : Except PyErr Answer} (h : x = y) : Alike x y := by
  subst h
  exact ⟨rfl, fun _ => Iff.rfl⟩

theorem bind_alike {α : Type} {x : Except PyErr α} {f g : α → Except PyErr Answer}
    (h : ∀ a, x = .ok a → Alike (f a) (g a)) : Alike (x >>= f) (x >>= g) := by
  cases x with
  | error e => exact .of_eq rfl
  | ok a => exact h a rfl

/-- A filter after a wider one. -/
theorem filter_of_imp {α : Type} {p q : α → Prop} [DecidablePred p] [DecidablePred q]
    (h : ∀ a, p a → q a) (m : Multiset α) : m.filter p = (m.filter q).filter p := by
  rw [Multiset.filter_filter]
  exact Multiset.filter_congr fun a _ => ⟨fun hp => ⟨hp, h a hp⟩, And.left⟩

section

variable {E Q} {org user d c : Uuid} {S T : Tables}

theorem Agree.ownIds_eq (h : Agree org user S T) : ownIds org S = ownIds org T := by
  unfold ownIds
  rw [h.devices]

theorem mem_ownIds {r : DeviceRow} (hr : r ∈ T.devices) (horg : r.orgId = some org) :
    r.id ∈ ownIds org T :=
  Multiset.mem_map.mpr ⟨r, Multiset.mem_filter.mpr ⟨hr, horg⟩, rfl⟩

/-- A selection of devices of the organization. -/
theorem Agree.select (h : Agree org user S T) {p : DeviceRow → Prop} [DecidablePred p]
    (hp : ∀ r, p r → r.orgId = some org) : S.devices.filter p = T.devices.filter p := by
  rw [filter_of_imp hp S.devices, filter_of_imp hp T.devices, h.devices]

/-- The rows of one device of the organization, in a table where the databases agree. -/
theorem Agree.attached (h : Agree org user S T) {ρ : Type} (deviceId : ρ → Uuid) {m n : Multiset ρ}
    (htable : (m.filter fun r => deviceId r ∈ ownIds org S) =
      n.filter fun r => deviceId r ∈ ownIds org T)
    (hd : d ∈ ownIds org S) : (m.filter fun r => deviceId r = d) = n.filter fun r => deviceId r = d := by
  have hS : ∀ r, deviceId r = d → deviceId r ∈ ownIds org S := by
    intro r hr
    rw [hr]
    exact hd
  have hT : ∀ r, deviceId r = d → deviceId r ∈ ownIds org T := by
    intro r hr
    rw [← h.ownIds_eq]
    exact hS r hr
  rw [filter_of_imp hS m, filter_of_imp hT n, htable]

/-! ## The devices -/

/-- `GET /devices`. -/
theorem listDevices_eq (h : Agree org user S T) (skip limit : Int) (tag search : Option String) :
    listDevices E Q org skip limit tag search S = listDevices E Q org skip limit tag search T := by
  have hown : ∀ r, listed Q org tag search r = true → r.orgId = some org := by
    intro r hr
    rw [listed, Bool.and_eq_true, Bool.and_eq_true, Bool.and_eq_true, beq_iff_eq] at hr
    exact hr.1.1.2
  rw [listDevices, h.select hown]
  refine bind_congr_ok fun _ _ => bind_congr_ok fun devices hdevices => ?_
  have hbodies : devices.map (deviceBody E S.connected) = devices.map (deviceBody E T.connected) := by
    apply List.map_congr_left
    intro r hr
    have hmem := Q.mem_rows.mp (mem_of_page hdevices hr)
    obtain ⟨hin, hlisted⟩ := Multiset.mem_filter.mp hmem
    have hid : r.id ∈ ownIds org S := h.ownIds_eq ▸ mem_ownIds hin (hown r hlisted)
    unfold deviceBody
    rw [h.connected r.id hid]
  rw [hbodies]

/-- `GET /devices/{id}`. -/
theorem getDevice_eq (h : Agree org user S T) (d : Uuid) :
    getDevice E Q org d S = getDevice E Q org d T := by
  rw [getDevice, h.select (p := fun r => r.id = d ∧ r.orgId = some org) fun r hr => hr.2]
  refine bind_congr_ok fun device hdevice => ?_
  cases device with
  | none => rfl
  | some r =>
    have hmem := Queries.mem_of_one hdevice
    obtain ⟨hin, -, horg⟩ := Multiset.mem_filter.mp hmem
    have hid : r.id ∈ ownIds org S := h.ownIds_eq ▸ mem_ownIds hin horg
    show pure _ = pure _
    unfold deviceBody
    rw [h.connected r.id hid]

/-- `_get_device_for_org`. -/
theorem getDeviceForOrg_eq (h : Agree org user S T) (d : Uuid) :
    getDeviceForOrg Q org d S = getDeviceForOrg Q org d T := by
  unfold getDeviceForOrg
  rw [h.select (p := fun r => r.id = d ∧ r.orgId = some org ∧ r.isRevoked = false)
    fun r hr => hr.2.1]

/-- The device of `_get_device_for_org` is one of the organization. -/
theorem getDeviceForOrg_ok {r : DeviceRow} (h : getDeviceForOrg Q org d T = .ok r) :
    d ∈ ownIds org T := by
  obtain ⟨device, hdevice, h⟩ := ok_of_except_bind h
  cases device with
  | none => cases h
  | some r' =>
    obtain ⟨hin, rfl, horg, -⟩ := Multiset.mem_filter.mp (Queries.mem_of_one hdevice)
    exact mem_ownIds hin horg

/-! ## What belongs to them -/

/-- `GET /devices/{id}/network`. -/
theorem getDeviceNetwork_eq (h : Agree org user S T) (d : Uuid) :
    getDeviceNetwork E Q org d S = getDeviceNetwork E Q org d T := by
  rw [getDeviceNetwork, getDeviceForOrg_eq h]
  refine bind_congr_ok fun r hr => ?_
  have hd : d ∈ ownIds org S := h.ownIds_eq ▸ getDeviceForOrg_ok hr
  have hrows : (S.network.filter fun r => r.deviceId = d) = T.network.filter fun r => r.deviceId = d :=
    h.attached _ h.network hd
  rw [hrows]

/-- `GET /devices/{id}/commands`. -/
theorem listCommands_eq (h : Agree org user S T) (d : Uuid) (skip limit : Int) :
    listCommands E Q org d skip limit S = listCommands E Q org d skip limit T := by
  rw [listCommands, getDeviceForOrg_eq h]
  refine bind_congr_ok fun r hr => ?_
  have hd : d ∈ ownIds org S := h.ownIds_eq ▸ getDeviceForOrg_ok hr
  have hrows : (S.commands.filter fun r => r.deviceId = d) =
      T.commands.filter fun r => r.deviceId = d := h.attached _ h.commands hd
  rw [hrows]

/-- The join has an alert only where it is of a device of the organization. -/
theorem joined_eq (h : Agree org user S T) (p : Alert → Bool) : joined org p S = joined org p T := by
  have hnone : ∀ (U : Tables), joined org p U =
      (U.alerts.filter fun a => a.deviceId ∈ ownIds org U).bind fun a =>
        (U.devices.filter fun r => r.id = a.deviceId ∧ r.orgId = some org ∧ p a = true).map
          fun _ => a := by
    intro U
    rw [Multiset.bind_filter]
    apply Multiset.bind_congr
    intro a _
    split
    · rfl
    · rename_i hout
      rw [Multiset.map_eq_zero, Multiset.filter_eq_nil]
      exact fun r hr hjoin => hout (hjoin.1 ▸ mem_ownIds hr hjoin.2.1)
  rw [hnone S, hnone T, h.alerts]
  apply Multiset.bind_congr
  intro a _
  rw [h.select (p := fun r => r.id = a.deviceId ∧ r.orgId = some org ∧ p a = true)
    fun r hr => hr.2.1]

/-- `GET /alerts`. -/
theorem listAlerts_eq (h : Agree org user S T) (device : Option Uuid) (resolved : Option Bool)
    (severity : Option String) (skip limit : Int) :
    listAlerts E Q org device resolved severity skip limit S =
      listAlerts E Q org device resolved severity skip limit T := by
  unfold listAlerts
  rw [joined_eq h]

/-- By the primary key there is one command with an id, or none. -/
theorem one_command (T : Tables) (c : Uuid) :
    (Q.one (T.commands.filter fun r => r.id = c) = .ok none ∧ ∀ r ∈ T.commands, r.id ≠ c) ∨
      ∃ r, r ∈ T.commands ∧ r.id = c ∧
        Q.one (T.commands.filter fun r => r.id = c) = .ok (some r) ∧
        ∀ r' ∈ T.commands, r'.id = c → r' = r := by
  have hrows := Q.coe_rows (T.commands.filter fun r => r.id = c)
  have hmem : ∀ r, r ∈ Q.rows (T.commands.filter fun r => r.id = c) ↔ r ∈ T.commands ∧ r.id = c :=
    fun r => Q.mem_rows.trans Multiset.mem_filter
  rw [Queries.one]
  rcases hlist : Q.rows (T.commands.filter fun r => r.id = c) with _ | ⟨r, _ | ⟨r', rest⟩⟩
  · rw [hlist] at hmem ⊢
    exact .inl ⟨rfl, fun r hr hid => List.not_mem_nil ((hmem r).mpr ⟨hr, hid⟩)⟩
  · rw [hlist] at hmem ⊢
    obtain ⟨hr, hid⟩ := (hmem r).mp (List.mem_singleton_self r)
    refine .inr ⟨r, hr, hid, rfl, fun r' hr' hid' => ?_⟩
    exact List.mem_singleton.mp ((hmem r').mpr ⟨hr', hid'⟩)
  · -- two rows would have one id
    have hle : (T.commands.filter fun r => r.id = c) ≤ T.commands := Multiset.filter_le _ _
    have hnodup := Multiset.nodup_of_le (Multiset.map_le_map hle) T.commandsKey
    rw [hlist] at hmem hrows
    rw [← hrows] at hnodup
    have hr := ((hmem r).mp List.mem_cons_self).2
    have hr' := ((hmem r').mp (List.mem_cons_of_mem _ List.mem_cons_self)).2
    have hlist' : (r.id :: r'.id :: rest.map fun r => r.id).Nodup := hnodup
    rw [hr, hr'] at hlist'
    exact absurd List.mem_cons_self (List.nodup_cons.mp hlist').1

/-- Whether the command is found depends on the commands of the device only. -/
theorem findCommand_run (T : Tables) (d c : Uuid) :
    (∃ r, r ∈ T.commands ∧ r.id = c ∧ r.deviceId = d ∧ findCommand Q d c T = .ok r) ∨
    ((∀ r ∈ T.commands, r.id = c → r.deviceId ≠ d) ∧
      ∃ detail, findCommand Q d c T = .error (.http 404 detail)) := by
  rw [findCommand]
  rcases one_command (Q := Q) T c with ⟨hone, hnone⟩ | ⟨r, hr, hid, hone, honly⟩
  · rw [hone]
    exact .inr ⟨fun r hr hid => absurd hid (hnone r hr), _, rfl⟩
  · rw [hone]
    by_cases hdevice : r.deviceId = d
    · exact .inl ⟨r, hr, hid, hdevice, if_pos hdevice⟩
    · refine .inr ⟨fun r' hr' hid' => ?_, _, if_neg hdevice⟩
      rw [honly r' hr' hid']
      exact hdevice

/-- A command of a device of the organization is found in both, or missing in both. -/
theorem findCommand_alike (h : Agree org user S T) (hd : d ∈ ownIds org S) (c : Uuid) :
    (∃ r, findCommand Q d c S = .ok r ∧ findCommand Q d c T = .ok r) ∨
      ∃ x y, findCommand Q d c S = .error (.http 404 x) ∧ findCommand Q d c T = .error (.http 404 y) := by
  have hrows : (S.commands.filter fun r => r.deviceId = d) =
      T.commands.filter fun r => r.deviceId = d := h.attached _ h.commands hd
  have hmem : ∀ r, r.deviceId = d → (r ∈ S.commands ↔ r ∈ T.commands) := by
    intro r hr
    have hboth : r ∈ (S.commands.filter fun r => r.deviceId = d) ↔
        r ∈ T.commands.filter fun r => r.deviceId = d := by rw [hrows]
    rw [Multiset.mem_filter, Multiset.mem_filter] at hboth
    exact ⟨fun hS => (hboth.mp ⟨hS, hr⟩).1, fun hT => (hboth.mpr ⟨hT, hr⟩).1⟩
  rcases findCommand_run (Q := Q) S d c with ⟨r, hr, hid, hdevice, hS⟩ | ⟨hnone, x, hS⟩
  · rcases findCommand_run (Q := Q) T d c with ⟨r', hr', hid', hdevice', hT⟩ | ⟨hnone', y, hT⟩
    · rcases one_command (Q := Q) S c with ⟨-, hno⟩ | ⟨r₀, -, -, -, honly⟩
      · exact absurd hid (hno r hr)
      · have hr₀ := honly r hr hid
        have hr₀' := honly r' ((hmem r' hdevice').mpr hr') hid'
        rw [hr₀'] at hT
        rw [hr₀] at hS
        exact .inl ⟨r₀, hS, hT⟩
    · exact absurd hdevice (hnone' r ((hmem r hdevice).mp hr) hid)
  · rcases findCommand_run (Q := Q) T d c with ⟨r', hr', hid', hdevice', -⟩ | ⟨-, y, hT⟩
    · exact absurd hdevice' (hnone r' ((hmem r' hdevice').mpr hr') hid')
    · exact .inr ⟨x, y, hS, hT⟩

/-- `GET /devices/{id}/commands/{command_id}`. -/
theorem getCommand_alike (h : Agree org user S T) (d c : Uuid) :
    Alike (getCommand E Q org d c S) (getCommand E Q org d c T) := by
  rw [getCommand, getDeviceForOrg_eq h]
  refine bind_alike fun r hr => ?_
  have hd : d ∈ ownIds org S := h.ownIds_eq ▸ getDeviceForOrg_ok hr
  rcases findCommand_alike (Q := Q) h hd c with ⟨command, hS, hT⟩ | ⟨x, y, hS, hT⟩
  · rw [hS, hT]
    exact .of_eq rfl
  · rw [hS, hT]
    exact ⟨rfl, fun a => ⟨fun hx => (nomatch hx), fun hy => (nomatch hy)⟩⟩

/-- The reads of an organization are answered alike by databases that agree on it. -/
theorem read_alike (h : Agree org user S T) (request : Request) :
    Alike (read E Q org request S) (read E Q org request T) := by
  cases request with
  | listDevices skip limit tag search => exact .of_eq (listDevices_eq h skip limit tag search)
  | getDevice d => exact .of_eq (getDevice_eq h d)
  | getDeviceNetwork d => exact .of_eq (getDeviceNetwork_eq h d)
  | listAlerts device resolved severity skip limit =>
    exact .of_eq (listAlerts_eq h device resolved severity skip limit)
  | listCommands d skip limit => exact .of_eq (listCommands_eq h d skip limit)
  | getCommand d c => exact getCommand_alike h d c

end

/-! ## Requests with their token -/

section

variable {E Q A v} {org : Uuid} {token : τ} {payload : Accounts.Claims} {S T : Tables}

/-- A user whose token carries the organization gets the same answer to a read from all databases
    that agree on the user's row and on the organization's devices with what belongs to them.

    No condition: every query of these endpoints starts from the organization of the token, or from a device that
    does.  The order of a query is the database's, and may look at no other rows than those the query selects. -/
theorem reads_alike (hdecode : Accounts.decodeToken A v token = some payload)
    (horg : payload.orgId = some org) (h : Agree org payload.sub S T) (request : Request) :
    Alike (serve E Q A v (some token) request S) (serve E Q A v (some token) request T) := by
  have hactive : Accounts.activeUsers payload.sub S.accounts =
      Accounts.activeUsers payload.sub T.accounts := by
    have hfilter : ∀ s : Accounts, Accounts.activeUsers payload.sub s =
        (s.users.filter fun u => u.id == payload.sub).filter fun u => u.isActive := by
      intro s
      rw [List.filter_filter]
      exact List.filter_congr fun u _ => Bool.and_comm ..
    rw [hfilter, hfilter, h.user]
  unfold serve
  rw [Accounts.getCurrentUser_congr hdecode hactive, Accounts.getCurrentOrgId_decoded hdecode horg,
    Accounts.getCurrentOrgId_decoded hdecode horg]
  refine bind_alike fun user _ => bind_alike fun org' horg' => ?_
  split at horg'
  · cases horg'
    exact read_alike h request
  · cases horg'

end

/-! ## One organization, and a second one beside it -/

/-- Alice's device. -/
def ownDevice : DeviceRow := { Device.sample 5 with orgId := some 1, enrolledAt := 0 }

/-- A device of another organization, and a command of it. -/
def foreignDevice : DeviceRow := { Device.sample 6 with orgId := some 2, enrolledAt := 0 }

/-- A command of a device of another organization. -/
def foreignCommand : CommandRow where
  id := 8
  deviceId := 6
  issuedBy := none
  commandType := "reboot"
  payload := []
  status := .pending
  createdAt := 0
  startedAt := none
  completedAt := none
  exitCode := .null
  output := .null

/-- The database with the device of one organization. -/
def alone : Tables where
  accounts := ⟨[.sample 1 "alice" "viewer"], [], [], []⟩
  devices := {ownDevice}
  network := 0
  alerts := 0
  commands := 0
  connected := fun d => d == 5
  commandsKey := Multiset.nodup_zero

/-- The same database with those of another organization. -/
def shared : Tables where
  accounts := ⟨[.sample 1 "alice" "viewer", .sample 2 "bob" "viewer"], [], [], []⟩
  devices := {ownDevice, foreignDevice}
  network := 0
  alerts := {⟨9, 6, .highCpu, .warning, "CPU usage", false, 0, none⟩}
  commands := {foreignCommand}
  connected := fun d => d == 5 || d == 6
  commandsKey := Multiset.nodup_singleton _

theorem agree_alone_shared : Agree 1 1 alone shared := by
  refine ⟨rfl, rfl, rfl, rfl, rfl, fun d hd => ?_⟩
  have hone : ownIds 1 alone = {5} := rfl
  rw [hone] at hd
  obtain rfl := Multiset.mem_singleton.mp hd
  rfl

/-- Some order of the rows. -/
noncomputable def anyOrder : Queries where
  rows := Multiset.toList
  coe_rows := Multiset.coe_toList
  ilike _ pattern := pattern == "%%"
  before a b := decide (a ≤ b)

/-- Alice asks for the other organization's command under her own device. -/
theorem foreign_command_unseen :
    Alike
      (serve Env.sample anyOrder .sample (0 : ℚ) (some { Accounts.Claims.accessOf 1 with orgId := some 1 })
        (.getCommand 5 8) alone)
      (serve Env.sample anyOrder .sample (0 : ℚ) (some { Accounts.Claims.accessOf 1 with orgId := some 1 })
        (.getCommand 5 8) shared) := by
  have hdecode : Accounts.decodeToken Accounts.AuthEnv.sample (0 : ℚ)
      { Accounts.Claims.accessOf 1 with orgId := some 1 } =
        some { Accounts.Claims.accessOf 1 with orgId := some 1 } := by decide +kernel
  exact reads_alike hdecode rfl agree_alone_shared _

end Reads

end Dtsys
