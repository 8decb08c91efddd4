/-
  THE RESOURCES OF AN ORGANIZATION: groups and their devices (`app/api/v1/groups.py`), schedules
  (`scheduled_commands.py`), notification rules (`notification_rules.py`), and the request that
  resolves an alert (`alerts.py`).

  A request is one transaction: it returns, and the tables are as it has left them, or it raises and
  they are as they were.  What the request depends on is said where it is served (`serve`): all of
  them on a user, some on an administrator, and SOME on the organization of the token.

  * A constraint of the database (`uq_device_group_org_name`, `uq_group_device`, a foreign key, a
    column's type) is the error `PyErr.db`.
  * The ids of new rows are `Call.drawn`.
-/
import Dtsys.Server.Reads
import Dtsys.Server.Scheduler

namespace Dtsys

/-! ## Tables -/

/-- `app/models/device_group.py`. -/
structure DeviceGroup where
  id : Uuid
  orgId : Uuid
  name : String
  description : Option String
  color : String
  createdAt : Nat
  createdBy : Option Uuid
  deriving DecidableEq

/-- `app/models/device_group.py`. -/
structure DeviceGroupMembership where
  id : Uuid
  groupId : Uuid
  deviceId : Uuid
  deriving DecidableEq

/-- `app/models/notification_rule.py`, with the columns only the requests read. -/
structure RuleRow extends NotificationRule where
  id : Uuid
  createdAt : Nat

/-- The tables of the requests. -/
structure Resources where
  accounts : Accounts
  devices : List DeviceRow
  groups : List DeviceGroup
  memberships : List DeviceGroupMembership
  schedules : List ScheduledCommand
  rules : List RuleRow
  alerts : List Alert

/-! ## Bodies of requests -/

/-- `GroupRequest`. -/
structure GroupBody where
  name : String
  description : Option String
  color : String

/-- `GroupUpdateRequest`. -/
structure GroupPatch where
  name : Patch String
  description : Patch String
  color : Patch String

/-- `NotificationRuleRequest`. -/
structure RuleBody where
  alertType : String
  severityMin : String
  channel : String
  webhookUrl : Option String
  emailAddress : Option String
  isEnabled : Bool

/-- `NotificationRuleUpdateRequest`. -/
structure RulePatch where
  alertType : Patch String
  severityMin : Patch String
  channel : Patch String
  webhookUrl : Patch String
  emailAddress : Patch String
  isEnabled : Patch Bool

/-- What a request returns. -/
inductive Reply
  | message (text : String)
  | detail (text : String)
  | groups (rows : List (DeviceGroup × Nat))
  | group (row : DeviceGroup)
  | groupDevices (rows : List DeviceRow)
  | deviceGroups (rows : List DeviceGroup)
  | schedules (rows : List ScheduledCommand)
  | schedule (row : ScheduledCommand)
  | rules (rows : List RuleRow)
  | rule (row : RuleRow)
  | alert (row : Alert)

namespace Resources

open Reads

variable (E : Env) (C : Cron) (Q : Queries)

/-! ## Bodies of answers -/

/-- The fields of a group in an answer. -/
def groupBody (g : DeviceGroup) : List (String × Json) :=
  [("id", .str g.id.str), ("name", .str g.name), ("description", optionalText g.description),
    ("color", .str g.color)]

/-- A device in `list_group_devices`. -/
def memberBody (d : DeviceRow) : Json :=
  .obj [("id", .str d.id.str), ("hostname", .str d.hostname), ("label", optionalText d.label),
    ("status", .str d.status.value), ("os_type", .str d.osType),
    ("os_version", optionalText d.osVersion), ("arch", optionalText d.arch),
    ("ip_address", optionalText d.ipAddress), ("last_seen", optionalTime E d.lastSeen),
    ("enrolled_at", .str (E.isoformat d.enrolledAt)), ("notes", optionalText d.notes),
    ("tags", .arr ((d.tags.getD []).map Json.str)), ("is_online", .bool false)]

/-- `_fmt_scheduled_command`. -/
def scheduleBody (s : ScheduledCommand) : Json :=
  .obj [("id", .str s.id.str), ("device_id", optionalText (s.deviceId.map Uuid.str)),
    ("command_type", .str s.commandType), ("payload", (s.payload.map Json.obj).getD .null),
    ("cron_expression", .str s.cronExpression), ("is_enabled", .bool s.isEnabled),
    ("last_run_at", optionalTime E s.lastRunAt), ("next_run_at", optionalTime E s.nextRunAt),
    ("created_by", optionalText (s.createdBy.map Uuid.str)),
    ("created_at", .str (E.isoformat s.createdAt))]

/-- `_fmt_rule`. -/
def ruleBody (r : RuleRow) : Json :=
  .obj [("id", .str r.id.str), ("alert_type", .str r.alertType),
    ("severity_min", .str r.severityMin), ("channel", .str r.channel),
    ("webhook_url", optionalText r.webhookUrl), ("email_address", optionalText r.emailAddress),
    ("is_enabled", .bool r.isEnabled), ("created_at", .str (E.isoformat r.createdAt))]

/-- The JSON of a reply. -/
def replyBody : Reply → Json
  | .message text => .obj [("message", .str text)]
  | .detail text => .obj [("detail", .str text)]
  | .groups rows => .arr (rows.map fun p => .obj (groupBody p.1 ++
      [("member_count", .int p.2), ("created_at", .str (E.isoformat p.1.createdAt))]))
  | .group row => .obj (groupBody row ++ [("member_count", .int 0)])
  | .groupDevices rows => .arr (rows.map (memberBody E))
  | .deviceGroups rows => .arr (rows.map fun g => .obj (groupBody g))
  | .schedules rows => .arr (rows.map (scheduleBody E))
  | .schedule row => scheduleBody E row
  | .rules rows => .arr (rows.map (ruleBody E))
  | .rule row => ruleBody E row
  | .alert row => alertBody E row

/-! ## Groups -/

/-- `db.get(DeviceGroup, id)`. -/
def getGroup (g : Uuid) (R : Resources) : Option DeviceGroup := R.groups.find? fun x => x.id == g

/-- The columns of a group are accepted. -/
def groupAccepted (g : DeviceGroup) : Bool :=
  E.driver.accepts (required (.string 120)) (.str g.name) &&
    E.driver.accepts (nullable (.string 500)) (optionalText g.description) &&
    E.driver.accepts (required (.string 16)) (.str g.color)

/-- `uq_device_group_org_name`, beside the row itself. -/
def nameTaken (g : DeviceGroup) (R : Resources) : Bool :=
  R.groups.any fun x => x.id != g.id && x.orgId == g.orgId && x.name == g.name

/-- There is an organization with this id. -/
def organization (org : Uuid) (R : Resources) : Bool :=
  R.accounts.organizations.any fun o => o.id == org

/-- GET `/groups`. -/
def listGroups (org : Uuid) (R : Resources) : Except PyErr (Reply × Resources) :=
  let rows := Q.orderBy (fun a b => Q.before a.name b.name) (R.groups.filter fun g => g.orgId == org)
  .ok (.groups (rows.map fun g => (g, R.memberships.countP fun m => m.groupId == g.id)), R)

/-- POST `/groups`. -/
def createGroup (org user : Uuid) (now : Nat) (body : GroupBody) (id : Uuid) (R : Resources) :
    Except PyErr (Reply × Resources) :=
  let group : DeviceGroup :=
    { id, orgId := org, name := body.name, description := body.description, color := body.color,
      createdAt := now, createdBy := some user }
  if (R.groups.any fun x => x.id == id) || !organization org R || nameTaken group R ||
      !groupAccepted E group then .error .db
  else .ok (.group group, { R with groups := R.groups ++ [group] })

/-- The attributes a PATCH body sets. -/
def GroupPatch.apply (p : GroupPatch) (g : DeviceGroup) : Except PyErr DeviceGroup := do
  let name ← p.name.required g.name
  let color ← p.color.required g.color
  pure { g with name, description := p.description.optional g.description, color }

/-- PATCH `/groups/{group_id}`. -/
def updateGroup (g : Uuid) (patch : GroupPatch) (R : Resources) : Except PyErr (Reply × Resources) :=
  match getGroup g R with
  | none => .error (.http 404 "Group not found")
  | some group => do
    let updated ← GroupPatch.apply patch group
    if nameTaken updated R || !groupAccepted E updated then .error .db
    else .ok (.message "Updated",
      { R with groups := R.groups.map fun x => if x.id = g then updated else x })

/-- DELETE `/groups/{group_id}`; the memberships go with the group. -/
def deleteGroup (g : Uuid) (R : Resources) : Except PyErr (Reply × Resources) :=
  match getGroup g R with
  | none => .error (.http 404 "Group not found")
  | some _ => .ok (.message "Deleted",
      { R with
        groups := R.groups.filter fun x => x.id != g
        memberships := R.memberships.filter fun m => m.groupId != g })

/-- The devices of the body that are not in the group yet. -/
def missing (g : Uuid) (ids : List Uuid) (R : Resources) : List Uuid :=
  ids.filter fun d => !R.memberships.any fun m => m.groupId == g && m.deviceId == d

/-- The new rows of `add_devices_to_group`. -/
def newMemberships (drawn : Nat → Uuid) (g : Uuid) (ids : List Uuid) : List DeviceGroupMembership :=
  ids.mapIdx fun i d => { id := drawn i, groupId := g, deviceId := d }

/-- The INSERTs go through: the devices are there, nobody is added twice, and the ids are new. -/
def insertable (drawn : Nat → Uuid) (g : Uuid) (ids : List Uuid) (R : Resources) : Prop :=
  (∀ d ∈ missing g ids R, d ∈ R.devices.map fun r => r.id) ∧ (missing g ids R).Nodup ∧
    ((R.memberships ++ newMemberships drawn g (missing g ids R)).map fun m => m.id).Nodup

instance (drawn : Nat → Uuid) (g : Uuid) (ids : List Uuid) (R : Resources) :
    Decidable (insertable drawn g ids R) := inferInstanceAs (Decidable (_ ∧ _ ∧ _))

/-- POST `/groups/{group_id}/devices`. -/
def addDevicesToGroup (drawn : Nat → Uuid) (g : Uuid) (ids : List Uuid) (R : Resources) :
    Except PyErr (Reply × Resources) :=
  match getGroup g R with
  | none => .error (.http 404 "Group not found")
  | some _ =>
    if insertable drawn g ids R then
      .ok (.message "Devices added",
        { R with memberships := R.memberships ++ newMemberships drawn g (missing g ids R) })
    else .error .db

/-- DELETE `/groups/{group_id}/devices/{device_id}`. -/
def removeDeviceFromGroup (g d : Uuid) (R : Resources) : Except PyErr (Reply × Resources) := do
  let membership ← Accounts.oneOrNone (R.memberships.filter fun m => m.groupId == g && m.deviceId == d)
  match membership with
  | none => .error (.http 404 "Membership not found")
  | some membership =>
    .ok (.message "Removed",
      { R with memberships := R.memberships.filter fun m => m.id != membership.id })

/-- The devices of the memberships of a group. -/
def groupDevices (g : Uuid) (R : Resources) : List DeviceRow :=
  (R.memberships.filter fun m => m.groupId == g).flatMap fun m =>
    R.devices.filter fun r => r.id == m.deviceId

/-- GET `/groups/{group_id}/devices`. -/
def listGroupDevices (g : Uuid) (R : Resources) : Except PyErr (Reply × Resources) :=
  .ok (.groupDevices (Q.orderBy (fun a b => Q.before a.hostname b.hostname) (groupDevices g R)), R)

/-- The groups of the memberships of a device. -/
def deviceGroups (d : Uuid) (R : Resources) : List DeviceGroup :=
  (R.memberships.filter fun m => m.deviceId == d).flatMap fun m =>
    R.groups.filter fun g => g.id == m.groupId

/-- GET `/groups/device/{device_id}`. -/
def listDeviceGroups (d : Uuid) (R : Resources) : Except PyErr (Reply × Resources) :=
  .ok (.deviceGroups (Q.orderBy (fun a b => Q.before a.name b.name) (deviceGroups d R)), R)

/-! ## Schedules -/

/-- GET `/scheduled-commands`. -/
def listSchedules (org : Uuid) (R : Resources) : Except PyErr (Reply × Resources) :=
  .ok (.schedules (Q.orderBy (fun a b => decide (b.createdAt ≤ a.createdAt))
    (R.schedules.filter fun s => s.orgId == org)), R)

/-- The organizations and devices a schedule can reference. -/
def orgIds (R : Resources) : List Uuid := R.accounts.organizations.map fun o => o.id

/-- The devices as the other modules have them. -/
def deviceList (R : Resources) : List Device := R.devices.map fun r => r.toDevice

/-- POST `/scheduled-commands`. -/
def createSchedule (org user : Uuid) (now : Nat) (body : ScheduleBody) (id : Uuid) (R : Resources) :
    Except PyErr (Reply × Resources) := do
  let (scheduled, schedules) ← Scheduler.createScheduledCommand E C R.orgIds R.deviceList now org
    user body id R.schedules
  .ok (.schedule scheduled, { R with schedules })

/-- PATCH `/scheduled-commands/{id}`. -/
def updateSchedule (now : Nat) (id : Uuid) (patch : SchedulePatch) (R : Resources) :
    Except PyErr (Reply × Resources) := do
  let (updated, schedules) ← Scheduler.updateScheduledCommand E C R.orgIds R.deviceList now id patch
    R.schedules
  match updated with
  | none => .ok (.detail "Scheduled command not found", R)
  | some updated => .ok (.schedule updated, { R with schedules })

/-- DELETE `/scheduled-commands/{id}`. -/
def deleteSchedule (id : Uuid) (R : Resources) : Except PyErr (Reply × Resources) :=
  match Scheduler.deleteScheduledCommand id R.schedules with
  | (true, schedules) => .ok (.message "Deleted", { R with schedules })
  | (false, _) => .ok (.detail "Scheduled command not found", R)

/-! ## Notification rules -/

/-- GET `/notification-rules`. -/
def listRules (org : Uuid) (R : Resources) : Except PyErr (Reply × Resources) :=
  .ok (.rules (Q.orderBy (fun a b => decide (b.createdAt ≤ a.createdAt))
    (R.rules.filter fun r => r.orgId == org)), R)

/-- The columns of a rule are accepted. -/
def ruleAccepted (r : RuleRow) : Bool :=
  E.driver.accepts (required (.string 50)) (.str r.alertType) &&
    E.driver.accepts (required (.string 20)) (.str r.severityMin) &&
    E.driver.accepts (required (.string 20)) (.str r.channel) &&
    E.driver.accepts (nullable (.string 500)) (optionalText r.webhookUrl) &&
    E.driver.accepts (nullable (.string 255)) (optionalText r.emailAddress)

/-- `validate_target`. -/
def RuleBody.hasTarget (body : RuleBody) : Bool :=
  (body.channel != "webhook" || (body.webhookUrl.filter (· ≠ "")).isSome) &&
    (body.channel != "email" || (body.emailAddress.filter (· ≠ "")).isSome)

/-- POST `/notification-rules`. -/
def createRule (org : Uuid) (now : Nat) (body : RuleBody) (id : Uuid) (R : Resources) :
    Except PyErr (Reply × Resources) :=
  let rule : RuleRow :=
    { orgId := org, alertType := body.alertType, severityMin := body.severityMin,
      channel := body.channel, webhookUrl := body.webhookUrl, emailAddress := body.emailAddress,
      isEnabled := body.isEnabled, id, createdAt := now }
  if RuleBody.hasTarget body = false then .error (.http 422 "")
  else if (R.rules.any fun x => x.id == id) || !organization org R || !ruleAccepted E rule then
    .error .db
  else .ok (.rule rule, { R with rules := R.rules ++ [rule] })

/-- The attributes a PATCH body sets. -/
def RulePatch.apply (p : RulePatch) (r : RuleRow) : Except PyErr RuleRow := do
  let alertType ← p.alertType.required r.alertType
  let severityMin ← p.severityMin.required r.severityMin
  let channel ← p.channel.required r.channel
  let isEnabled ← p.isEnabled.required r.isEnabled
  pure { r with
    alertType, severityMin, channel, isEnabled
    webhookUrl := p.webhookUrl.optional r.webhookUrl
    emailAddress := p.emailAddress.optional r.emailAddress }

/-- `db.get(NotificationRule, id)`. -/
def getRule (id : Uuid) (R : Resources) : Option RuleRow := R.rules.find? fun r => r.id == id

/-- PATCH `/notification-rules/{rule_id}`. -/
def updateRule (id : Uuid) (patch : RulePatch) (R : Resources) : Except PyErr (Reply × Resources) :=
  match getRule id R with
  | none => .ok (.detail "Notification rule not found", R)
  | some rule => do
    let updated ← RulePatch.apply patch rule
    if ruleAccepted E updated then
      .ok (.rule updated, { R with rules := R.rules.map fun r => if r.id = id then updated else r })
    else .error .db

/-! ## Alerts -/

/-- POST `/alerts/{alert_id}/resolve`; of an alert that is not there it asks for `device_id`. -/
def resolveAlert (org : Uuid) (now : Nat) (id : Uuid) (R : Resources) :
    Except PyErr (Reply × Resources) := do
  let alert ← Accounts.oneOrNone (R.alerts.filter fun a => a.id == id)
  match alert with
  | none => .error .attributeError
  | some alert => do
    let resolved : Alert := { alert with isResolved := true, resolvedAt := some now }
    let device ← Accounts.oneOrNone
      (R.devices.filter fun r => r.id == resolved.deviceId && r.orgId == some org)
    match device with
    | none => .error (.http 404 "Alert not found")
    | some _ => .ok (.alert resolved,
        { R with alerts := R.alerts.map fun a => if a.id = id then resolved else a })

end Resources

end Dtsys
