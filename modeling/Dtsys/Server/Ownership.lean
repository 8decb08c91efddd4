/-
  WHOSE ROWS a request of `Resources` may touch: the requests with their dependencies, the rows of
  the other organizations, and what it means that a request is isolated from them.

  A request is ISOLATED (`Isolated`) when

  * it leaves the rows of other organizations as they are,
  * it returns none of them, and
  * an id of another organization's row in it works as an id that does not exist.

  The last one compares two runs: the ids of the request that belong to others are replaced by ids
  no row has (`Hides`), and the outcome is the same.

  A device that is in no organization is nobody's: `foreign` does not count it.
-/
import Dtsys.Server.Resources

namespace Dtsys

namespace Resources

/-! ## Requests -/

/-- The requests of the four routers, with the ids and the bodies they carry. -/
inductive Request
  | listGroups
  | createGroup (body : GroupBody)
  | updateGroup (g : Uuid) (patch : GroupPatch)
  | deleteGroup (g : Uuid)
  | addDevicesToGroup (g : Uuid) (ids : List Uuid)
  | removeDeviceFromGroup (g d : Uuid)
  | listGroupDevices (g : Uuid)
  | listDeviceGroups (d : Uuid)
  | listSchedules
  | createSchedule (body : ScheduleBody)
  | updateSchedule (id : Uuid) (patch : SchedulePatch)
  | deleteSchedule (id : Uuid)
  | listRules
  | createRule (body : RuleBody)
  | updateRule (id : Uuid) (patch : RulePatch)
  | resolveAlert (id : Uuid)

/-- `require_admin`; the others have `get_current_user`. -/
def Request.adminOnly : Request → Bool
  | .listGroups | .listGroupDevices _ | .listDeviceGroups _ | .resolveAlert _ => false
  | _ => true

/-- What comes with a request: the time its token is judged at, the time it stores, its token, and
    the ids of new rows. -/
structure Call (τ K : Type) where
  time : K
  now : Nat
  credentials : Option τ
  drawn : Nat → Uuid

section

variable (E : Env) (C : Cron) (Q : Queries)

/-- The handlers; `org` is `get_current_org_id`, for those that depend on it. -/
def handle (user : Uuid) (org : Except PyErr Uuid) (now : Nat) (drawn : Nat → Uuid) :
    Request → Resources → Except PyErr (Reply × Resources)
  | .listGroups, R => org >>= fun org => listGroups Q org R
  | .createGroup body, R => org >>= fun org => createGroup E org user now body (drawn 0) R
  | .updateGroup g patch, R => updateGroup E g patch R
  | .deleteGroup g, R => deleteGroup g R
  | .addDevicesToGroup g ids, R => addDevicesToGroup drawn g ids R
  | .removeDeviceFromGroup g d, R => removeDeviceFromGroup g d R
  | .listGroupDevices g, R => listGroupDevices Q g R
  | .listDeviceGroups d, R => listDeviceGroups Q d R
  | .listSchedules, R => org >>= fun org => listSchedules Q org R
  | .createSchedule body, R => org >>= fun org => createSchedule E C org user now body (drawn 0) R
  | .updateSchedule id patch, R => updateSchedule E C now id patch R
  | .deleteSchedule id, R => deleteSchedule id R
  | .listRules, R => org >>= fun org => listRules Q org R
  | .createRule body, R => org >>= fun org => createRule E org now body (drawn 0) R
  | .updateRule id patch, R => updateRule E id patch R
  | .resolveAlert id, R => org >>= fun org => resolveAlert org now id R

variable {τ K : Type} [Field K] [LinearOrder K] [FloorRing K] (A : Accounts.AuthEnv τ)

/-- The caller, as far as the request asks for it. -/
def caller (call : Call τ K) (request : Request) (R : Resources) : Except PyErr Accounts.User :=
  if request.adminOnly then (Accounts.requireAdmin A call.time call.credentials R.accounts).1
  else (Accounts.getCurrentUser A call.time call.credentials R.accounts).1

/-- The request, with its dependencies before it. -/
def serve (call : Call τ K) (request : Request) (R : Resources) :
    Except PyErr (Reply × Resources) := do
  let user ← caller A call request R
  handle E C Q user.id (Accounts.getCurrentOrgId A call.time call.credentials R.accounts).1 call.now
    call.drawn request R

/-- The caller's token is accepted, and the role is enough. -/
def Admitted (call : Call τ K) (request : Request) (R : Resources) : Prop :=
  ∃ user, caller A call request R = .ok user

/-! ## Outcomes -/

/-- The tables afterwards: the transaction of a request that raised is rolled back. -/
def settled (R : Resources) : Except PyErr (Reply × Resources) → Resources
  | .ok (_, S) => S
  | .error _ => R

/-- The body of the response, or the status and the detail of the error. -/
def response : Except PyErr (Reply × Resources) → Except (Nat × String) Json
  | .ok (reply, _) => .ok (replyBody E reply)
  | .error (.http status detail) => .error (status, detail)
  | .error _ => .error (500, "Internal Server Error")

end

/-! ## The rows of others -/

section

variable (org : Uuid)

/-- A row with this `org_id` is another organization's. -/
def foreign (orgId : Option Uuid) : Bool := orgId.any fun o => o != org

/-- What has an id. -/
inductive Table where
  | device
  | group
  | schedule
  | rule
  | alert
  deriving DecidableEq

/-- The ids of a table. -/
def ids (R : Resources) : Table → List Uuid
  | .device => R.devices.map fun r => r.id
  | .group => R.groups.map fun g => g.id
  | .schedule => R.schedules.map fun s => s.id
  | .rule => R.rules.map fun r => r.id
  | .alert => R.alerts.map fun a => a.id

/-- The device is there, and of another organization. -/
def ForeignDevice (R : Resources) (d : Uuid) : Prop :=
  ∃ r ∈ R.devices, r.id = d ∧ foreign org r.orgId = true

/-- The group is there, and of another organization. -/
def ForeignGroup (R : Resources) (g : Uuid) : Prop :=
  ∃ x ∈ R.groups, x.id = g ∧ foreign org (some x.orgId) = true

instance (R : Resources) (d : Uuid) : Decidable (ForeignDevice org R d) :=
  inferInstanceAs (Decidable (∃ r ∈ R.devices, _))

instance (R : Resources) (g : Uuid) : Decidable (ForeignGroup org R g) :=
  inferInstanceAs (Decidable (∃ x ∈ R.groups, _))

/-- A membership is another organization's by its group, and by its device. -/
def ForeignMembership (R : Resources) (m : DeviceGroupMembership) : Prop :=
  ForeignGroup org R m.groupId ∨ ForeignDevice org R m.deviceId

instance (R : Resources) (m : DeviceGroupMembership) : Decidable (ForeignMembership org R m) :=
  inferInstanceAs (Decidable (_ ∨ _))

/-- The id is the one of a row of another organization. -/
def Foreign (R : Resources) : Table → Uuid → Prop
  | .device, d => ForeignDevice org R d
  | .group, g => ForeignGroup org R g
  | .schedule, i => ∃ s ∈ R.schedules, s.id = i ∧ foreign org (some s.orgId) = true
  | .rule, i => ∃ r ∈ R.rules, r.id = i ∧ foreign org (some r.orgId) = true
  | .alert, i => ∃ a ∈ R.alerts, a.id = i ∧ ForeignDevice org R a.deviceId

/-- The rows of others are the same. -/
structure Kept (R S : Resources) : Prop where
  groups : (S.groups.filter fun g => foreign org (some g.orgId)) =
    R.groups.filter fun g => foreign org (some g.orgId)
  memberships : (S.memberships.filter fun m => ForeignMembership org S m) =
    R.memberships.filter fun m => ForeignMembership org R m
  schedules : (S.schedules.filter fun s => foreign org (some s.orgId)) =
    R.schedules.filter fun s => foreign org (some s.orgId)
  rules : (S.rules.filter fun r => foreign org (some r.orgId)) =
    R.rules.filter fun r => foreign org (some r.orgId)
  alerts : (S.alerts.filter fun a => ForeignDevice org S a.deviceId) =
    R.alerts.filter fun a => ForeignDevice org R a.deviceId

/-- No row in the reply is another organization's. -/
def Own (R : Resources) : Reply → Prop
  | .message _ | .detail _ => True
  | .groups rows => ∀ p ∈ rows, foreign org (some p.1.orgId) = false
  | .group row => foreign org (some row.orgId) = false
  | .groupDevices rows => ∀ r ∈ rows, foreign org r.orgId = false
  | .deviceGroups rows => ∀ g ∈ rows, foreign org (some g.orgId) = false
  | .schedules rows => ∀ s ∈ rows, foreign org (some s.orgId) = false
  | .schedule row => foreign org (some row.orgId) = false
  | .rules rows => ∀ r ∈ rows, foreign org (some r.orgId) = false
  | .rule row => foreign org (some row.orgId) = false
  | .alert row => ¬ ForeignDevice org R row.deviceId

/-- A value of a PATCH body, changed. -/
def mapPatch {α : Type} (f : α → α) : Patch α → Patch α
  | .unset => .unset
  | .null => .null
  | .set a => .set (f a)

/-- The request with other ids. -/
def Request.rename (ρ : Table → Uuid → Uuid) : Request → Request
  | .updateGroup g patch => .updateGroup (ρ .group g) patch
  | .deleteGroup g => .deleteGroup (ρ .group g)
  | .addDevicesToGroup g ids => .addDevicesToGroup (ρ .group g) (ids.map (ρ .device))
  | .removeDeviceFromGroup g d => .removeDeviceFromGroup (ρ .group g) (ρ .device d)
  | .listGroupDevices g => .listGroupDevices (ρ .group g)
  | .listDeviceGroups d => .listDeviceGroups (ρ .device d)
  | .createSchedule body => .createSchedule { body with deviceId := body.deviceId.map (ρ .device) }
  | .updateSchedule id patch =>
    .updateSchedule (ρ .schedule id) { patch with deviceId := mapPatch (ρ .device) patch.deviceId }
  | .deleteSchedule id => .deleteSchedule (ρ .schedule id)
  | .updateRule id patch => .updateRule (ρ .rule id) patch
  | .resolveAlert id => .resolveAlert (ρ .alert id)
  | request => request

/-- The renaming puts ids no row has for ids of other organizations' rows, and no other id. -/
def Hides (R : Resources) (ρ : Table → Uuid → Uuid) : Prop :=
  ∀ k i, ρ k i = i ∨ (Foreign org R k i ∧ ρ k i ∉ R.ids k)

/-- The request is isolated from the other organizations. -/
structure Isolated (E : Env) (R : Resources) (run : Request → Except PyErr (Reply × Resources))
    (request : Request) : Prop where
  kept : Kept org R (settled R (run request))
  own : ∀ reply S, run request = .ok (reply, S) → Own org R reply
  unseen : ∀ ρ, Hides org R ρ →
    response E (run (request.rename ρ)) = response E (run request) ∧
      settled R (run (request.rename ρ)) = settled R (run request)

/-- What the database has checked: primary keys and the foreign keys of the memberships.  The ids are
    not used up: there is one no row has. -/
structure Valid (R : Resources) : Prop where
  spare : ∃ j, ∀ k, j ∉ R.ids k
  keys : ∀ k, (R.ids k).Nodup
  memberships : (R.memberships.map fun m => m.id).Nodup
  groupIds : ∀ m ∈ R.memberships, m.groupId ∈ R.ids .group
  deviceIds : ∀ m ∈ R.memberships, m.deviceId ∈ R.ids .device

/-! ## When a request stays inside -/

/-- The row POST `/scheduled-commands` adds, apart from what no constraint is about. -/
def scheduleRow (now : Nat) (body : ScheduleBody) (id : Uuid) : ScheduledCommand where
  id := id
  orgId := org
  deviceId := body.deviceId
  commandType := body.commandType
  payload := some body.payload
  cronExpression := body.cronExpression
  isEnabled := body.isEnabled
  lastRunAt := none
  nextRunAt := none
  createdBy := none
  createdAt := now

/-- Nothing is in the way of the new schedule: its times are read, its id is new, and its columns
    are accepted. -/
def Creatable (E : Env) (C : Cron) (R : Resources) (now : Nat) (body : ScheduleBody) (id : Uuid) :
    Prop :=
  (∃ t, C.next body.cronExpression now = .ok t) ∧ id ∉ R.ids .schedule ∧
    Scheduler.storable E R.orgIds R.deviceList (scheduleRow org now body id) = true

/-- Nothing is in the way of the change: there is the schedule, the patch has no `null` for what
    must be there, the times are read, and the columns are accepted. -/
def Updatable (E : Env) (C : Cron) (R : Resources) (now : Nat) (id : Uuid) (patch : SchedulePatch) :
    Prop :=
  ∃ s t, Scheduler.getSchedule id R.schedules = some s ∧
    Scheduler.SchedulePatch.apply patch s = .ok t ∧
    (t.isEnabled = true → ∃ next, C.next t.cronExpression now = .ok next) ∧
    Scheduler.storable E R.orgIds R.deviceList t = true

/-- What the handlers do not check: the request does not name what is another organization's, where
    naming it has an effect. -/
def Inside (E : Env) (C : Cron) (R : Resources) (now : Nat) (drawn : Nat → Uuid) : Request → Prop
  | .updateGroup g _ => ¬ Foreign org R .group g
  | .deleteGroup g => ¬ Foreign org R .group g ∧
      ∀ m ∈ R.memberships, m.groupId = g → ¬ ForeignMembership org R m
  | .addDevicesToGroup g ids => ¬ Foreign org R .group g ∧
      (g ∈ R.ids .group → insertable drawn g ids R → ∀ d ∈ ids, ¬ Foreign org R .device d)
  | .removeDeviceFromGroup g d =>
      ∀ m ∈ R.memberships, m.groupId = g → m.deviceId = d → ¬ ForeignMembership org R m
  | .listGroupDevices g => ∀ m ∈ R.memberships, m.groupId = g → ¬ ForeignMembership org R m
  | .listDeviceGroups d => ∀ m ∈ R.memberships, m.deviceId = d → ¬ ForeignMembership org R m
  | .createSchedule body => Creatable org E C R now body (drawn 0) →
      ∀ d, body.deviceId = some d → ¬ Foreign org R .device d
  | .updateSchedule id patch => ¬ Foreign org R .schedule id ∧
      (Updatable E C R now id patch →
        ∀ d, patch.deviceId = .set d → ¬ Foreign org R .device d)
  | .deleteSchedule id => ¬ Foreign org R .schedule id
  | .updateRule id _ => ¬ Foreign org R .rule id
  | .resolveAlert id => ¬ Foreign org R .alert id
  | .listGroups | .createGroup _ | .listSchedules | .listRules | .createRule _ => True

end

end Resources

end Dtsys
