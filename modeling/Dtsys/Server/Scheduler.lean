/-
  SCHEDULED COMMANDS: the rows, the requests of `app/api/v1/scheduled_commands.py` that write them,
  and `_run_scheduled_commands` (`app/tasks/scheduler_tasks.py`), the tick that dispatches what is
  due.

  A tick is ONE session: it selects the due rows, dispatches each to its device or to every device
  that is not revoked, advances the row, and commits once, at the end.  Whatever raises on the way
  ends the tick, and the session is rolled back (`runTick`).

  * `croniter` is a parameter, `Cron`: the next time of an expression, which is later, or the
    exception of an expression it cannot read.
  * `tick` returns what it has dispatched for each row; the source only counts it.
-/
import Dtsys.Server.Ghosts

namespace Dtsys

/-- `app/models/scheduled_command.py`; a JSON `null` is stored for a payload of `None`. -/
structure ScheduledCommand where
  id : Uuid
  orgId : Uuid
  deviceId : Option Uuid
  commandType : String
  payload : Option (List (String × Json))
  cronExpression : String
  isEnabled : Bool
  lastRunAt : Option Nat
  nextRunAt : Option Nat
  createdBy : Option Uuid
  createdAt : Nat

/-- `croniter(expression, now).get_next(datetime)`. -/
structure Cron where
  next : String → Nat → Except PyErr Nat
  later : ∀ {expression now t}, next expression now = .ok t → now < t

/-- A field of a PATCH body: left out, `null`, or a value. -/
inductive Patch (α : Type) where
  | unset
  | null
  | set (a : α)

namespace Patch

variable {α : Type}

/-- The value for a column that may be NULL. -/
def optional (p : Patch α) (old : Option α) : Option α :=
  match p with
  | .unset => old
  | .null => none
  | .set a => some a

/-- The value for a column that may not. -/
def required (p : Patch α) (old : α) : Except PyErr α :=
  match p with
  | .unset => .ok old
  | .null => .error .db
  | .set a => .ok a

end Patch

/-- `ScheduledCommandCreateRequest`. -/
structure ScheduleBody where
  deviceId : Option Uuid
  commandType : String
  payload : List (String × Json)
  cronExpression : String
  isEnabled : Bool

/-- `ScheduledCommandUpdateRequest`. -/
structure SchedulePatch where
  deviceId : Patch Uuid
  commandType : Patch String
  payload : Patch (List (String × Json))
  cronExpression : Patch String
  isEnabled : Patch Bool

/-- The scheduler and what it works on: the server's state, the organizations, and the rows. -/
structure Scheduler where
  world : World
  organizations : List Uuid
  schedules : List ScheduledCommand

namespace Scheduler

open Server

variable (E : Env) (C : Cron)

/-! ## Requests -/

/-- The driver takes the row, and what it references is there. -/
def storable (organizations : List Uuid) (devices : List Device) (s : ScheduledCommand) : Bool :=
  organizations.contains s.orgId &&
    (match s.deviceId with
      | some d => devices.any fun r => r.id == d
      | none => true) &&
    E.driver.accepts (required (.string 50)) (.str s.commandType) &&
    E.driver.accepts (required (.string 100)) (.str s.cronExpression) &&
    E.driver.accepts (nullable .jsonb) ((s.payload.map Json.obj).getD .null)

/-- POST `/scheduled-commands`, by a user of the organization; the new row, and the rows. -/
def createScheduledCommand (organizations : List Uuid) (devices : List Device) (now : Nat)
    (org user : Uuid) (body : ScheduleBody) (id : Uuid) (schedules : List ScheduledCommand) :
    Except PyErr (ScheduledCommand × List ScheduledCommand) := do
  let nextRun ← C.next body.cronExpression now
  let scheduled : ScheduledCommand :=
    { id, orgId := org, deviceId := body.deviceId, commandType := body.commandType,
      payload := some body.payload, cronExpression := body.cronExpression,
      isEnabled := body.isEnabled, lastRunAt := none,
      nextRunAt := if body.isEnabled then some nextRun else none, createdBy := some user,
      createdAt := now }
  if (schedules.any fun s => s.id == id) || !storable E organizations devices scheduled then
    .error .db
  else .ok (scheduled, schedules ++ [scheduled])

/-- The attributes a PATCH body sets. -/
def SchedulePatch.apply (p : SchedulePatch) (s : ScheduledCommand) : Except PyErr ScheduledCommand := do
  let commandType ← p.commandType.required s.commandType
  let cronExpression ← p.cronExpression.required s.cronExpression
  let isEnabled ← p.isEnabled.required s.isEnabled
  pure { s with
    deviceId := p.deviceId.optional s.deviceId, commandType,
    payload := p.payload.optional s.payload, cronExpression, isEnabled }

/-- `db.get(ScheduledCommand, id)`. -/
def getSchedule (id : Uuid) (schedules : List ScheduledCommand) : Option ScheduledCommand :=
  schedules.find? fun s => s.id == id

/-- PATCH `/scheduled-commands/{id}`: the changed row, or none ("not found"), and the rows. -/
def updateScheduledCommand (organizations : List Uuid) (devices : List Device) (now : Nat)
    (id : Uuid) (patch : SchedulePatch) (schedules : List ScheduledCommand) :
    Except PyErr (Option ScheduledCommand × List ScheduledCommand) :=
  match getSchedule id schedules with
  | none => .ok (none, schedules)
  | some scheduled => do
    let updated ← SchedulePatch.apply patch scheduled
    let nextRun ← if updated.isEnabled then (C.next updated.cronExpression now).map some else .ok none
    let updated := { updated with nextRunAt := nextRun }
    if storable E organizations devices updated then
      .ok (some updated, schedules.map fun s => if s.id = id then updated else s)
    else .error .db

/-- DELETE `/scheduled-commands/{id}`: whether there was one, and the rows. -/
def deleteScheduledCommand (id : Uuid) (schedules : List ScheduledCommand) :
    Bool × List ScheduledCommand :=
  match getSchedule id schedules with
  | none => (false, schedules)
  | some _ => (true, schedules.filter fun s => s.id != id)

/-- What a POST that went through has added. -/
theorem createScheduledCommand_ok {organizations : List Uuid} {devices : List Device} {now : Nat}
    {org user id : Uuid} {body : ScheduleBody} {schedules rows : List ScheduledCommand}
    {s : ScheduledCommand}
    (h : createScheduledCommand E C organizations devices now org user body id schedules =
      .ok (s, rows)) :
    rows = schedules ++ [s] ∧ s.id = id ∧ (∀ x ∈ schedules, x.id ≠ id) ∧ s.orgId = org ∧
      s.deviceId = body.deviceId := by
  obtain ⟨t, -, h⟩ := ok_of_except_bind h
  obtain ⟨hfree, h⟩ := ok_of_guard h
  cases h
  refine ⟨rfl, rfl, fun x hx hid => hfree ?_, rfl, rfl⟩
  rw [Bool.or_eq_true]
  exact .inl (List.any_eq_true.mpr ⟨x, hx, beq_iff_eq.mpr hid⟩)

/-- A PATCH leaves `id` and `org_id` as they are. -/
theorem SchedulePatch.apply_ok {p : SchedulePatch} {s t : ScheduledCommand}
    (h : SchedulePatch.apply p s = .ok t) :
    t.id = s.id ∧ t.orgId = s.orgId ∧ t.deviceId = p.deviceId.optional s.deviceId := by
  obtain ⟨commandType, -, h⟩ := ok_of_except_bind h
  obtain ⟨cronExpression, -, h⟩ := ok_of_except_bind h
  obtain ⟨isEnabled, -, h⟩ := ok_of_except_bind h
  cases h
  exact ⟨rfl, rfl, rfl⟩

/-- What a PATCH that went through has changed. -/
theorem updateScheduledCommand_ok {organizations : List Uuid} {devices : List Device} {now : Nat}
    {id : Uuid} {patch : SchedulePatch} {schedules rows : List ScheduledCommand}
    {r : Option ScheduledCommand}
    (h : updateScheduledCommand E C organizations devices now id patch schedules = .ok (r, rows)) :
    (getSchedule id schedules = none ∧ r = none ∧ rows = schedules) ∨
    ∃ s t, getSchedule id schedules = some s ∧ r = some t ∧
      rows = schedules.map (fun x => if x.id = id then t else x) ∧ t.id = s.id ∧ t.orgId = s.orgId ∧
      t.deviceId = patch.deviceId.optional s.deviceId := by
  rw [updateScheduledCommand] at h
  cases hget : getSchedule id schedules with
  | none =>
    rw [hget] at h
    cases h
    exact .inl ⟨rfl, rfl, rfl⟩
  | some s =>
    rw [hget] at h
    obtain ⟨t, happly, h⟩ := ok_of_except_bind h
    obtain ⟨hid, horg, hdevice⟩ := SchedulePatch.apply_ok happly
    have hwrite : ∀ nextRun, (if storable E organizations devices { t with nextRunAt := nextRun } then
          .ok (some { t with nextRunAt := nextRun },
            schedules.map fun x => if x.id = id then { t with nextRunAt := nextRun } else x)
        else .error .db : Except PyErr (Option ScheduledCommand × List ScheduledCommand)) =
          .ok (r, rows) →
        ∃ s' t', some s = some s' ∧ r = some t' ∧
          rows = schedules.map (fun x => if x.id = id then t' else x) ∧ t'.id = s'.id ∧
          t'.orgId = s'.orgId ∧ t'.deviceId = patch.deviceId.optional s'.deviceId := by
      intro nextRun hrows
      split at hrows
      · cases hrows
        exact ⟨s, _, rfl, rfl, rfl, hid, horg, hdevice⟩
      · cases hrows
    dsimp only at h
    split at h
    · obtain ⟨nextRun, -, h⟩ := ok_of_except_bind h
      exact .inr (hwrite nextRun h)
    · obtain ⟨nextRun, -, h⟩ := ok_of_except_bind h
      exact .inr (hwrite nextRun h)

/-! ## The tick -/

/-- A row the tick selects. -/
def due (now : Nat) (s : ScheduledCommand) : Bool :=
  s.isEnabled && match s.nextRunAt with
    | some t => decide (t ≤ now)
    | none => false

/-- A due row has a time that is over. -/
theorem time_of_due {now : Nat} {s : ScheduledCommand} (h : due now s = true) :
    ∃ t, s.nextRunAt = some t ∧ t ≤ now := by
  rw [due] at h
  cases ht : s.nextRunAt with
  | none =>
    rw [ht, Bool.and_false] at h
    cases h
  | some t =>
    rw [ht, Bool.and_eq_true, decide_eq_true_eq] at h
    exact ⟨t, rfl, h.2⟩

/-- The devices of a row: its own, or all that are not revoked. -/
def deviceIds (s : ScheduledCommand) (db : Db) : List Uuid :=
  match s.deviceId with
  | some d => [d]
  | none => (db.devices.filter fun r => !r.isRevoked).map Device.id

/-- The part of the tick that works on the server's state. -/
def onWorld {α : Type} (x : Server α) : Act Scheduler PyErr α := fun st =>
  match x st.world with
  | (r, world) => (r, { st with world })

/-- The loop over the devices of a row. -/
def dispatchAll (s : ScheduledCommand) : List Uuid → Server (List Command)
  | [] => pure []
  | d :: ds => do
    let (command, _) ← dispatchCommand E d s.commandType (s.payload.getD []) s.createdBy false
    let rest ← dispatchAll s ds
    pure (command :: rest)

/-- `last_run_at` and `next_run_at` of a row. -/
def advance (id : Uuid) (now next : Nat) (st : Scheduler) : Scheduler :=
  { st with schedules := st.schedules.map fun s =>
      if s.id = id then { s with lastRunAt := some now, nextRunAt := some next } else s }

/-- One due row. -/
def runSchedule (now : Nat) (s : ScheduledCommand) : Act Scheduler PyErr (List Command) := do
  let ids ← onWorld (select E (deviceIds s))
  let commands ← onWorld (dispatchAll E s ids)
  let next ← Act.ofExcept (C.next s.cronExpression now)
  Act.modify (advance s.id now next)
  pure commands

/-- The loop over the due rows. -/
def runSchedules (now : Nat) :
    List ScheduledCommand → Act Scheduler PyErr (List (ScheduledCommand × List Command))
  | [] => pure []
  | s :: rest => do
    let commands ← runSchedule E C now s
    let outs ← runSchedules now rest
    pure ((s, commands) :: outs)

/-- `_run_scheduled_commands`. -/
def tick : Act Scheduler PyErr (List (ScheduledCommand × List Command)) := do
  let now ← Act.read fun st : Scheduler => st.world.clock
  let scheduledCommands ← Act.read fun st : Scheduler => st.schedules.filter (due now)
  let outs ← runSchedules E C now scheduledCommands
  onWorld (commit E)
  pure outs

/-- The tick in its session: what raised is rolled back. -/
def runTick (st : Scheduler) : Except PyErr (List (ScheduledCommand × List Command)) × Scheduler :=
  match tick E C st with
  | (.ok outs, st') => (.ok outs, st')
  | (.error e, st') => (.error e, { st with world := rollback st'.world })

end Scheduler

end Dtsys
