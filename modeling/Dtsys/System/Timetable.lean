/-
  THE TIMETABLE: changes to a schedule (`app/api/v1/scheduled_commands.py`) while ticks of the scheduler are at
  work.

  `create_scheduled_command` and `update_scheduled_command` set `next_run_at` by the expression of the row, a tick
  does so for the rows it has been through; and each does it by the row that it has READ.

  A PATCH is two steps here, `load` (the handler up to its commit) and `write` (the UPDATE of the columns that have
  changed); the ticks are those of `Workers`.  `OnTime` says what `next_run_at` is for: the row is disabled and has
  none, or it is a run time of the row's expression.

  Where every write finds the schedule as it was read, all schedules are on time, and nothing is dispatched but
  for a schedule that was enabled, at a time of its expression (`runs_on_time`).  "Dispatched" is not "committed":
  `dispatch_command` flushes its row and sends the message before the tick commits, so the invariant is about the
  ticks still at work as well (`Punctual`), whatever becomes of them.
-/
import Dtsys.Lib.Columns
import Dtsys.System.Overlap

namespace Dtsys

open Server Scheduler

namespace Scheduler

variable (C : Cron)

/-- PATCH `/scheduled-commands/{id}`, for a row that is there, up to the commit. -/
def editScheduledCommand (now : Nat) (patch : SchedulePatch) (scheduled : ScheduledCommand) :
    Except PyErr ScheduledCommand := do
  let updated ← SchedulePatch.apply patch scheduled
  let nextRun ← if updated.isEnabled then (C.next updated.cronExpression now).map some else .ok none
  pure { updated with nextRunAt := nextRun }

/-- The request that is alone. -/
theorem updateScheduledCommand_eq (E : Env) (organizations : List Uuid) (devices : List Device) (now : Nat)
    (id : Uuid) (patch : SchedulePatch) (schedules : List ScheduledCommand) :
    updateScheduledCommand E C organizations devices now id patch schedules =
      match getSchedule id schedules with
      | none => .ok (none, schedules)
      | some scheduled => (editScheduledCommand C now patch scheduled).bind fun updated =>
        if storable E organizations devices updated then
          .ok (some updated, schedules.map fun s => if s.id = id then updated else s)
        else .error .db := by
  rw [updateScheduledCommand]
  cases getSchedule id schedules with
  | none => rfl
  | some scheduled =>
    dsimp only
    rw [editScheduledCommand]
    cases SchedulePatch.apply patch scheduled with
    | error e => rfl
    | ok updated =>
      by_cases henabled : updated.isEnabled = true
      · simp only [bind, Except.bind, if_pos henabled]
        cases C.next updated.cronExpression now with
        | error e => rfl
        | ok t => rfl
      · simp only [bind, Except.bind, if_neg henabled]
        rfl

/-- The UPDATE of a row: the attributes of the instance that are not as loaded; `same` is `==` of payloads. -/
def patchSchedule (same : Option (List (String × Json)) → Option (List (String × Json)) → Bool)
    (loaded scheduled row : ScheduledCommand) : ScheduledCommand :=
  { row with
    deviceId := Columns.merge loaded.deviceId scheduled.deviceId row.deviceId
    commandType := Columns.merge loaded.commandType scheduled.commandType row.commandType
    payload := if same scheduled.payload loaded.payload then row.payload else scheduled.payload
    cronExpression := Columns.merge loaded.cronExpression scheduled.cronExpression row.cronExpression
    isEnabled := Columns.merge loaded.isEnabled scheduled.isEnabled row.isEnabled
    nextRunAt := Columns.merge loaded.nextRunAt scheduled.nextRunAt row.nextRunAt }

/-- The next run is a run time of the expression; a schedule that is disabled has none. -/
def OnTime (s : ScheduledCommand) : Prop :=
  if s.isEnabled then ∃ now t, C.next s.cronExpression now = .ok t ∧ s.nextRunAt = some t else s.nextRunAt = none

end Scheduler

/-- Where a PATCH stands. -/
inductive EditPhase
  | idle
  /-- next is the commit -/
  | loaded (loaded scheduled : ScheduledCommand)

/-- The workers, and the requests that change a schedule. -/
structure Timetable where
  workers : Workers
  edits : Nat → EditPhase

namespace Timetable

/-- The statements of the ticks and of the requests. -/
inductive Label
  | tick (l : Workers.Label)
  | create (org user : Uuid) (body : ScheduleBody) (id : Uuid)
  | delete (id : Uuid)
  | organize (organizations : List Uuid)
  | load (n : Nat) (id : Uuid) (patch : SchedulePatch)
  | write (n : Nat)
  | drop (n : Nat)

/-- No request, and no tick. -/
def init (shared : Scheduler) : Timetable := ⟨.init shared, fun _ => .idle⟩

/-- The rows of the table. -/
def schedules (s : Timetable) : List ScheduledCommand := s.workers.shared.schedules

/-- What a request makes of the table. -/
def setShared (s : Timetable) (shared : Scheduler) : Timetable :=
  { s with workers := { s.workers with shared } }

/-- Request `n` goes on. -/
def setEdit (s : Timetable) (n : Nat) (p : EditPhase) : Timetable :=
  { s with edits := Function.update s.edits n p }

section

variable (E : Env) (C : Cron) (same : Option (List (String × Json)) → Option (List (String × Json)) → Bool)

/-- The commit of a PATCH; what the database refuses, and a row that is gone, are rolled back. -/
def write (s : Timetable) (loaded scheduled : ScheduledCommand) : Timetable :=
  let shared := s.workers.shared
  match getSchedule loaded.id shared.schedules with
  | none => s
  | some row =>
    if storable E shared.organizations shared.world.committed.devices (patchSchedule same loaded scheduled row) then
      s.setShared { shared with
        schedules := Columns.update ScheduledCommand.id (patchSchedule same) loaded scheduled shared.schedules }
    else s

/-- The rows that the tick has been through are there. -/
def allThere (s : Timetable) (e : Nat) : Bool :=
  match s.workers.phase e with
  | .running x => x.done.all fun p => s.schedules.any fun r => r.id == p.1.id
  | _ => true

/-- One statement of a tick, a request, or one statement of a PATCH. -/
def step (s : Timetable) : Label → Option Timetable
  | .tick (.commit e) =>
    -- the UPDATE of a row that has been deleted is an exception, and the tick is rolled back
    let l := if s.allThere e then Workers.Label.commit e else .abort e
    (Workers.step E C s.workers l).map fun workers => { s with workers }
  | .tick l => (Workers.step E C s.workers l).map fun workers => { s with workers }
  | .create org user body id =>
    (Scheduler.step E C s.workers.shared (.create org user body id)).map s.setShared
  | .delete id => (Scheduler.step E C s.workers.shared (.delete id)).map s.setShared
  | .organize organizations => (Scheduler.step E C s.workers.shared (.organize organizations)).map s.setShared
  | .load n id patch =>
    match s.edits n, getSchedule id s.schedules with
    | .idle, some scheduled =>
      match editScheduledCommand C s.workers.shared.world.clock patch scheduled with
      | .ok updated => some (s.setEdit n (.loaded scheduled updated))
      | .error _ => some s
    | .idle, none => some s
    | _, _ => none
  | .write n =>
    match s.edits n with
    | .loaded loaded scheduled => some ((s.write E same loaded scheduled).setEdit n .idle)
    | _ => none
  | .drop n => some (s.setEdit n .idle)

/-! ## When all is on time -/

/-- A tick selects schedules that are on time, and advances each by its own expression. -/
structure Punctual (x : Execution) : Prop where
  held : ∀ s ∈ x.held, OnTime C s ∧ s.isEnabled = true
  rows : ∀ p ∈ x.rows, OnTime C p.1 ∧ p.1.isEnabled = true
  done : ∀ p ∈ x.done, C.next p.1.cronExpression x.now = .ok p.2

/-- All is on time: the rows, what has been dispatched, and what the ticks and the requests are about to write. -/
structure Inv (s : Timetable) : Prop where
  schedules : ∀ r ∈ s.schedules, OnTime C r
  issued : ∀ p ∈ s.workers.issued, OnTime C p.1 ∧ p.1.isEnabled = true
  ticks : ∀ e x, s.workers.phase e = .running x → Punctual C x
  edits : ∀ n loaded scheduled, s.edits n = .loaded loaded scheduled → OnTime C scheduled

end

/-! ## What sets the next run -/

variable {E : Env} {C : Cron} {same : Option (List (String × Json)) → Option (List (String × Json)) → Bool}
variable {s s' : Timetable}

/-- A schedule with its next occurrence. -/
theorem onTime_next {r : ScheduledCommand} {now t : Nat} (h : C.next r.cronExpression now = .ok t)
    (henabled : r.isEnabled = true) (hnext : r.nextRunAt = some t) : OnTime C r := by
  rw [OnTime, if_pos henabled]
  exact ⟨now, t, h, hnext⟩

/-- What `OnTime` reads. -/
theorem onTime_congr {r q : ScheduledCommand} (h : OnTime C r) (hcron : q.cronExpression = r.cronExpression)
    (henabled : q.isEnabled = r.isEnabled) (hnext : q.nextRunAt = r.nextRunAt) : OnTime C q := by
  rw [OnTime] at h ⊢
  rw [hcron, henabled, hnext]
  exact h

/-- `POST /schedules`. -/
theorem create_onTime {organizations : List Uuid} {devices : List Device} {now : Nat} {org user id : Uuid}
    {body : ScheduleBody} {rows rows' : List ScheduledCommand} {r : ScheduledCommand}
    (h : createScheduledCommand E C organizations devices now org user body id rows = .ok (r, rows')) :
    OnTime C r := by
  obtain ⟨t, ht, h⟩ := ok_of_except_bind h
  obtain ⟨-, h⟩ := ok_of_guard h
  cases h
  rw [OnTime]
  split
  · exact ⟨now, t, ht, rfl⟩
  · rfl

/-- `PATCH /schedules/{id}`. -/
theorem edit_onTime {now : Nat} {patch : SchedulePatch} {scheduled updated : ScheduledCommand}
    (h : editScheduledCommand C now patch scheduled = .ok updated) : OnTime C updated := by
  obtain ⟨applied, -, h⟩ := ok_of_except_bind h
  rw [OnTime]
  dsimp only at h
  split at h
  · rename_i henabled
    obtain ⟨nextRun, hnext, h⟩ := ok_of_except_bind h
    obtain rfl := Except.ok.inj h
    rw [if_pos henabled]
    cases ht : C.next applied.cronExpression now with
    | error e =>
      rw [ht] at hnext
      cases hnext
    | ok t =>
      rw [ht] at hnext
      exact ⟨now, t, ht, (Except.ok.inj hnext).symm⟩
  · rename_i henabled
    obtain rfl := Except.ok.inj h
    rw [if_neg henabled]

/-! ## One tick -/

/-- The rows that a tick selects are on time. -/
theorem Punctual.select {now : Nat} {rows : List ScheduledCommand} (h : ∀ r ∈ rows, OnTime C r) :
    Punctual C (.select now rows) := by
  refine ⟨fun r hr => ?_, fun p hp => (by cases hp), fun p hp => (by cases hp)⟩
  obtain ⟨hmem, hdue⟩ := List.mem_filter.mp hr
  rw [due, Bool.and_eq_true] at hdue
  exact ⟨h r hmem, hdue.1⟩

variable {x x' : Execution}

theorem Punctual.targets (h : Punctual C x) {db : Db} (hx : x.targets db = some x') : Punctual C x' := by
  rw [Execution.targets] at hx
  split at hx
  · rename_i r due hcurrent hdue
    obtain rfl := Option.some.inj hx
    refine ⟨fun q hq => h.held q ?_, h.rows, h.done⟩
    rw [Execution.held, hcurrent, hdue]
    exact hq
  · cases hx

/-- A dispatch, which adds a row for the schedule at hand. -/
theorem Punctual.dispatch (h : Punctual C x) {w v : World} {p : TickPhase}
    (hx : x.dispatch E w = some (p, v)) : ∀ y, p = .running y → Punctual C y := by
  rw [Execution.dispatch] at hx
  split at hx
  · rename_i r d ds hcurrent
    have hheld : r ∈ x.held := by
      rw [Workers.held_of_current hcurrent]
      exact List.mem_append_right _ List.mem_cons_self
    split at hx
    · rename_i command hrun
      obtain ⟨rfl, -⟩ := Prod.mk.inj (Option.some.inj hx)
      intro y hy
      obtain rfl := TickPhase.running.inj hy
      refine ⟨fun q hq => h.held q ?_, fun q hq => ?_, h.done⟩
      · rw [Workers.held_of_current hcurrent]
        exact hq
      · rcases List.mem_append.mp hq with hq | hq
        · exact h.rows q hq
        · obtain rfl := List.mem_singleton.mp hq
          exact h.held r hheld
    · obtain ⟨rfl, -⟩ := Prod.mk.inj (Option.some.inj hx)
      exact fun y hy => by cases hy
  · cases hx

/-- The next schedule, and the last. -/
theorem Punctual.advance (h : Punctual C x) {p : TickPhase} (hx : x.advance C = some p) :
    ∀ y, p = .running y → Punctual C y := by
  rw [Execution.advance] at hx
  split at hx
  · rename_i r hcurrent
    split at hx
    · rename_i t ht
      obtain rfl := Option.some.inj hx
      intro y hy
      obtain rfl := TickPhase.running.inj hy
      refine ⟨fun q hq => h.held q ?_, h.rows, fun q hq => ?_⟩
      · rw [Workers.held_of_current hcurrent]
        simpa [Execution.held] using hq
      · rcases List.mem_append.mp hq with hq | hq
        · exact h.done q hq
        · obtain rfl := List.mem_singleton.mp hq
          exact ht
    · obtain rfl := Option.some.inj hx
      exact fun y hy => by cases hy
  · cases hx

/-! ## Runs -/

/-- The tick finds the schedules it has been through as it has selected them, as far as it goes by them. -/
def TickAsRead (rows : List ScheduledCommand) : TickPhase → Prop
  | .running x => ∀ p ∈ x.done, ∀ r ∈ rows, r.id = p.1.id →
      r.cronExpression = p.1.cronExpression ∧ r.isEnabled = p.1.isEnabled
  | _ => True

/-- The PATCH finds the schedule as it was loaded. -/
def EditAsRead (rows : List ScheduledCommand) : EditPhase → Prop
  | .loaded loaded _ => ∀ r ∈ rows, r.id = loaded.id →
      r.cronExpression = loaded.cronExpression ∧ r.isEnabled = loaded.isEnabled ∧ r.nextRunAt = loaded.nextRunAt
  | .idle => True

/-- A write finds its schedules as they were read. -/
def AsRead (s : Timetable) : Label → Prop
  | .tick (.commit e) => TickAsRead s.schedules (s.workers.phase e)
  | .write n => EditAsRead s.schedules (s.edits n)
  | _ => True

instance (rows : List ScheduledCommand) : ∀ p, Decidable (TickAsRead rows p)
  | .running x => inferInstanceAs (Decidable (∀ p ∈ x.done, ∀ r ∈ rows, r.id = p.1.id →
      r.cronExpression = p.1.cronExpression ∧ r.isEnabled = p.1.isEnabled))
  | .idle | .started _ => inferInstanceAs (Decidable True)

instance (rows : List ScheduledCommand) : ∀ p, Decidable (EditAsRead rows p)
  | .loaded loaded _ => inferInstanceAs (Decidable (∀ r ∈ rows, r.id = loaded.id →
      r.cronExpression = loaded.cronExpression ∧ r.isEnabled = loaded.isEnabled ∧ r.nextRunAt = loaded.nextRunAt))
  | .idle => inferInstanceAs (Decidable True)

instance (s : Timetable) : ∀ l, Decidable (AsRead s l)
  | .tick (.commit _) => inferInstanceAs (Decidable (TickAsRead ..))
  | .write _ => inferInstanceAs (Decidable (EditAsRead ..))
  | .tick (.start _) | .tick (.select _) | .tick (.targets _) | .tick (.dispatch _) | .tick (.advance _)
  | .tick (.abort _) | .tick (.serve ..) | .create .. | .delete _ | .organize _ | .load .. | .drop _ =>
    inferInstanceAs (Decidable True)

theorem Inv.setPhase (h : Inv C s) {e : Nat} {p : TickPhase} (hp : ∀ y, p = .running y → Punctual C y) :
    Inv C { s with workers := s.workers.set e p } := by
  refine ⟨h.schedules, h.issued, fun e' y hy => ?_, h.edits⟩
  dsimp only [Workers.set] at hy
  by_cases he : e' = e
  · rw [he, Function.update_self] at hy
    exact hp y hy
  · rw [Function.update_of_ne he] at hy
    exact h.ticks e' y hy

theorem Inv.setEdit (h : Inv C s) {n : Nat} {p : EditPhase}
    (hp : ∀ loaded scheduled, p = .loaded loaded scheduled → OnTime C scheduled) : Inv C (s.setEdit n p) := by
  refine ⟨h.schedules, h.issued, h.ticks, fun m loaded scheduled hm => ?_⟩
  dsimp only [Timetable.setEdit] at hm
  by_cases hmn : m = n
  · rw [hmn, Function.update_self] at hm
    exact hp loaded scheduled hm
  · rw [Function.update_of_ne hmn] at hm
    exact h.edits m loaded scheduled hm

/-- A commit writes rows that are on time. -/
theorem Inv.setShared (h : Inv C s) {shared : Scheduler} (hrows : ∀ r ∈ shared.schedules, OnTime C r) :
    Inv C (s.setShared shared) :=
  ⟨hrows, h.issued, h.ticks, h.edits⟩

/-- **The commit of a tick.** -/
theorem Inv.committed (h : Inv C s) {e : Nat} (hx : s.workers.phase e = .running x)
    (hread : TickAsRead s.schedules (.running x)) : Inv C { s with workers := s.workers.committed e x } := by
  have hpunctual := h.ticks e x hx
  have hidle : Inv C { s with workers := s.workers.set e .idle } := h.setPhase fun y hy => by cases hy
  refine ⟨fun r hr => ?_, fun p hp => ?_, hidle.ticks, h.edits⟩
  · obtain ⟨q, hq, rfl⟩ := List.mem_map.mp hr
    rw [Execution.write]
    split
    · rename_i p hp
      have hfound : p ∈ x.done ∧ p.1.id = q.id := Rows.find_eq_some hp
      obtain ⟨hmem, hid⟩ := hfound
      obtain ⟨hcron, henabled⟩ := hread p hmem q hq hid.symm
      have hdue := (hpunctual.held p.1 (List.mem_append_left _ (List.mem_map_of_mem hmem))).2
      have hnext : C.next q.cronExpression x.now = .ok p.2 := by
        rw [hcron]
        exact hpunctual.done p hmem
      exact onTime_next hnext (henabled.trans hdue) rfl
    · exact h.schedules q hq
  · rcases List.mem_append.mp hp with hp | hp
    · exact h.issued p hp
    · exact hpunctual.rows p hp

theorem Inv.tick (h : Inv C s) {l : Workers.Label} {w : Workers} (hread : AsRead s (.tick l))
    (hs : Workers.step E C s.workers l = some w) : Inv C { s with workers := w } := by
  cases l with
  | start e =>
    rw [Workers.step] at hs
    split at hs
    · obtain rfl := Option.some.inj hs
      exact h.setPhase fun y hy => by cases hy
    · cases hs
  | select e =>
    rw [Workers.step] at hs
    split at hs
    · obtain rfl := Option.some.inj hs
      refine h.setPhase fun y hy => ?_
      obtain rfl := TickPhase.running.inj hy
      exact .select h.schedules
    · cases hs
  | targets e =>
    obtain ⟨x, hx, hs⟩ := Option.bind_eq_some_iff.mp hs
    obtain ⟨x', hx', rfl⟩ := Option.map_eq_some_iff.mp hs
    refine h.setPhase fun y hy => ?_
    obtain rfl := TickPhase.running.inj hy
    exact (h.ticks e x (Workers.running_of_eq hx)).targets hx'
  | dispatch e =>
    obtain ⟨x, hx, hs⟩ := Option.bind_eq_some_iff.mp hs
    obtain ⟨⟨p, v⟩, hp, rfl⟩ := Option.map_eq_some_iff.mp hs
    have hset := h.setPhase (e := e) ((h.ticks e x (Workers.running_of_eq hx)).dispatch hp)
    exact ⟨hset.schedules, hset.issued, hset.ticks, hset.edits⟩
  | advance e =>
    obtain ⟨x, hx, hs⟩ := Option.bind_eq_some_iff.mp hs
    obtain ⟨p, hp, rfl⟩ := Option.map_eq_some_iff.mp hs
    exact h.setPhase ((h.ticks e x (Workers.running_of_eq hx)).advance hp)
  -- The only step that writes rows of a tick: they are as it read them.
  | commit e =>
    obtain ⟨x, hx, hs⟩ := Option.bind_eq_some_iff.mp hs
    split at hs
    · obtain rfl := Option.some.inj hs
      have hphase := Workers.running_of_eq hx
      rw [AsRead, hphase] at hread
      exact h.committed hphase hread
    · cases hs
  | abort e =>
    obtain rfl := Option.some.inj hs
    exact h.setPhase fun y hy => by cases hy
  | serve rewrite enrolled world =>
    obtain ⟨shared, hshared, rfl⟩ := Option.map_eq_some_iff.mp hs
    rw [Scheduler.step] at hshared
    dsimp only at hshared
    split at hshared
    · obtain rfl := Option.some.inj hshared
      exact ⟨h.schedules, h.issued, h.ticks, h.edits⟩
    · cases hshared

/-- **The commit of a PATCH.** -/
theorem Inv.write (h : Inv C s) {n : Nat} {loaded scheduled : ScheduledCommand}
    (hedit : s.edits n = .loaded loaded scheduled) (hread : EditAsRead s.schedules (.loaded loaded scheduled)) :
    Inv C (s.write E same loaded scheduled) := by
  rw [Timetable.write]
  split
  · exact h
  · split
    · refine h.setShared fun r hr => ?_
      rcases Columns.mem_update hr with hr | ⟨q, hq, hid, rfl⟩
      · exact h.schedules r hr
      · obtain ⟨hcron, henabled, hnext⟩ := hread q hq hid
        have hcolumn : ∀ {α : Type} [DecidableEq α] {f : ScheduledCommand → α},
            Columns.Column (patchSchedule same) f → f q = f loaded →
              f (patchSchedule same loaded scheduled q) = f scheduled := fun hf hq => hf.fresh scheduled hq
        exact onTime_congr (h.edits n loaded scheduled hedit) (hcolumn (fun _ _ _ => rfl) hcron)
          (hcolumn (fun _ _ _ => rfl) henabled) (hcolumn (fun _ _ _ => rfl) hnext)
    · exact h

theorem inv_step {l : Label} (hread : AsRead s l) (hs : step E C same s l = some s') (h : Inv C s) : Inv C s' := by
  cases l with
  | tick l =>
    -- A commit that finds one of its rows deleted is an abort; every other step of a tick is that of the
    -- workers.
    have hmap : ∃ l', AsRead s (.tick l') ∧
        (Workers.step E C s.workers l').map (fun workers => { s with workers }) = some s' := by
      cases l with
      | commit e =>
        rw [step] at hs
        split at hs
        · exact ⟨_, hread, hs⟩
        · exact ⟨.abort e, trivial, hs⟩
      | _ => exact ⟨_, hread, hs⟩
    obtain ⟨l', hread', hmap⟩ := hmap
    obtain ⟨w, hw, rfl⟩ := Option.map_eq_some_iff.mp hmap
    exact h.tick hread' hw
  | create org user body id =>
    obtain ⟨shared, hshared, rfl⟩ := Option.map_eq_some_iff.mp hs
    rw [Scheduler.step] at hshared
    split at hshared
    · rename_i row rows hcreate
      obtain rfl := Option.some.inj hshared
      refine h.setShared fun r hr => ?_
      rw [(createScheduledCommand_ok E C hcreate).1] at hr
      rcases List.mem_append.mp hr with hr | hr
      · exact h.schedules r hr
      · rw [List.mem_singleton.mp hr]
        exact create_onTime hcreate
    · obtain rfl := Option.some.inj hshared
      exact h.setShared h.schedules
  | delete id =>
    rw [step] at hs
    obtain ⟨shared, hshared, rfl⟩ := Option.map_eq_some_iff.mp hs
    obtain rfl := Option.some.inj hshared
    refine h.setShared fun r hr => ?_
    dsimp only at hr
    rw [deleteScheduledCommand] at hr
    split at hr
    · exact h.schedules r hr
    · exact h.schedules r (List.mem_filter.mp hr).1
  -- Deleting an organization deletes its schedules.
  | organize organizations =>
    rw [step] at hs
    obtain ⟨shared, hshared, rfl⟩ := Option.map_eq_some_iff.mp hs
    obtain rfl := Option.some.inj hshared
    exact h.setShared fun r hr => h.schedules r (List.mem_filter.mp hr).1
  -- What a PATCH is going to write is computed from the row it has loaded.
  | load n id patch =>
    rw [step] at hs
    split at hs
    · split at hs
      · rename_i updated hedit
        obtain rfl := Option.some.inj hs
        refine h.setEdit fun loaded scheduled hp => ?_
        obtain ⟨-, rfl⟩ := EditPhase.loaded.inj hp
        exact edit_onTime hedit
      · obtain rfl := Option.some.inj hs
        exact h
    · obtain rfl := Option.some.inj hs
      exact h
    · cases hs
  | write n =>
    rw [step] at hs
    split at hs
    · rename_i loaded scheduled hedit
      obtain rfl := Option.some.inj hs
      rw [AsRead, hedit] at hread
      exact (h.write hedit hread).setEdit fun _ _ hp => by cases hp
    · cases hs
  | drop n =>
    obtain rfl := Option.some.inj hs
    exact h.setEdit fun _ _ hp => by cases hp

theorem inv_init {shared : Scheduler} (hrows : ∀ r ∈ shared.schedules, OnTime C r) : Inv C (init shared) :=
  ⟨hrows, fun _ hp => (by cases hp), fun _ _ hx => (by cases hx), fun _ _ _ hp => (by cases hp)⟩

/-- What a dispatch is for: a schedule that is enabled, and at a run time of its expression. -/
def Timely (C : Cron) (r : ScheduledCommand) : Prop :=
  r.isEnabled = true ∧ ∃ now t, C.next r.cronExpression now = .ok t ∧ r.nextRunAt = some t

theorem timely_of_onTime {r : ScheduledCommand} (h : OnTime C r ∧ r.isEnabled = true) : Timely C r := by
  obtain ⟨hontime, henabled⟩ := h
  rw [OnTime, if_pos henabled] at hontime
  exact ⟨henabled, hontime⟩

/-- **On time**: where every write finds its schedules as they were read, the next run of each schedule is a run
    time of its expression and a disabled one has none; and whatever a tick has dispatched, or is still to
    dispatch, is for a schedule that it read as enabled, at a run time of its expression.

    The last part is about the ticks at work in ANY state that is reached, so it covers what a tick has sent that
    is aborted afterwards: nothing of that is in `issued`, the rows being rolled back. -/
theorem runs_on_time {shared : Scheduler} (hrows : ∀ r ∈ shared.schedules, OnTime C r) {ls : List Label}
    (hread : Run.Guarded (step E C same) AsRead (init shared) ls)
    (hs : Run.exec (step E C same) (init shared) ls = some s) :
    (∀ r ∈ s.schedules, OnTime C r) ∧ (∀ p ∈ s.workers.issued, Timely C p.1) ∧
      ∀ e x, s.workers.phase e = .running x → (∀ r ∈ x.held, Timely C r) ∧ ∀ p ∈ x.rows, Timely C p.1 := by
  have hinv : Inv C s := Run.exec_inv (fun _ _ _ => inv_step) hread hs (inv_init hrows)
  refine ⟨hinv.schedules, fun p hp => timely_of_onTime (hinv.issued p hp), fun e x hx => ?_⟩
  have hpunctual := hinv.ticks e x hx
  exact ⟨fun r hr => timely_of_onTime (hpunctual.held r hr), fun p hp => timely_of_onTime (hpunctual.rows p hp)⟩

/-! ## A reboot every minute -/

/-- An empty table, and a clock. -/
def noSchedules : Scheduler := { rebootAnd "reboot" with schedules := [] }

/-- The minute passes. -/
def aMinute : Label :=
  .tick (.serve id [] { noSchedules.world with clock := 60 * second })

/-- A reboot, at every minute. -/
def rebootBody : ScheduleBody := ⟨some 5, "reboot", [], "* * * * *", true⟩

/-- The PATCH that disables a schedule. -/
def disabling : SchedulePatch := ⟨.unset, .unset, .unset, .unset, .set false⟩

/-- Two workers have the schedule before them; it is disabled when the first has committed, and the second is
    still at work. -/
def disabledAfter : List Label :=
  [.create 1 2 rebootBody 21, aMinute, .tick (.start 0), .tick (.select 0), .tick (.start 1), .tick (.select 1),
    .tick (.targets 0), .tick (.dispatch 0), .tick (.targets 1), .tick (.dispatch 1), .tick (.advance 0),
    .tick (.commit 0), .load 0 21 disabling, .write 0]

/-- It is disabled while the tick is at it. -/
def disabledMeanwhile : List Label :=
  [.create 1 2 rebootBody 21, aMinute, .tick (.start 0), .tick (.select 0), .load 0 21 disabling, .write 0,
    .tick (.targets 0), .tick (.dispatch 0), .tick (.advance 0), .tick (.commit 0)]

/-- What the tick of a worker has dispatched and not committed. -/
def uncommitted (s : Timetable) (e : Nat) : List (ScheduledCommand × Command) :=
  match s.workers.phase e with
  | .running x => x.rows
  | _ => []

theorem runs_on_time_disabled :
    ∃ s, Run.exec (step Env.sample everyMinute fun _ _ => false) (init noSchedules) disabledAfter = some s ∧
      (s.workers.issued.length = 1 ∧ (uncommitted s 1).length = 1 ∧ s.schedules.map (·.isEnabled) = [false]) ∧
      (∀ r ∈ s.schedules, OnTime everyMinute r) ∧ (∀ p ∈ s.workers.issued, Timely everyMinute p.1) ∧
      ∀ e x, s.workers.phase e = .running x →
        (∀ r ∈ x.held, Timely everyMinute r) ∧ ∀ p ∈ x.rows, Timely everyMinute p.1 := by
  have hrun : (Run.exec (step Env.sample everyMinute fun _ _ => false) (init noSchedules) disabledAfter).map
      (fun s => (s.workers.issued.length, (uncommitted s 1).length, s.schedules.map (·.isEnabled))) =
        some (1, 1, [false]) := by
    decide +kernel
  have hread : Run.Guarded (step Env.sample everyMinute fun _ _ => false) AsRead (init noSchedules)
      disabledAfter := by
    decide +kernel
  obtain ⟨s, hs, hshown⟩ := Option.map_eq_some_iff.mp hrun
  simp only [Prod.mk.injEq] at hshown
  exact ⟨s, hs, hshown, runs_on_time (fun _ hr => absurd hr List.not_mem_nil) hread hs⟩

example : (Run.exec (step Env.sample everyMinute fun _ _ => false) (init noSchedules) disabledMeanwhile).map
    (fun s => s.schedules.map fun r => (r.isEnabled, r.nextRunAt)) = some [(false, some (120 * second))] := by
  decide +kernel

end Timetable

end Dtsys
