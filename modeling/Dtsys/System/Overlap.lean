/-
  OVERLAPPING TICKS: several executions of `_run_scheduled_commands` at the same time.

  Beat starts the task every minute, a worker runs several tasks at once, and an execution with many
  devices outlives the minute.  Nothing keeps two executions apart: the SELECT of the due rows locks
  nothing, and between it and the commit, which is where the others see that `next_run_at` has moved,
  lies the whole loop of dispatches.

  A step is a statement of one execution: it reads the time (`start`), selects the due rows
  (`select`), takes the devices of the next row (`targets`), dispatches to one of them (`dispatch`),
  computes the row's next time (`advance`), commits; or it ends without a commit (`abort`).  The
  UPDATE of a row holds its lock until the commit, so the UPDATEs of two executions are applied in the
  order of their commits; they are applied with the commit here.

  * `issued` keeps what the executions have committed: each Command row with the schedule it is for,
    as the execution had selected it.  An occurrence is a schedule with a value of `next_run_at`.
  * If no execution selects a schedule that another has selected and not let go of, no occurrence has
    two Command rows for one device (`occurrence_once`).
-/
import Dtsys.Lib.Rows
import Dtsys.System.Schedules

namespace Dtsys

open Server Scheduler

/-- An execution that has selected the due rows. -/
structure Execution where
  now : Nat
  /-- selected, and not begun -/
  due : List ScheduledCommand
  /-- the row it is at, and the devices that are left -/
  current : Option (ScheduledCommand × List Uuid)
  /-- flushed, and not committed -/
  rows : List (ScheduledCommand × Command)
  /-- the rows it is done with, and their next times -/
  done : List (ScheduledCommand × Nat)

/-- Where a worker stands. -/
inductive TickPhase
  | idle
  | started (now : Nat)
  | running (x : Execution)

/-- The workers of the scheduler over one database, and what their ticks have committed. -/
structure Workers where
  shared : Scheduler
  phase : Nat → TickPhase
  issued : List (ScheduledCommand × Command)

namespace Execution

variable (E : Env) (C : Cron)

/-- The SELECT of the due rows. -/
def select (now : Nat) (schedules : List ScheduledCommand) : Execution where
  now := now
  due := schedules.filter (Scheduler.due now)
  current := none
  rows := []
  done := []

/-- The rows it has selected. -/
def held (x : Execution) : List ScheduledCommand :=
  x.done.map Prod.fst ++ (x.current.toList.map Prod.fst ++ x.due)

/-- The next row, and its devices. -/
def targets (db : Db) (x : Execution) : Option Execution :=
  match x.current, x.due with
  | none, s :: due => some { x with current := some (s, deviceIds s db), due }
  | _, _ => none

/-- What the session of an execution sees. -/
def session (w : World) (x : Execution) : World :=
  { newSession w w.device with
    db := { w.committed with commands := w.committed.commands ++ x.rows.map Prod.snd } }

/-- The dispatch to the next device; what raises ends the execution. -/
def dispatch (w : World) (x : Execution) : Option (TickPhase × World) :=
  match x.current with
  | some (s, d :: ds) =>
    match dispatchCommand E d s.commandType (s.payload.getD []) s.createdBy false (x.session w) with
    | (.ok (command, _), v) =>
      some (.running { x with current := some (s, ds), rows := x.rows ++ [(s, command)] }, v)
    | (.error _, v) => some (.idle, v)
  | _ => none

/-- The end of a row. -/
def advance (x : Execution) : Option TickPhase :=
  match x.current with
  | some (s, []) =>
    match C.next s.cronExpression x.now with
    | .ok t => some (.running { x with current := none, done := x.done ++ [(s, t)] })
    | .error _ => some .idle
  | _ => none

/-- The UPDATEs of the execution. -/
def write (x : Execution) (s : ScheduledCommand) : ScheduledCommand :=
  match x.done.find? fun p => p.1.id == s.id with
  | some p => { s with lastRunAt := some x.now, nextRunAt := some p.2 }
  | none => s

/-- It has been through all rows. -/
def finished (x : Execution) : Bool := x.current.isNone && x.due.isEmpty

end Execution

/-- The tick that is at work. -/
def TickPhase.running? : TickPhase → Option Execution
  | .running x => some x
  | _ => none

namespace Workers

/-- The statements of the ticks, and what other requests do. -/
inductive Label
  | start (e : Nat)
  | select (e : Nat)
  | targets (e : Nat)
  | dispatch (e : Nat)
  | advance (e : Nat)
  | commit (e : Nat)
  | abort (e : Nat)
  | serve (rewrite : Device → Device) (enrolled : List Device) (world : World)

/-- Worker `e` goes on. -/
def set (s : Workers) (e : Nat) (p : TickPhase) : Workers :=
  { s with phase := Function.update s.phase e p }

/-- A session has been at work: nothing of the database has changed for the others. -/
def seenBy (s : Workers) (w : World) : Workers :=
  { s with shared := { s.shared with
      world := { w with committed := s.shared.world.committed, db := s.shared.world.committed } } }

/-- The commit of an execution. -/
def committed (s : Workers) (e : Nat) (x : Execution) : Workers :=
  let db := s.shared.world.committed
  { s.set e .idle with
    shared := { s.shared with
      world := { s.shared.world with
        committed := { db with commands := db.commands ++ x.rows.map Prod.snd } }
      schedules := s.shared.schedules.map x.write }
    issued := s.issued ++ x.rows }

variable (E : Env) (C : Cron)

/-- One statement of one execution, or something else that is served. -/
def step (s : Workers) : Label → Option Workers
  | .start e =>
    match s.phase e with
    | .idle => some (s.set e (.started s.shared.world.clock))
    | _ => none
  | .select e =>
    match s.phase e with
    | .started now => some (s.set e (.running (.select now s.shared.schedules)))
    | _ => none
  | .targets e =>
    (s.phase e).running?.bind fun x =>
      (x.targets s.shared.world.committed).map fun x' => s.set e (.running x')
  | .dispatch e =>
    (s.phase e).running?.bind fun x =>
      (x.dispatch E s.shared.world).map fun r => (s.set e r.1).seenBy r.2
  | .advance e => (s.phase e).running?.bind fun x => (x.advance C).map (s.set e)
  | .commit e =>
    (s.phase e).running?.bind fun x => if x.finished then some (s.committed e x) else none
  | .abort e => some (s.set e .idle)
  | .serve rewrite enrolled world =>
    (Scheduler.step E C s.shared (.serve rewrite enrolled world)).map fun shared => { s with shared }

/-- Nobody is at work. -/
def init (shared : Scheduler) : Workers where
  shared := shared
  phase := fun _ => .idle
  issued := []

/-- The schedule, its time, and the device a Command row is for. -/
def occurrence (p : ScheduledCommand × Command) : Uuid × Option Nat × Uuid :=
  (p.1.id, p.1.nextRunAt, p.2.deviceId)

/-- No occurrence has two Command rows for one device. -/
def Once (s : Workers) : Prop := (s.issued.map occurrence).Nodup

/-- No execution selects a schedule that another has selected and is still at. -/
def Separate (s : Workers) : Label → Prop
  | .select e => ∀ now, s.phase e = .started now →
      ∀ y ∈ s.shared.schedules, Scheduler.due now y = true →
        ∀ e' x, s.phase e' = .running x → ∀ y' ∈ x.held, y'.id ≠ y.id
  | _ => True

/-! ## One execution -/

/-- What an execution knows of itself. -/
structure Sound (x : Execution) : Prop where
  keyed : Keyed x.held
  due : ∀ s ∈ x.held, ∃ t, s.nextRunAt = some t ∧ t ≤ x.now
  later : ∀ p ∈ x.done, x.now < p.2
  once : (x.rows.map fun p => (p.1.id, p.2.deviceId)).Nodup
  rows : ∀ p ∈ x.rows, p.1 ∈ x.done.map Prod.fst ∨
    ∃ ds, x.current = some (p.1, ds) ∧ p.2.deviceId ∉ ds
  left : ∀ s ds, x.current = some (s, ds) → ds.Nodup

variable {E C} {x x' : Execution}

/-- A tick that has just selected. -/
theorem sound_select {now : Nat} {schedules : List ScheduledCommand} (hkey : Keyed schedules) :
    Sound (.select now schedules) := by
  refine ⟨hkey.sublist (List.filter_sublist.map _), fun s hs => ?_, fun p hp => (nomatch hp),
    List.nodup_nil, fun p hp => (nomatch hp), fun s ds h => (nomatch h)⟩
  exact time_of_due (List.mem_filter.mp hs).2

theorem held_of_current {s : ScheduledCommand} {ds : List Uuid} (h : x.current = some (s, ds)) :
    x.held = x.done.map Prod.fst ++ s :: x.due := by
  rw [Execution.held, h]
  rfl

/-- The devices of the next schedule. -/
theorem Sound.targets (h : Sound x) {db : Db} (hids : (db.devices.map Device.id).Nodup)
    (hx : x.targets db = some x') : Sound x' ∧ x'.held = x.held := by
  rw [Execution.targets] at hx
  split at hx
  · rename_i s due hcurrent hdue
    cases hx
    have hheld : Execution.held { x with current := some (s, deviceIds s db), due := due } = x.held := by
      unfold Execution.held
      rw [hcurrent, hdue]
      rfl
    refine ⟨⟨?_, ?_, h.later, h.once, fun p hp => ?_, ?_⟩, hheld⟩
    · rw [hheld]
      exact h.keyed
    · rw [hheld]
      exact h.due
    · rcases h.rows p hp with hdone | ⟨ds, hds, -⟩
      · exact .inl hdone
      · rw [hcurrent] at hds
        cases hds
    · intro s' ds hds
      obtain ⟨rfl, rfl⟩ := Prod.mk.inj (Option.some.inj hds)
      rw [deviceIds]
      split
      · exact List.nodup_singleton _
      · exact hids.sublist (List.filter_sublist.map _)
  · cases hx

/-- Where an execution is at a row, it has no rows of it yet for the devices that are left. -/
theorem Sound.fresh (h : Sound x) {s : ScheduledCommand} {d : Uuid} {ds : List Uuid}
    (hcurrent : x.current = some (s, d :: ds)) :
    (s.id, d) ∉ x.rows.map fun p => (p.1.id, p.2.deviceId) := by
  intro hmem
  obtain ⟨p, hp, hkey⟩ := List.mem_map.mp hmem
  obtain ⟨hid, hdevice⟩ := Prod.mk.inj hkey
  have hheld := held_of_current hcurrent
  have hs : s ∈ x.held := by
    rw [hheld]
    exact List.mem_append_right _ List.mem_cons_self
  rcases h.rows p hp with hdone | ⟨ds', hds, hleft⟩
  · have hp1 : p.1 ∈ x.held := by
      rw [hheld]
      exact List.mem_append_left _ hdone
    have heq : p.1 = s := h.keyed.eq hp1 hs hid
    have hnodup : (x.done.map Prod.fst ++ s :: x.due).Nodup := by
      rw [← hheld]
      exact h.keyed.of_map _
    exact (List.nodup_append.mp hnodup).2.2 s (heq ▸ hdone) s List.mem_cons_self rfl
  · rw [hcurrent] at hds
    obtain ⟨-, rfl⟩ := Prod.mk.inj (Option.some.inj hds)
    rw [hdevice] at hleft
    exact hleft List.mem_cons_self

/-- A dispatch of the schedule at hand. -/
theorem Sound.dispatched (h : Sound x) {s : ScheduledCommand} {d : Uuid} {ds : List Uuid}
    (hcurrent : x.current = some (s, d :: ds)) {command : Command} (hdevice : command.deviceId = d) :
    Sound { x with current := some (s, ds), rows := x.rows ++ [(s, command)] } := by
  have hheld : Execution.held { x with current := some (s, ds), rows := x.rows ++ [(s, command)] } =
      x.held := by
    unfold Execution.held
    rw [hcurrent]
    rfl
  have hleft := List.nodup_cons.mp (h.left s _ hcurrent)
  refine ⟨?_, ?_, h.later, ?_, fun p hp => ?_, ?_⟩
  · rw [hheld]
    exact h.keyed
  · rw [hheld]
    exact h.due
  · show ((x.rows ++ [(s, command)]).map _).Nodup
    rw [List.map_append]
    refine List.Nodup.append h.once (List.nodup_singleton _) ?_
    intro k hk hk'
    have hfresh := h.fresh hcurrent
    rw [← hdevice] at hfresh
    rw [List.mem_singleton.mp hk'] at hk
    exact hfresh hk
  · rcases List.mem_append.mp hp with hp | hp
    · rcases h.rows p hp with hdone | ⟨ds', hds, hnot⟩
      · exact .inl hdone
      · rw [hcurrent] at hds
        obtain ⟨rfl, rfl⟩ := Prod.mk.inj (Option.some.inj hds)
        exact .inr ⟨ds, rfl, fun hin => hnot (List.mem_cons_of_mem _ hin)⟩
    · obtain rfl := List.mem_singleton.mp hp
      refine .inr ⟨ds, rfl, ?_⟩
      rw [hdevice]
      exact hleft.1
  · intro s' ds' hds
    obtain ⟨rfl, rfl⟩ := Prod.mk.inj (Option.some.inj hds)
    exact hleft.2

theorem session_settled (w : World) (x : Execution) : (x.session w).Settled := ⟨rfl, rfl⟩

/-- A dispatch that goes through adds a row for the next device. -/
theorem Sound.dispatch (h : Sound x) {w v : World} {p : TickPhase}
    (hx : x.dispatch E w = some (p, v)) :
    ∀ y, p = .running y → Sound y ∧ y.held = x.held := by
  unfold Execution.dispatch at hx
  split at hx
  · rename_i s d ds hcurrent
    rcases dispatchCommand_run (E := E) (session_settled w x) d s.commandType (s.payload.getD [])
      s.createdBy false with ⟨-, hrun⟩ | ⟨-, e, w', hrun, -⟩
    · rw [hrun] at hx
      cases hx
      intro y hy
      cases hy
      refine ⟨h.dispatched hcurrent ?_, ?_⟩
      · unfold settleDispatch
        split
        · rfl
        · rfl
      · unfold Execution.held
        rw [hcurrent]
        rfl
    · rw [hrun] at hx
      cases hx
      exact fun y hy => (nomatch hy)
  · cases hx

theorem Sound.advance (h : Sound x) {p : TickPhase} (hx : x.advance C = some p) :
    ∀ y, p = .running y → Sound y ∧ y.held = x.held := by
  rw [Execution.advance] at hx
  split at hx
  · rename_i s hcurrent
    split at hx
    · rename_i t hnext
      cases hx
      intro y hy
      cases hy
      have hheld : Execution.held { x with current := none, done := x.done ++ [(s, t)] } = x.held := by
        unfold Execution.held
        rw [hcurrent]
        simp
      refine ⟨⟨?_, ?_, fun p hp => ?_, h.once, fun p hp => ?_, fun _ _ h => (nomatch h)⟩, hheld⟩
      · rw [hheld]
        exact h.keyed
      · rw [hheld]
        exact h.due
      · rcases List.mem_append.mp hp with hp | hp
        · exact h.later p hp
        · obtain rfl := List.mem_singleton.mp hp
          exact C.later hnext
      · left
        rw [List.map_append]
        rcases h.rows p hp with hdone | ⟨ds, hds, -⟩
        · exact List.mem_append_left _ hdone
        · rw [hcurrent] at hds
          obtain ⟨rfl, -⟩ := Prod.mk.inj (Option.some.inj hds)
          exact List.mem_append_right _ (List.mem_singleton_self _)
    · cases hx
      exact fun y hy => (nomatch hy)
  · cases hx

/-! ## All of them -/

/-- The occurrence of a committed row is over: its schedule has a later time. -/
def Over (schedules : List ScheduledCommand) (p : ScheduledCommand × Command) : Prop :=
  ∃ o, p.1.nextRunAt = some o ∧ ∀ y ∈ schedules, y.id = p.1.id → ∃ n, y.nextRunAt = some n ∧ o < n

/-- The invariant of executions that keep apart. -/
structure Inv (s : Workers) : Prop where
  keyed : Keyed s.shared.schedules
  devices : (s.shared.world.committed.devices.map Device.id).Nodup
  sound : ∀ e x, s.phase e = .running x → Sound x
  current : ∀ e x, s.phase e = .running x → ∀ y ∈ x.held, y ∈ s.shared.schedules
  alone : ∀ e e' x x', s.phase e = .running x → s.phase e' = .running x' →
    ∀ y ∈ x.held, y ∈ x'.held → e = e'
  beyond : ∀ p ∈ s.issued, Over s.shared.schedules p
  once : s.Once

section

variable {s : Workers} {e : Nat}

theorem phase_set (s : Workers) (e : Nat) (p : TickPhase) (e' : Nat) :
    (s.set e p).phase e' = if e' = e then p else s.phase e' :=
  Function.update_apply s.phase e p e'

theorem inv_init {shared : Scheduler} (hkey : Keyed shared.schedules)
    (hids : (shared.world.committed.devices.map Device.id).Nodup) : Inv (init shared) :=
  ⟨hkey, hids, fun _ _ h => (nomatch h), fun _ _ h => (nomatch h), fun _ _ _ _ h => (nomatch h),
    fun _ hp => (nomatch hp), List.nodup_nil⟩

/-- An execution goes on with the rows it holds, or lets go of them. -/
theorem Inv.set (h : Inv s) {p : TickPhase}
    (hp : ∀ y, p = .running y → Sound y ∧ ∃ x, s.phase e = .running x ∧ y.held = x.held) :
    Inv (s.set e p) := by
  have hheld : ∀ e' y, (s.set e p).phase e' = .running y →
      Sound y ∧ ∃ x, s.phase e' = .running x ∧ y.held = x.held := by
    intro e' y hy
    rw [phase_set] at hy
    split at hy
    · rename_i he
      rw [he]
      exact hp y hy
    · exact ⟨h.sound e' y hy, y, hy, rfl⟩
  refine ⟨h.keyed, h.devices, fun e' y hy => (hheld e' y hy).1, ?_, ?_, h.beyond, h.once⟩
  · intro e' y hy z hz
    obtain ⟨-, x, hx, hsame⟩ := hheld e' y hy
    rw [hsame] at hz
    exact h.current e' x hx z hz
  · intro e₁ e₂ y₁ y₂ hy₁ hy₂ z hz₁ hz₂
    obtain ⟨-, x₁, hx₁, hsame₁⟩ := hheld e₁ y₁ hy₁
    obtain ⟨-, x₂, hx₂, hsame₂⟩ := hheld e₂ y₂ hy₂
    rw [hsame₁] at hz₁
    rw [hsame₂] at hz₂
    exact h.alone e₁ e₂ x₁ x₂ hx₁ hx₂ z hz₁ hz₂

theorem Inv.select (h : Inv s) {now : Nat} (hphase : s.phase e = .started now)
    (hfree : Separate s (.select e)) :
    Inv (s.set e (.running (.select now s.shared.schedules))) := by
  have hcases : ∀ e' y, (s.set e (.running (.select now s.shared.schedules))).phase e' = .running y →
      (e' = e ∧ y = .select now s.shared.schedules) ∨ s.phase e' = .running y := by
    intro e' y hy
    rw [phase_set] at hy
    split at hy
    · rename_i he
      cases hy
      exact .inl ⟨he, rfl⟩
    · exact .inr hy
  have hclash : ∀ e' x, s.phase e' = .running x → ∀ y ∈ x.held,
      y ∈ (Execution.select now s.shared.schedules).held → False := by
    intro e' x hx y hy hy'
    obtain ⟨hmem, hdue⟩ := List.mem_filter.mp (show y ∈ s.shared.schedules.filter _ from hy')
    exact hfree now hphase y hmem hdue e' x hx y hy rfl
  refine ⟨h.keyed, h.devices, ?_, ?_, ?_, h.beyond, h.once⟩
  · intro e' y hy
    rcases hcases e' y hy with ⟨-, rfl⟩ | hold
    · exact sound_select h.keyed
    · exact h.sound e' y hold
  · intro e' y hy z hz
    rcases hcases e' y hy with ⟨-, rfl⟩ | hold
    · exact (List.mem_filter.mp (show z ∈ s.shared.schedules.filter _ from hz)).1
    · exact h.current e' y hold z hz
  · intro e₁ e₂ y₁ y₂ hy₁ hy₂ z hz₁ hz₂
    rcases hcases e₁ y₁ hy₁ with ⟨rfl, rfl⟩ | hold₁
    · rcases hcases e₂ y₂ hy₂ with ⟨rfl, rfl⟩ | hold₂
      · rfl
      · exact (hclash e₂ y₂ hold₂ z hz₂ hz₁).elim
    · rcases hcases e₂ y₂ hy₂ with ⟨rfl, rfl⟩ | hold₂
      · exact (hclash e₁ y₁ hold₁ z hz₁ hz₂).elim
      · exact h.alone e₁ e₂ y₁ y₂ hold₁ hold₂ z hz₁ hz₂

/-- Only the ids of the devices matter of the rest of the database. -/
theorem Inv.world (h : Inv s) {w : World}
    (hids : (w.committed.devices.map Device.id).Nodup) :
    Inv { s with shared := { s.shared with world := w } } :=
  ⟨h.keyed, hids, h.sound, h.current, h.alone, h.beyond, h.once⟩

/-! ### The commit -/

theorem write_id (x : Execution) (y : ScheduledCommand) : (x.write y).id = y.id := by
  rw [Execution.write]
  split
  · rfl
  · rfl

/-- An UPDATE is for a row the execution holds, and its time is to come. -/
theorem write_cases (hx : Sound x) (y : ScheduledCommand) :
    x.write y = y ∧ (∀ z ∈ x.done.map Prod.fst, z.id ≠ y.id) ∨
    ∃ z n, z ∈ x.held ∧ z.id = y.id ∧ (x.write y).nextRunAt = some n ∧ x.now < n := by
  rw [Execution.write]
  cases hfind : x.done.find? fun p => p.1.id == y.id with
  | none =>
    refine .inl ⟨rfl, fun z hz hid => ?_⟩
    obtain ⟨p, hp, rfl⟩ := List.mem_map.mp hz
    have hno := List.find?_eq_none.mp hfind p hp
    exact hno (beq_iff_eq.mpr hid)
  | some p =>
    obtain ⟨hp, hid⟩ := Rows.find_eq_some hfind
    exact .inr ⟨p.1, p.2, List.mem_append_left _ (List.mem_map_of_mem hp), hid, rfl, hx.later p hp⟩

/-- What is dispatched belongs to a schedule that is done, once the tick is over. -/
theorem rows_done (hx : Sound x) (h : x.finished = true) :
    ∀ p ∈ x.rows, p.1 ∈ x.done.map Prod.fst := by
  intro p hp
  rw [Execution.finished, Bool.and_eq_true, Option.isNone_iff_eq_none] at h
  rcases hx.rows p hp with hdone | ⟨ds, hds, -⟩
  · exact hdone
  · rw [h.1] at hds
    cases hds

/-- The row of an execution is over with its commit, and so is what was over before. -/
theorem over_commit (h : Inv s) {x : Execution} (hphase : s.phase e = .running x)
    (hfin : x.finished = true) :
    ∀ p ∈ s.issued ++ x.rows, Over (s.shared.schedules.map x.write) p := by
  have hx := h.sound e x hphase
  intro p hp
  rcases List.mem_append.mp hp with hp | hp
  · obtain ⟨o, ho, hlater⟩ := h.beyond p hp
    refine ⟨o, ho, fun y' hy' hid => ?_⟩
    obtain ⟨y, hy, rfl⟩ := List.mem_map.mp hy'
    rw [write_id] at hid
    obtain ⟨n, hn, hlt⟩ := hlater y hy hid
    rcases write_cases hx y with ⟨hsame, -⟩ | ⟨z, m, hz, hzid, hm, hnow⟩
    · rw [hsame]
      exact ⟨n, hn, hlt⟩
    · obtain rfl : z = y := h.keyed.eq (h.current e x hphase z hz) hy hzid
      obtain ⟨r, hr, hdue⟩ := hx.due z hz
      obtain rfl : n = r := Option.some.inj (hn.symm.trans hr)
      exact ⟨m, hm, by omega⟩
  · have hdone := rows_done hx hfin p hp
    obtain ⟨o, ho, hdue⟩ := hx.due p.1 (List.mem_append_left _ hdone)
    refine ⟨o, ho, fun y' hy' hid => ?_⟩
    obtain ⟨y, hy, rfl⟩ := List.mem_map.mp hy'
    rw [write_id] at hid
    rcases write_cases hx y with ⟨-, hnone⟩ | ⟨z, m, -, -, hm, hnow⟩
    · exact absurd hid.symm (hnone p.1 hdone)
    · exact ⟨m, hm, by omega⟩

/-- The commit adds no occurrence that has been issued. -/
theorem once_commit (h : Inv s) {x : Execution} (hphase : s.phase e = .running x)
    (hfin : x.finished = true) : ((s.issued ++ x.rows).map occurrence).Nodup := by
  have hx := h.sound e x hphase
  rw [List.map_append]
  refine List.Nodup.append h.once ?_ ?_
  · have honce : ((x.rows.map occurrence).map fun k => (k.1, k.2.2)).Nodup := by
      rw [List.map_map]
      exact hx.once
    exact honce.of_map _
  · intro k hk hk'
    obtain ⟨p, hp, rfl⟩ := List.mem_map.mp hk
    obtain ⟨q, hq, hsame⟩ := List.mem_map.mp hk'
    obtain ⟨hid, hrest⟩ := Prod.mk.inj hsame
    obtain ⟨o, ho, hlater⟩ := h.beyond p hp
    have hheld : q.1 ∈ x.held := List.mem_append_left _ (rows_done hx hfin q hq)
    obtain ⟨n, hn, hlt⟩ := hlater q.1 (h.current e x hphase q.1 hheld) hid
    have hnext : q.1.nextRunAt = p.1.nextRunAt := congrArg Prod.fst hrest
    rw [hn, ho] at hnext
    have heq : n = o := Option.some.inj hnext
    omega

theorem Inv.commit (h : Inv s) {x : Execution} (hphase : s.phase e = .running x)
    (hfin : x.finished = true) : Inv (s.committed e x) := by
  have hx := h.sound e x hphase
  have hother : ∀ e' y, (s.committed e x).phase e' = .running y →
      e' ≠ e ∧ s.phase e' = .running y := by
    intro e' y hy
    have hset : (s.set e .idle).phase e' = .running y := hy
    rw [phase_set] at hset
    split at hset
    · cases hset
    · rename_i hne
      exact ⟨hne, hset⟩
  refine ⟨?_, h.devices, fun e' y hy => h.sound e' y (hother e' y hy).2, ?_, ?_,
    over_commit h hphase hfin, once_commit h hphase hfin⟩
  · show ((s.shared.schedules.map x.write).map ScheduledCommand.id).Nodup
    have hsame : s.shared.schedules.map (ScheduledCommand.id ∘ x.write) =
        s.shared.schedules.map ScheduledCommand.id :=
      List.map_congr_left fun y _ => write_id x y
    rw [List.map_map, hsame]
    exact h.keyed
  · -- what another execution holds is none of the rows that are written
    intro e' y hy z hz
    obtain ⟨hne, hold⟩ := hother e' y hy
    have hmem := h.current e' y hold z hz
    refine List.mem_map.mpr ⟨z, hmem, ?_⟩
    rcases write_cases hx z with ⟨hsame, -⟩ | ⟨w, n, hw, hid, -⟩
    · exact hsame
    · obtain rfl : w = z := h.keyed.eq (h.current e x hphase w hw) hmem hid
      exact absurd (h.alone e' e y x hold hphase w hz hw) hne
  · intro e₁ e₂ y₁ y₂ hy₁ hy₂
    exact h.alone e₁ e₂ y₁ y₂ (hother e₁ y₁ hy₁).2 (hother e₂ y₂ hy₂).2

/-! ## Runs -/

theorem running_of_eq {p : TickPhase} {x : Execution} (h : p.running? = some x) : p = .running x := by
  cases p with
  | idle => cases h
  | started now => cases h
  | running y => rw [Option.some.inj h]

/-- What a step of executions that keep apart preserves. -/
theorem inv_step (s : Workers) (l : Label) (t : Workers) (hsep : Separate s l)
    (hstep : step E C s l = some t) (h : Inv s) : Inv t := by
  cases l with
  | start e =>
    simp only [step] at hstep
    split at hstep
    · cases hstep
      exact h.set fun y hy => (nomatch hy)
    · cases hstep
  -- What separates the executions is used here only.
  | select e =>
    simp only [step] at hstep
    split at hstep
    · rename_i now hphase
      cases hstep
      exact h.select hphase hsep
    · cases hstep
  | targets e =>
    obtain ⟨x, hx, hstep⟩ := Option.bind_eq_some_iff.mp hstep
    obtain ⟨x', hx', rfl⟩ := Option.map_eq_some_iff.mp hstep
    have hphase := running_of_eq hx
    obtain ⟨hsound, hheld⟩ := (h.sound e x hphase).targets h.devices hx'
    apply h.set
    intro y hy
    cases hy
    exact ⟨hsound, x, hphase, hheld⟩
  | dispatch e =>
    obtain ⟨x, hx, hstep⟩ := Option.bind_eq_some_iff.mp hstep
    obtain ⟨⟨p, v⟩, hp, rfl⟩ := Option.map_eq_some_iff.mp hstep
    have hphase := running_of_eq hx
    have hset : Inv (s.set e p) := h.set fun y hy => by
      obtain ⟨hsound, hheld⟩ := (h.sound e x hphase).dispatch hp y hy
      exact ⟨hsound, x, hphase, hheld⟩
    exact hset.world h.devices
  | advance e =>
    obtain ⟨x, hx, hstep⟩ := Option.bind_eq_some_iff.mp hstep
    obtain ⟨p, hp, rfl⟩ := Option.map_eq_some_iff.mp hstep
    have hphase := running_of_eq hx
    apply h.set
    intro y hy
    obtain ⟨hsound, hheld⟩ := (h.sound e x hphase).advance hp y hy
    exact ⟨hsound, x, hphase, hheld⟩
  | commit e =>
    obtain ⟨x, hx, hstep⟩ := Option.bind_eq_some_iff.mp hstep
    split at hstep
    · rename_i hfin
      cases hstep
      exact h.commit (running_of_eq hx) hfin
    · cases hstep
  | abort e =>
    cases hstep
    exact h.set fun y hy => (nomatch hy)
  | serve rewrite enrolled world =>
    obtain ⟨shared, hshared, rfl⟩ := Option.map_eq_some_iff.mp hstep
    simp only [Scheduler.step] at hshared
    split at hshared
    · rename_i hids
      cases hshared
      exact h.world hids
    · cases hshared

end

/-- In every interleaving in which no execution selects a schedule that another has selected and is
    still at, each occurrence leads to at most one Command row for a device.

    The SELECT of the due schedules takes no lock.  The invariant ties the rows of every execution to the schedules
    it holds, and inside the condition no two executions hold one schedule. -/
theorem occurrence_once {shared : Scheduler} {ls : List Label} {t : Workers}
    (hkey : Keyed shared.schedules)
    (hids : (shared.world.committed.devices.map Device.id).Nodup)
    (hguard : Run.Guarded (step E C) Separate (init shared) ls)
    (hrun : Run.exec (step E C) (init shared) ls = some t) : t.Once :=
  (Run.exec_inv inv_step hguard hrun (inv_init hkey hids)).once

/-! ## One schedule, two executions -/

/-- A reboot of device 5 is due. -/
def rebootDue : Scheduler := { rebootAnd "reboot" with schedules := [minutely 21 "reboot"] }

/-- An execution with one due schedule for one device, after its start. -/
def tickBody (e : Nat) : List Label := [.targets e, .dispatch e, .advance e, .commit e]

/-- An execution that is alone. -/
theorem once_alone :
    ∃ t, Run.exec (step Env.sample everyMinute) (init rebootDue)
        ([.start 0, .select 0] ++ tickBody 0) = some t ∧ t.issued.length = 1 ∧ t.Once := by
  have hrun : (Run.exec (step Env.sample everyMinute) (init rebootDue)
      ([.start 0, .select 0] ++ tickBody 0)).map (fun t => t.issued.length) = some 1 := by
    decide +kernel
  obtain ⟨t, ht, hlength⟩ := Option.map_eq_some_iff.mp hrun
  have hkey : Keyed rebootDue.schedules := List.nodup_singleton _
  have hids : (rebootDue.world.committed.devices.map Device.id).Nodup := List.nodup_singleton _
  refine ⟨t, ht, hlength, occurrence_once hkey hids ?_ ht⟩
  refine ⟨trivial, fun s₁ h₁ => ⟨?_, fun s₂ _ => ?_⟩⟩
  · obtain rfl : (init rebootDue).set 0 (.started 0) = s₁ := Option.some.inj h₁
    intro now _ y _ _ e' x hx
    rw [phase_set] at hx
    split at hx
    · cases hx
    · cases hx
  · exact ⟨trivial, fun _ _ => ⟨trivial, fun _ _ => ⟨trivial, fun _ _ => ⟨trivial, fun _ _ =>
      trivial⟩⟩⟩⟩

/-- The second execution selects before the first has committed, and the device reboots twice. -/
theorem reboot_twice :
    ∃ t, Run.exec (step Env.sample everyMinute) (init rebootDue)
        ([.start 0, .select 0, .start 1, .select 1] ++ tickBody 0 ++ tickBody 1) = some t ∧
      ¬ t.Once := by
  have hrun : (Run.exec (step Env.sample everyMinute) (init rebootDue)
      ([.start 0, .select 0, .start 1, .select 1] ++ tickBody 0 ++ tickBody 1)).map
        (fun t => t.issued.map occurrence) = some [(21, some 0, 5), (21, some 0, 5)] := by
    decide +kernel
  obtain ⟨t, ht, hissued⟩ := Option.map_eq_some_iff.mp hrun
  refine ⟨t, ht, fun honce => ?_⟩
  rw [Once, hissued] at honce
  exact absurd honce (by decide)

end Workers

end Dtsys
