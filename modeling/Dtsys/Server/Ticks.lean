/-
  THE RUNS OF A TICK: exactly when `_run_scheduled_commands` goes through, and what it leaves.

  A dispatch of the tick depends on the dispatches before it only through the queue of its device:
  `Dispatchable E w s pre d` is `Admits` for `d` after dispatches to `pre`, said about the world `w`
  the tick started in.  `Passes` collects it over the devices and the rows, with the cron
  expressions.  `runTick_run` is the lemma the results about schedules use: a tick that passes has
  dispatched to every device of every due row and advanced the rows, and any other tick has changed
  nothing that is committed.

  1. One device: `dispatchable_iff`, by `Dtsys.Server.Dispatch`, after whatever the tick has sent so far.
  2. One row: `dispatchAll_run`, by induction over its devices, and `runSchedule_run`, which also moves
     the row to its next time.
  3. All rows: `runSchedules_run`, by induction over the due rows; `Reached` is what the rows done so
     far have left.
  4. The tick: `runTick_run`.  An exception anywhere undoes all of it, so `Passes` has to hold of every
     row and every device.
-/
import Mathlib.Data.List.Nodup
import Dtsys.Server.Scheduler

namespace Dtsys

namespace Scheduler

open Server

variable {E : Env} {C : Cron} {w v : World} {s : ScheduledCommand}

/-! ## What a dispatch asks for -/

/-- The dispatch of the row to `d` goes through after those to `pre`. -/
structure Dispatchable (E : Env) (w : World) (s : ScheduledCommand) (pre : List Uuid) (d : Uuid) :
    Prop where
  type : allowedCommandTypes.contains s.commandType = true
  queue : (w.db.commands.filter (queued d)).length + pre.count d < 100
  device : (w.db.devices.filter fun r => r.id == d && !r.isRevoked).length = 1
  payload : E.driver.accepts (nullable .jsonb)
    (.obj (withTargetTime E s.commandType (s.payload.getD []) w.clock)) = true

/-- The dispatches to `ds`, one after the other, after those to `pre`. -/
def AllDispatchable (E : Env) (w : World) (s : ScheduledCommand) : List Uuid → List Uuid → Prop
  | _, [] => True
  | pre, d :: ds => Dispatchable E w s pre d ∧ AllDispatchable E w s (pre ++ [d]) ds

/-- `croniter` reads the expression. -/
def Readable (C : Cron) (now : Nat) (s : ScheduledCommand) : Prop :=
  ∃ t, C.next s.cronExpression now = .ok t

/-- The rows, one after the other, after dispatches to `pre`. -/
def Passes (E : Env) (C : Cron) (w : World) : List Uuid → List ScheduledCommand → Prop
  | _, [] => True
  | pre, s :: rest => (AllDispatchable E w s pre (deviceIds s w.db) ∧ Readable C w.clock s) ∧
      Passes E C w (pre ++ deviceIds s w.db) rest

/-- A dispatch is admitted when the schedule may go to the device, after those of the tick so far. -/
theorem dispatchable_iff {pre : List Uuid} (hp : Progress w pre v) (s : ScheduledCommand) (d : Uuid) :
    Admits E v d s.commandType (s.payload.getD []) ↔ Dispatchable E w s pre d := by
  constructor
  · rintro ⟨htype, hqueue, hdevice, hpayload⟩
    rw [hp.queue] at hqueue
    rw [hp.devices] at hdevice
    rw [hp.clock] at hpayload
    exact ⟨htype, hqueue, hdevice, hpayload⟩
  · rintro ⟨htype, hqueue, hdevice, hpayload⟩
    refine ⟨htype, ?_, ?_, ?_⟩
    · rw [hp.queue]
      exact hqueue
    · rw [hp.devices]
      exact hdevice
    · rw [hp.clock]
      exact hpayload

/-- Fewer dispatches before it are no obstacle. -/
theorem Dispatchable.mono {pre pre' : List Uuid} {d : Uuid} (h : Dispatchable E w s pre' d)
    (hle : pre.count d ≤ pre'.count d) : Dispatchable E w s pre d := by
  have hqueue := h.queue
  exact ⟨h.type, by omega, h.device, h.payload⟩

theorem AllDispatchable.mono : ∀ {ds pre pre' : List Uuid}, AllDispatchable E w s pre' ds →
    (∀ d, pre.count d ≤ pre'.count d) → AllDispatchable E w s pre ds := by
  intro ds
  induction ds with
  | nil => exact fun _ _ => trivial
  | cons d ds ih =>
    intro pre pre' h hle
    refine ⟨h.1.mono (hle d), ih h.2 fun d' => ?_⟩
    rw [List.count_append, List.count_append]
    have hd := hle d'
    omega

/-- Every row of a tick that passes would pass alone. -/
theorem Passes.alone : ∀ {rows : List ScheduledCommand} {pre : List Uuid}, Passes E C w pre rows →
    ∀ s ∈ rows, Passes E C w [] [s] := by
  intro rows
  induction rows with
  | nil => exact fun _ _ hs => (nomatch hs)
  | cons s rows ih =>
    intro pre h s' hs'
    rcases List.mem_cons.mp hs' with rfl | hin
    · refine ⟨⟨h.1.1.mono fun d => ?_, h.1.2⟩, trivial⟩
      exact Nat.zero_le _
    · exact ih h.2 s' hin

/-! ## The loop over the devices -/

/-- The row a dispatch adds, apart from its id. -/
def rowFor (E : Env) (w : World) (s : ScheduledCommand) (d : Uuid) : Command :=
  settleDispatch (live w d).isSome false w.clock
    { id := 0, deviceId := d, issuedBy := s.createdBy, commandType := s.commandType,
      payload := withTargetTime E s.commandType (s.payload.getD []) w.clock, status := .pending,
      createdAt := w.clock, completedAt := none, exitCode := .null, output := .null }

/-- A command without its id. -/
def anonymous (c : Command) : Command := { c with id := 0 }

/-- The status a dispatch settles on does not depend on the id of the command. -/
theorem anonymous_settle (sent failIfOffline : Bool) (t : Nat) (c : Command) :
    anonymous (settleDispatch sent failIfOffline t c) =
      settleDispatch sent failIfOffline t (anonymous c) := by
  unfold settleDispatch
  split
  · rfl
  · split
    · rfl
    · rfl

/-- The loop goes through exactly when every dispatch does, and adds one row for each device. -/
theorem dispatchAll_run (s : ScheduledCommand) : ∀ (ds pre : List Uuid) (v : World),
    Progress w pre v →
    (AllDispatchable E w s pre ds ∧ ∃ cs v', dispatchAll E s ds v = (.ok cs, v') ∧
      Progress w (pre ++ ds) v' ∧ v'.db.commands = v.db.commands ++ cs ∧
      cs.map anonymous = ds.map (rowFor E w s)) ∨
    (¬ AllDispatchable E w s pre ds ∧ ∃ e v', dispatchAll E s ds v = (.error e, v') ∧
      v'.committed = w.committed) := by
  intro ds
  induction ds with
  | nil =>
    intro pre v hp
    refine .inl ⟨trivial, [], v, rfl, ?_, (List.append_nil _).symm, rfl⟩
    rw [List.append_nil]
    exact hp
  | cons d ds ih =>
    intro pre v hp
    rw [dispatchAll]
    rcases dispatchCommand_run (E := E) hp.settled d s.commandType (s.payload.getD []) s.createdBy
      false with ⟨hadm, hrun⟩ | ⟨hrej, e, v', hrun, -, hcommitted, -⟩
    · have hd : Dispatchable E w s pre d := (dispatchable_iff hp s d).mp hadm
      rw [Act.bind_of_ok hrun]
      have hp' := hp.step (E := E) d s.commandType (s.payload.getD []) s.createdBy
      rcases ih (pre ++ [d]) _ hp' with ⟨hall, cs, v', hrest, hprogress, hcommands, hrows⟩ |
        ⟨hnot, e, v', hrest, hcommitted⟩
      · refine .inl ⟨⟨hd, hall⟩, _, v', Act.bind_of_ok hrest, ?_, ?_, ?_⟩
        · rw [List.append_assoc] at hprogress
          exact hprogress
        · rw [hcommands]
          exact List.append_assoc ..
        · rw [List.map_cons, List.map_cons, hrows, anonymous_settle, hp.live, hp.clock]
          congr 1
          rw [rowFor, anonymous, newCommand, hp.clock]
      · exact .inr ⟨fun hall => hnot hall.2, e, v', Act.bind_of_error hrest, hcommitted⟩
    · refine .inr ⟨fun hall => hrej ((dispatchable_iff hp s d).mpr hall.1), e, v',
        Act.bind_of_error hrun, hcommitted.trans hp.committed⟩

/-! ## The loop over the rows -/

/-- The next time of an expression that can be read. -/
def nextTime (C : Cron) (now : Nat) (s : ScheduledCommand) : Nat :=
  match C.next s.cronExpression now with
  | .ok t => t
  | .error _ => 0

theorem nextTime_of_ok {now t : Nat} (h : C.next s.cronExpression now = .ok t) :
    nextTime C now s = t := by
  rw [nextTime, h]

/-- A row after the tick has been through the rows `done`. -/
def advanced (C : Cron) (now : Nat) (done : List ScheduledCommand) (x : ScheduledCommand) :
    ScheduledCommand :=
  if done.any (fun s => s.id == x.id) then
    { x with lastRunAt := some now, nextRunAt := some (nextTime C now x) }
  else x

theorem advanced_id (now : Nat) (done : List ScheduledCommand) (x : ScheduledCommand) :
    (advanced C now done x).id = x.id := by
  rw [advanced]
  split
  · rfl
  · rfl

/-- The primary key: one row per id. -/
def Keyed (schedules : List ScheduledCommand) : Prop := (schedules.map ScheduledCommand.id).Nodup

/-- Two schedules of one id are one. -/
theorem Keyed.eq {schedules : List ScheduledCommand} (h : Keyed schedules) {x y : ScheduledCommand}
    (hx : x ∈ schedules) (hy : y ∈ schedules) (hid : x.id = y.id) : x = y :=
  List.inj_on_of_nodup_map h hx hy hid

/-- One more row is advanced. -/
theorem map_advanced_snoc {schedules done : List ScheduledCommand} (hkey : Keyed schedules)
    (hs : s ∈ schedules) (now : Nat) :
    (schedules.map (advanced C now done)).map (fun x =>
        if x.id = s.id then { x with lastRunAt := some now, nextRunAt := some (nextTime C now s) }
        else x) =
      schedules.map (advanced C now (done ++ [s])) := by
  rw [List.map_map]
  apply List.map_congr_left
  intro x hx
  show (if (advanced C now done x).id = s.id then _ else _) = _
  rw [advanced_id]
  by_cases hid : x.id = s.id
  · obtain rfl := hkey.eq hx hs hid
    have hdone : (done ++ [x]).any (fun s => s.id == x.id) = true := by simp
    rw [if_pos rfl]
    unfold advanced
    rw [if_pos hdone]
    split
    · rfl
    · rfl
  · have hsame : (done ++ [s]).any (fun s => s.id == x.id) = done.any fun s => s.id == x.id := by
      rw [List.any_append]
      simp [Ne.symm hid]
    rw [if_neg hid]
    unfold advanced
    rw [hsame]

/-- The tick started in `st` has been through `done`, dispatching to `pre`. -/
structure Reached (C : Cron) (st : Scheduler) (done : List ScheduledCommand) (pre : List Uuid)
    (u : Scheduler) : Prop where
  progress : Progress st.world pre u.world
  organizations : u.organizations = st.organizations
  schedules : u.schedules = st.schedules.map (advanced C st.world.clock done)

/-- The rows a due schedule adds. -/
def scheduleRows (E : Env) (w : World) (s : ScheduledCommand) : List Command :=
  (deviceIds s w.db).map (rowFor E w s)

section Loop

variable {st u : Scheduler}

theorem onWorld_of_eq {α : Type} {x : Server α} {r : Except PyErr α} {v : World}
    (h : x u.world = (r, v)) : onWorld x u = (r, { u with world := v }) := by
  rw [onWorld, h]

/-- One row: it goes through when its dispatches do and its expression can be read. -/
theorem runSchedule_run {done : List ScheduledCommand} {pre : List Uuid}
    (hkey : Keyed st.schedules) (hu : Reached C st done pre u) (hs : s ∈ st.schedules) :
    ((AllDispatchable E st.world s pre (deviceIds s st.world.db) ∧ Readable C st.world.clock s) ∧
      ∃ cs u', runSchedule E C st.world.clock s u = (.ok cs, u') ∧
        Reached C st (done ++ [s]) (pre ++ deviceIds s st.world.db) u' ∧
        u'.world.db.commands = u.world.db.commands ++ cs ∧
        cs.map anonymous = scheduleRows E st.world s) ∨
    (¬ (AllDispatchable E st.world s pre (deviceIds s st.world.db) ∧
        Readable C st.world.clock s) ∧
      ∃ e u', runSchedule E C st.world.clock s u = (.error e, u') ∧
        u'.world.committed = st.world.committed) := by
  have hids : deviceIds s u.world.db = deviceIds s st.world.db := by
    unfold deviceIds
    rw [hu.progress.devices]
  have hselect : onWorld (select E (deviceIds s)) u = (.ok (deviceIds s st.world.db), u) := by
    rw [onWorld_of_eq (select_settled hu.progress.settled _), hids]
  rw [runSchedule, Act.bind_of_ok hselect]
  rcases dispatchAll_run (E := E) s (deviceIds s st.world.db) pre u.world hu.progress with
    ⟨hall, cs, v, hrun, hprogress, hcommands, hrows⟩ | ⟨hnot, e, v, hrun, hcommitted⟩
  · rw [Act.bind_of_ok (onWorld_of_eq hrun)]
    cases hnext : C.next s.cronExpression st.world.clock with
    | error e =>
      refine .inr ⟨fun hboth => ?_, e, _, rfl, hprogress.committed⟩
      obtain ⟨t, ht⟩ := hboth.2
      rw [hnext] at ht
      cases ht
    | ok t =>
      refine .inl ⟨⟨hall, t, hnext⟩, cs, _, rfl, ⟨hprogress, hu.organizations, ?_⟩, hcommands,
        hrows⟩
      show u.schedules.map _ = _
      rw [hu.schedules, ← map_advanced_snoc hkey hs, nextTime_of_ok hnext]
  · exact .inr ⟨fun hboth => hnot hboth.1, e, _, Act.bind_of_error (onWorld_of_eq hrun), hcommitted⟩

/-- The loop over the due rows goes through exactly when they pass. -/
theorem runSchedules_run (hkey : Keyed st.schedules) : ∀ (rows done : List ScheduledCommand)
    (pre : List Uuid) (u : Scheduler), Reached C st done pre u → (∀ s ∈ rows, s ∈ st.schedules) →
    (Passes E C st.world pre rows ∧
      ∃ outs u' post, runSchedules E C st.world.clock rows u = (.ok outs, u') ∧
        Reached C st (done ++ rows) post u' ∧
        u'.world.db.commands = u.world.db.commands ++ outs.flatMap (·.2) ∧
        outs.map (fun o => (o.1, o.2.map anonymous)) =
          rows.map fun s => (s, scheduleRows E st.world s)) ∨
    (¬ Passes E C st.world pre rows ∧
      ∃ e u', runSchedules E C st.world.clock rows u = (.error e, u') ∧
        u'.world.committed = st.world.committed) := by
  intro rows
  induction rows with
  | nil =>
    intro done pre u hu _
    refine .inl ⟨trivial, [], u, pre, rfl, ?_, (List.append_nil _).symm, rfl⟩
    rw [List.append_nil]
    exact hu
  | cons s rows ih =>
    intro done pre u hu hmem
    rw [runSchedules]
    rcases runSchedule_run (E := E) hkey hu (hmem s List.mem_cons_self) with
      ⟨hpass, cs, u', hrun, hu', hcommands, hrows⟩ | ⟨hnot, e, u', hrun, hcommitted⟩
    · rw [Act.bind_of_ok hrun]
      rcases ih (done ++ [s]) _ u' hu' (fun x hx => hmem x (List.mem_cons_of_mem _ hx)) with
        ⟨hrest, outs, u'', post, hloop, hu'', hcommands', houts⟩ | ⟨hnot, e, u'', hloop, hcommitted⟩
      · refine .inl ⟨⟨hpass, hrest⟩, _, u'', post, Act.bind_of_ok hloop, ?_, ?_, ?_⟩
        · rw [List.append_assoc] at hu''
          exact hu''
        · rw [hcommands', hcommands, List.flatMap_cons, List.append_assoc]
        · rw [List.map_cons, List.map_cons, houts, hrows]
      · exact .inr ⟨fun hall => hnot hall.2, e, u'', Act.bind_of_error hloop, hcommitted⟩
    · exact .inr ⟨fun hall => hnot hall.1, e, u', Act.bind_of_error hrun, hcommitted⟩

end Loop

/-! ## The tick -/

/-- The rows that are due. -/
def dueRows (st : Scheduler) : List ScheduledCommand :=
  st.schedules.filter (due st.world.clock)

/-- What a tick that went through has left. -/
structure Ticked (E : Env) (C : Cron) (st : Scheduler)
    (outs : List (ScheduledCommand × List Command)) (u : Scheduler) : Prop where
  clean : u.world.Clean
  clock : u.world.clock = st.world.clock
  organizations : u.organizations = st.organizations
  schedules : u.schedules = st.schedules.map (advanced C st.world.clock (dueRows st))
  devices : u.world.committed.devices = st.world.committed.devices
  commands : u.world.committed.commands = st.world.committed.commands ++ outs.flatMap (·.2)
  rows : outs.map (fun o => (o.1, o.2.map anonymous)) =
    (dueRows st).map fun s => (s, scheduleRows E st.world s)

/-- **The run of a tick.**  It goes through exactly when the due rows pass; if they do not, nothing
    that is committed has changed. -/
theorem runTick_run {st : Scheduler} (hclean : st.world.Clean) (hkey : Keyed st.schedules) :
    (Passes E C st.world [] (dueRows st) ∧
      ∃ outs u, runTick E C st = (.ok outs, u) ∧ Ticked E C st outs u) ∨
    (¬ Passes E C st.world [] (dueRows st) ∧
      ∃ e v, runTick E C st = (.error e, { st with world := v }) ∧
        v.committed = st.world.committed) := by
  have hstart : Reached C st [] [] st :=
    ⟨.start hclean.toSettled, rfl, (List.map_id _).symm.trans (List.map_congr_left fun _ _ => rfl)⟩
  rw [runTick, tick, Act.read_bind, Act.read_bind]
  rcases runSchedules_run (E := E) hkey (dueRows st) [] [] st hstart
    (fun _ hs => (List.mem_filter.mp hs).1) with
    ⟨hpass, outs, u, post, hloop, hu, hcommands, houts⟩ | ⟨hnot, e, u, hloop, hcommitted⟩
  · have hset := hu.progress.settled
    have hcommit : onWorld (commit E) u =
        (.ok (), { u with world := { u.world with committed := u.world.db } }) :=
      onWorld_of_eq (commit_settled E hset)
    refine .inl ⟨hpass, outs, { u with world := { u.world with committed := u.world.db } }, ?_,
      ⟨⟨hset.pending, hset.loaded⟩, rfl⟩, hu.progress.clock,
      hu.organizations, hu.schedules, ?_, ?_, houts⟩
    · rw [show st.schedules.filter (due st.world.clock) = dueRows st from rfl,
        Act.bind_of_ok hloop, Act.bind_of_ok hcommit]
      rfl
    · exact hu.progress.devices.trans (congrArg Db.devices hclean.db)
    · rw [← hclean.db]
      exact hcommands
  · refine .inr ⟨hnot, e, rollback u.world, ?_, hcommitted⟩
    rw [show st.schedules.filter (due st.world.clock) = dueRows st from rfl,
      Act.bind_of_error hloop]

end Scheduler

end Dtsys
