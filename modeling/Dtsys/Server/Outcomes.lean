/-
  WHAT A TICK DOES FOR ONE SCHEDULE, and whether the other due schedules have a say in it.

  The outcome of a due schedule is the Command rows the tick has committed for it, and what its
  `last_run_at` and `next_run_at` are afterwards.  All due schedules share one session and one
  commit, with no savepoint around a dispatch (the bulk request has one for each device), so the
  outcome of every schedule hangs on the last of them: either every dispatch goes through, or all
  rows are as they were and everything is due again.

  * `outcome_of_passes` and `outcome_of_raise` are the two outcomes there are.
  * `isolated_iff` says when the outcomes are those the schedules have alone.
-/
import Dtsys.Lib.Rows
import Dtsys.Server.Ticks

namespace Dtsys

namespace Scheduler

open Server

variable {E : Env} {C : Cron} {st : Scheduler} {s : ScheduledCommand}

/-- What a tick has committed for a schedule; the ids of its Command rows are left out. -/
structure Outcome where
  commands : List Command
  lastRunAt : Option Nat
  nextRunAt : Option Nat

/-- The Command rows of a schedule among those of the tick. -/
def commandsOf (s : ScheduledCommand) (outs : List (ScheduledCommand × List Command)) :
    List Command :=
  ((outs.find? fun o => o.1.id == s.id).map fun o => o.2.map anonymous).getD []

/-- The outcome of a tick for a schedule; of a tick that raised no Command row is left. -/
def outcome (E : Env) (C : Cron) (st : Scheduler) (s : ScheduledCommand) : Outcome :=
  match runTick E C st with
  | (r, u) =>
    { commands := match r with
        | .ok outs => commandsOf s outs
        | .error _ => []
      lastRunAt := (getSchedule s.id u.schedules).bind ScheduledCommand.lastRunAt
      nextRunAt := (getSchedule s.id u.schedules).bind ScheduledCommand.nextRunAt }

/-- Every due schedule has the outcome it would have if nothing else were scheduled. -/
def Isolated (E : Env) (C : Cron) (st : Scheduler) : Prop :=
  ∀ s ∈ dueRows st, outcome E C st s = outcome E C { st with schedules := [s] } s

/-! ## The two outcomes -/

/-- A schedule is found under its id. -/
theorem Keyed.find {schedules : List ScheduledCommand} (h : Keyed schedules) (hs : s ∈ schedules) :
    schedules.find? (fun x => x.id == s.id) = some s := by
  obtain ⟨x, hx⟩ := Rows.find_of_mem (List.mem_map_of_mem (f := ScheduledCommand.id) hs)
  obtain ⟨hmem, hid⟩ := Rows.find_eq_some hx
  rw [hx, h.eq hmem hs hid]

/-- The due rows have their own ids. -/
theorem Keyed.due (h : Keyed st.schedules) : Keyed (dueRows st) :=
  h.sublist (List.filter_sublist.map _)

theorem mem_of_due (hs : s ∈ dueRows st) : s ∈ st.schedules := (List.mem_filter.mp hs).1

/-- The next time of a readable expression is to come. -/
theorem Readable.later {now : Nat} (h : Readable C now s) : now < nextTime C now s := by
  obtain ⟨t, ht⟩ := h
  rw [nextTime_of_ok ht]
  exact C.later ht

/-- A tick that goes through can read every expression. -/
theorem Passes.readable {w : World} : ∀ {rows : List ScheduledCommand} {pre : List Uuid},
    Passes E C w pre rows → ∀ s ∈ rows, Readable C w.clock s := by
  intro rows pre h s hs
  exact (h.alone s hs).1.2

/-- The outcome of a tick that went through: every target has its row, and the schedule goes on. -/
theorem outcome_of_passes (hclean : st.world.Clean) (hkey : Keyed st.schedules)
    (hpass : Passes E C st.world [] (dueRows st)) (hs : s ∈ dueRows st) :
    outcome E C st s = ⟨scheduleRows E st.world s, some st.world.clock,
      some (nextTime C st.world.clock s)⟩ := by
  rcases runTick_run (E := E) (C := C) hclean hkey with ⟨-, outs, u, hrun, hticked⟩ | ⟨hnot, -⟩
  · have hcommands : commandsOf s outs = scheduleRows E st.world s := by
      have hfind : (outs.map fun o => (o.1, o.2.map anonymous)).find? (fun o => o.1.id == s.id) =
          some (s, scheduleRows E st.world s) := by
        rw [hticked.rows, List.find?_map]
        show Option.map _ ((dueRows st).find? fun x => x.id == s.id) = _
        rw [hkey.due.find hs]
        rfl
      rw [List.find?_map] at hfind
      obtain ⟨o, ho, hout⟩ := Option.map_eq_some_iff.mp hfind
      have hfound : outs.find? (fun o => o.1.id == s.id) = some o := ho
      rw [commandsOf, hfound]
      exact congrArg Prod.snd hout
    have hrow : getSchedule s.id u.schedules = some { s with
        lastRunAt := some st.world.clock, nextRunAt := some (nextTime C st.world.clock s) } := by
      have hadvanced : advanced C st.world.clock (dueRows st) s = { s with
          lastRunAt := some st.world.clock, nextRunAt := some (nextTime C st.world.clock s) } := by
        have hany : (dueRows st).any (fun x => x.id == s.id) = true :=
          List.any_eq_true.mpr ⟨s, hs, beq_self_eq_true _⟩
        exact if_pos hany
      rw [getSchedule, hticked.schedules, List.find?_map, ← hadvanced]
      have hsame : ((fun x => x.id == s.id) ∘ advanced C st.world.clock (dueRows st)) =
          fun x => x.id == s.id := funext fun x => by
        show ((advanced C st.world.clock (dueRows st) x).id == s.id) = _
        rw [advanced_id]
      rw [hsame, hkey.find (mem_of_due hs)]
      rfl
    rw [outcome, hrun]
    show Outcome.mk _ _ _ = _
    rw [hrow, ← hcommands]
    rfl
  · exact absurd hpass hnot

/-- The outcome of a tick that raised: the schedule is as it was. -/
theorem outcome_of_raise (hclean : st.world.Clean) (hkey : Keyed st.schedules)
    (hraise : ¬ Passes E C st.world [] (dueRows st)) (hs : s ∈ dueRows st) :
    outcome E C st s = ⟨[], s.lastRunAt, s.nextRunAt⟩ := by
  rcases runTick_run (E := E) (C := C) hclean hkey with ⟨hpass, -⟩ | ⟨-, e, v, hrun, -⟩
  · exact absurd hpass hraise
  · have hrow : getSchedule s.id st.schedules = some s := hkey.find (mem_of_due hs)
    rw [outcome, hrun]
    show Outcome.mk _ _ _ = _
    rw [hrow]
    rfl

/-! ## Alone and together -/

/-- The schedule is the only one. -/
theorem dueRows_alone (hs : s ∈ dueRows st) : dueRows { st with schedules := [s] } = [s] := by
  have hdue : due st.world.clock s = true := (List.mem_filter.mp hs).2
  show List.filter (due st.world.clock) [s] = [s]
  rw [List.filter_cons_of_pos hdue, List.filter_nil]

/-- A schedule that goes through alone. -/
theorem outcome_alone (hclean : st.world.Clean) (hs : s ∈ dueRows st)
    (hpass : Passes E C st.world [] [s]) :
    outcome E C { st with schedules := [s] } s = ⟨scheduleRows E st.world s, some st.world.clock,
      some (nextTime C st.world.clock s)⟩ := by
  have halone := dueRows_alone hs
  refine @outcome_of_passes E C { st with schedules := [s] } s hclean (List.nodup_singleton _) ?_ ?_
  · rw [halone]
    exact hpass
  · rw [halone]
    exact List.mem_singleton_self s

theorem outcome_alone_raise (hclean : st.world.Clean) (hs : s ∈ dueRows st)
    (hraise : ¬ Passes E C st.world [] [s]) :
    outcome E C { st with schedules := [s] } s = ⟨[], s.lastRunAt, s.nextRunAt⟩ := by
  have halone := dueRows_alone hs
  refine @outcome_of_raise E C { st with schedules := [s] } s hclean (List.nodup_singleton _) ?_ ?_
  · rw [halone]
    exact hraise
  · rw [halone]
    exact List.mem_singleton_self s

/-- A schedule that would go through alone is held up by a tick that raises. -/
theorem held_up (hclean : st.world.Clean) (hkey : Keyed st.schedules)
    (hraise : ¬ Passes E C st.world [] (dueRows st)) (hs : s ∈ dueRows st)
    (hpass : Passes E C st.world [] [s]) : ¬ Isolated E C st := by
  intro hall
  have hsame := hall s hs
  rw [outcome_of_raise hclean hkey hraise hs, outcome_alone hclean hs hpass] at hsame
  obtain ⟨t, ht, hover⟩ := time_of_due (List.mem_filter.mp hs).2
  have hnext : s.nextRunAt = some (nextTime C st.world.clock s) := congrArg Outcome.nextRunAt hsame
  have heq : t = nextTime C st.world.clock s := Option.some.inj (ht.symm.trans hnext)
  have hlater := (hpass.readable s (List.mem_singleton_self s)).later
  omega

/-- The outcomes are those of the schedules alone exactly when the tick goes through, or when none
    of its schedules would.

    The tick has one session and one commit.  Inside the condition the run is the sum of the runs of its schedules
    (`runTick_run`); an exception in one undoes all, which agrees with each alone only if none would go through. -/
theorem isolated_iff (hclean : st.world.Clean) (hkey : Keyed st.schedules) :
    Isolated E C st ↔ Passes E C st.world [] (dueRows st) ∨
      ∀ s ∈ dueRows st, ¬ Passes E C st.world [] [s] := by
  by_cases hpass : Passes E C st.world [] (dueRows st)
  · refine ⟨fun _ => .inl hpass, fun _ s hs => ?_⟩
    rw [outcome_of_passes hclean hkey hpass hs, outcome_alone hclean hs (hpass.alone s hs)]
  · constructor
    · exact fun hall => .inr fun s hs halone => held_up hclean hkey hpass hs halone hall
    · rintro (h | hnone) s hs
      · exact absurd h hpass
      · rw [outcome_of_raise hclean hkey hpass hs, outcome_alone_raise hclean hs (hnone s hs)]

/-! ## Two schedules of one device -/

/-- `croniter` on the expression of every minute. -/
def everyMinute : Cron where
  next expression now :=
    if expression = "* * * * *" then .ok ((now / (60 * second) + 1) * (60 * second))
    else .error .valueError
  later := by
    intro expression now t h
    have hminute : 0 < 60 * second := by decide
    split at h
    · cases h
      have hdiv := Nat.lt_mul_div_succ now hminute
      rw [Nat.mul_comm] at hdiv
      exact hdiv
    · cases h

/-- A schedule that is due at the start, for device 5. -/
def minutely (id : Uuid) (commandType : String) : ScheduledCommand where
  id := id
  orgId := 1
  deviceId := some 5
  commandType := commandType
  payload := some []
  cronExpression := "* * * * *"
  isEnabled := true
  lastRunAt := none
  nextRunAt := some 0
  createdBy := none
  createdAt := 0

/-- A reboot, and a schedule with a command type of its own. -/
def rebootAnd (commandType : String) : Scheduler where
  world := .start { Db.empty with devices := [Device.sample 5] } (Device.sample 5)
  organizations := [1]
  schedules := [minutely 21 "reboot", minutely 22 commandType]

theorem rebootAnd_clean (commandType : String) : (rebootAnd commandType).world.Clean :=
  World.start_clean _ _

theorem rebootAnd_keyed (commandType : String) : Keyed (rebootAnd commandType).schedules := by
  show [(21 : Uuid), 22].Nodup
  decide

/-- A command that is allowed can be dispatched to the sample device. -/
theorem rebootAnd_dispatchable (commandType : String) (pre : List Uuid)
    (htype : allowedCommandTypes.contains commandType = true)
    (hpayload : withTargetTime Env.sample commandType [] 0 = []) (hpre : pre.count 5 < 100)
    (id : Uuid) (other : String) :
    Dispatchable Env.sample (rebootAnd other).world (minutely id commandType) pre 5 := by
  refine ⟨htype, ?_, rfl, ?_⟩
  · show 0 + pre.count 5 < 100
    omega
  · show Env.sample.driver.accepts _ (.obj (withTargetTime Env.sample commandType [] 0)) = true
    rw [hpayload]
    rfl

theorem minutely_readable (id : Uuid) (commandType : String) (now : Nat) :
    Readable everyMinute now (minutely id commandType) := by
  refine ⟨(now / (60 * second) + 1) * (60 * second), ?_⟩
  simp [everyMinute, minutely]

/-- Two command types the agent knows. -/
theorem isolated_reboot_check : Isolated Env.sample everyMinute (rebootAnd "update_check") := by
  refine (isolated_iff (rebootAnd_clean _) (rebootAnd_keyed _)).mpr (.inl ?_)
  have hreboot := rebootAnd_dispatchable "reboot" [] (by decide +kernel) rfl (by decide) 21
    "update_check"
  have hcheck := rebootAnd_dispatchable "update_check" [5] (by decide +kernel) rfl (by decide) 22
    "update_check"
  exact ⟨⟨⟨hreboot, trivial⟩, minutely_readable ..⟩, ⟨⟨hcheck, trivial⟩, minutely_readable ..⟩,
    trivial⟩

/-- A command type that does not exist takes the reboot beside it along. -/
theorem reboot_held_up : ¬ Isolated Env.sample everyMinute (rebootAnd "format_disk") := by
  refine held_up (s := minutely 21 "reboot") (rebootAnd_clean _) (rebootAnd_keyed _) ?_ ?_ ?_
  · rintro ⟨-, ⟨⟨hdispatch, -⟩, -⟩, -⟩
    have htype := hdispatch.type
    revert htype
    decide +kernel
  · exact List.mem_cons_self
  · exact ⟨⟨⟨rebootAnd_dispatchable "reboot" [] (by decide +kernel) rfl (by decide) 21 _, trivial⟩,
      minutely_readable ..⟩, trivial⟩

end Scheduler

end Dtsys
