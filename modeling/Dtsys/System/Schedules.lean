/-
  SCHEDULES AND ORGANIZATIONS: which devices the ticks of the scheduler reach.

  `scheduled_commands` says of `device_id`: "Null = run on all org devices".  The run here is that of
  the whole server as the scheduler sees it: requests that create, change and delete schedules, ticks,
  and whatever else is served in between (`serve`: device rows are added and rewritten, but nothing
  deletes a device or writes its `org_id`).

  Nothing in the code compares the organization of a schedule with that of a device: not the two
  requests that take a `device_id`, and not the tick, which goes over every device that is not
  revoked.  So a schedule stays inside its organization where the requests name devices of it, and
  where a tick with a schedule for all devices finds no device of another organization
  (`schedules_stay_inside`).
-/
import Dtsys.Lib.Rows
import Dtsys.Lib.Run
import Dtsys.Server.Lifecycle
import Dtsys.Server.Outcomes

namespace Dtsys

namespace Scheduler

open Server

/-! ## Runs -/

/-- What happens to the scheduler. -/
inductive Request
  | create (org user : Uuid) (body : ScheduleBody) (id : Uuid)
  | update (id : Uuid) (patch : SchedulePatch)
  | delete (id : Uuid)
  | serve (rewrite : Device → Device) (enrolled : List Device) (world : World)
  | organize (organizations : List Uuid)
  | tick

/-- A write of a device row: `id` and `org_id` stay. -/
def rewritten (rewrite : Device → Device) (r : Device) : Device :=
  { rewrite r with id := r.id, orgId := r.orgId }

/-- The device rows after other requests. -/
def served (rewrite : Device → Device) (enrolled devices : List Device) : List Device :=
  devices.map (rewritten rewrite) ++ enrolled

/-- A session of its own, as every request and every tick has one. -/
def opened (st : Scheduler) : Scheduler :=
  { st with world := newSession st.world st.world.device }

variable (E : Env) (C : Cron)

/-- One request, or one tick; rows of a deleted organization go with it. -/
def step (st : Scheduler) : Request → Option Scheduler
  | .create org user body id =>
    match createScheduledCommand E C st.organizations st.world.committed.devices st.world.clock org
        user body id st.schedules with
    | .ok (_, schedules) => some { st with schedules }
    | .error _ => some st
  | .update id patch =>
    match updateScheduledCommand E C st.organizations st.world.committed.devices st.world.clock id
        patch st.schedules with
    | .ok (_, schedules) => some { st with schedules }
    | .error _ => some st
  | .delete id => some { st with schedules := (deleteScheduledCommand id st.schedules).2 }
  | .serve rewrite enrolled world =>
    let devices := served rewrite enrolled st.world.committed.devices
    if (devices.map Device.id).Nodup then
      some { st with world := { world with committed := { world.committed with devices } } }
    else none
  | .organize organizations =>
    some { st with
      organizations
      schedules := st.schedules.filter fun s => organizations.contains s.orgId }
  | .tick => some (runTick E C (opened st)).2

/-! ## What the documentation says -/

/-- There is a device of the organization with this id. -/
def OwnDevice (db : Db) (org d : Uuid) : Prop :=
  ∃ r ∈ db.devices, r.id = d ∧ r.orgId = some org

instance (db : Db) (org d : Uuid) : Decidable (OwnDevice db org d) := List.decidableBEx ..

/-- The Command rows of a schedule are for devices of its organization; if it is for all devices,
    for exactly those that are not revoked. -/
structure Contained (db : Db) (s : ScheduledCommand) (commands : List Command) : Prop where
  own : ∀ c ∈ commands, OwnDevice db s.orgId c.deviceId
  all : s.deviceId = none → ∀ d, d ∈ commands.map Command.deviceId ↔
    ∃ r ∈ db.devices, r.isRevoked = false ∧ r.orgId = some s.orgId ∧ r.id = d

/-- The tick adds Command rows for its due schedules, all contained; or it raises and adds none. -/
def TickContained (st : Scheduler) : Prop :=
  match runTick E C st with
  | (.ok outs, u) =>
    outs.map Prod.fst = dueRows st ∧
      u.world.committed.commands = st.world.committed.commands ++ outs.flatMap (·.2) ∧
      ∀ o ∈ outs, Contained st.world.committed o.1 o.2
  | (.error _, u) => u.world.committed.commands = st.world.committed.commands

/-! ## One tick -/

/-- The devices a schedule goes to are its organization's. -/
def Within (db : Db) (s : ScheduledCommand) : Prop :=
  match s.deviceId with
  | some d => OwnDevice db s.orgId d
  | none => ∀ r ∈ db.devices, r.isRevoked = false → r.orgId = some s.orgId

variable {E C} {st : Scheduler} {s : ScheduledCommand}

/-- An all-device schedule goes to every device that is not revoked, whatever its organization. -/
theorem mem_deviceIds {db : Db} (hall : s.deviceId = none) (d : Uuid) :
    d ∈ deviceIds s db ↔ ∃ r ∈ db.devices, r.isRevoked = false ∧ r.id = d := by
  rw [deviceIds, hall]
  simp [List.mem_map, and_assoc]

/-- The rows of a schedule are for the devices it goes to. -/
theorem devices_of_rows {w : World} {commands : List Command}
    (h : commands.map anonymous = scheduleRows E w s) :
    commands.map Command.deviceId = deviceIds s w.db := by
  have hsettled : ∀ d, (rowFor E w s d).deviceId = d := by
    intro d
    rw [rowFor, settleDispatch]
    split
    · rfl
    · rfl
  have hmap : (commands.map anonymous).map Command.deviceId = commands.map Command.deviceId := by
    rw [List.map_map]
    rfl
  rw [← hmap, h]
  rw [scheduleRows, List.map_map]
  exact (List.map_congr_left fun d _ => hsettled d).trans (List.map_id _)

/-- A schedule's rows are contained exactly when the devices it goes to are its organization's. -/
theorem contained_iff {db : Db} (hids : (db.devices.map Device.id).Nodup) {commands : List Command}
    (h : commands.map Command.deviceId = deviceIds s db) :
    Contained db s commands ↔ Within db s := by
  have hown : (∀ c ∈ commands, OwnDevice db s.orgId c.deviceId) ↔
      ∀ d ∈ deviceIds s db, OwnDevice db s.orgId d := by
    rw [← h]
    simp [List.mem_map]
  rw [Within]
  -- One device, or all that are not revoked, of whatever organization.
  cases hd : s.deviceId with
  | some d =>
    have hone : deviceIds s db = [d] := by
      rw [deviceIds, hd]
    rw [hone] at hown
    constructor
    · exact fun hc => hown.mp hc.own d (List.mem_singleton_self d)
    · intro hdevice
      refine ⟨hown.mpr fun d' hd' => ?_, fun hnone => ?_⟩
      · obtain rfl := List.mem_singleton.mp hd'
        exact hdevice
      · rw [hd] at hnone
        cases hnone
  | none =>
    show _ ↔ ∀ r ∈ db.devices, r.isRevoked = false → r.orgId = some s.orgId
    constructor
    · intro hc r hr hactive
      obtain ⟨r', hr', hid, horg⟩ :=
        hown.mp hc.own r.id ((mem_deviceIds hd r.id).mpr ⟨r, hr, hactive, rfl⟩)
      obtain rfl := List.inj_on_of_nodup_map hids hr' hr hid
      exact horg
    · intro hall
      refine ⟨hown.mpr fun d hmem => ?_, fun _ d => ?_⟩
      · obtain ⟨r, hr, hactive, hid⟩ := (mem_deviceIds hd d).mp hmem
        exact ⟨r, hr, hid, hall r hr hactive⟩
      · rw [h, mem_deviceIds hd]
        constructor
        · rintro ⟨r, hr, hactive, hid⟩
          exact ⟨r, hr, hactive, hall r hr hactive, hid⟩
        · rintro ⟨r, hr, hactive, -, hid⟩
          exact ⟨r, hr, hactive, hid⟩

/-- A tick keeps the law exactly when it raises, or every due schedule goes to devices of its
    organization. -/
theorem tickContained_iff (hclean : st.world.Clean) (hkey : Keyed st.schedules)
    (hids : (st.world.committed.devices.map Device.id).Nodup) :
    TickContained E C st ↔
      (Passes E C st.world [] (dueRows st) → ∀ s ∈ dueRows st, Within st.world.committed s) := by
  rw [TickContained]
  rcases runTick_run (E := E) (C := C) hclean hkey with ⟨hpass, outs, u, hrun, hticked⟩ |
    ⟨hnot, e, v, hrun, hcommitted⟩
  · rw [hrun]
    have hfst : outs.map Prod.fst = dueRows st := by
      have hmap := congrArg (List.map Prod.fst) hticked.rows
      rw [List.map_map, List.map_map] at hmap
      exact hmap.trans (List.map_id _)
    have hrows : ∀ o ∈ outs, o.2.map Command.deviceId = deviceIds o.1 st.world.committed := by
      intro o ho
      have hmem : (o.1, o.2.map anonymous) ∈
          (dueRows st).map fun s => (s, scheduleRows E st.world s) := by
        rw [← hticked.rows]
        exact List.mem_map_of_mem ho
      obtain ⟨s, -, hs⟩ := List.mem_map.mp hmem
      obtain ⟨rfl, hanon⟩ := Prod.mk.inj hs
      rw [← hclean.db]
      exact devices_of_rows hanon.symm
    constructor
    · rintro ⟨-, -, hall⟩ - s hs
      rw [← hfst] at hs
      obtain ⟨o, ho, rfl⟩ := List.mem_map.mp hs
      exact (contained_iff hids (hrows o ho)).mp (hall o ho)
    · intro hwithin
      refine ⟨hfst, hticked.commands, fun o ho => ?_⟩
      refine (contained_iff hids (hrows o ho)).mpr (hwithin hpass o.1 ?_)
      rw [← hfst]
      exact List.mem_map_of_mem ho
  · rw [hrun]
    exact ⟨fun _ hpass => absurd hpass hnot, fun _ => congrArg Db.commands hcommitted⟩

/-! ## Runs -/

/-- What holds in every state: `id` is the primary key of both tables, and a schedule for one device
    is for a device of its organization. -/
structure Scoped (st : Scheduler) : Prop where
  keyed : Keyed st.schedules
  devices : (st.world.committed.devices.map Device.id).Nodup
  own : ∀ s ∈ st.schedules, ∀ d, s.deviceId = some d → OwnDevice st.world.committed s.orgId d

variable (E C) in
/-- Requests that go through name devices of the schedule's organization, and a tick that goes through
    with a schedule for all devices finds devices of its organization only. -/
def Inside (st : Scheduler) : Request → Prop
  | .create org user body id =>
    ∀ r, createScheduledCommand E C st.organizations st.world.committed.devices st.world.clock org
        user body id st.schedules = .ok r →
      ∀ d, body.deviceId = some d → OwnDevice st.world.committed org d
  | .update id patch =>
    ∀ r, updateScheduledCommand E C st.organizations st.world.committed.devices st.world.clock id
        patch st.schedules = .ok r →
      ∀ s d, getSchedule id st.schedules = some s → patch.deviceId = .set d →
        OwnDevice st.world.committed s.orgId d
  | .tick =>
    Passes E C (opened st).world [] (dueRows (opened st)) →
      ∀ s ∈ dueRows (opened st), s.deviceId = none →
        ∀ r ∈ st.world.committed.devices, r.isRevoked = false → r.orgId = some s.orgId
  | _ => True

theorem getSchedule_mem {id : Uuid} {schedules : List ScheduledCommand}
    (h : getSchedule id schedules = some s) : s ∈ schedules ∧ s.id = id :=
  Rows.find_eq_some h

/-- A device stays in its organization. -/
theorem OwnDevice.served {db : Db} {org d : Uuid} (h : OwnDevice db org d)
    (rewrite : Device → Device) (enrolled : List Device) (rest : Db) :
    OwnDevice { rest with devices := served rewrite enrolled db.devices } org d := by
  obtain ⟨r, hr, hid, horg⟩ := h
  refine ⟨rewritten rewrite r, List.mem_append_left _ (List.mem_map_of_mem hr), hid, horg⟩

theorem Scoped.sub (h : Scoped st) {rows : List ScheduledCommand} (hsub : rows.Sublist st.schedules) :
    Scoped { st with schedules := rows } :=
  ⟨h.keyed.sublist (hsub.map _), h.devices, fun s hs => h.own s (hsub.subset hs)⟩

/-- One more, with a device of its own organization. -/
theorem Scoped.create (h : Scoped st) (hfree : ∀ x ∈ st.schedules, x.id ≠ s.id)
    (hown : ∀ d, s.deviceId = some d → OwnDevice st.world.committed s.orgId d) :
    Scoped { st with schedules := st.schedules ++ [s] } := by
  refine ⟨?_, h.devices, fun x hx => ?_⟩
  · show ((st.schedules ++ [s]).map ScheduledCommand.id).Nodup
    rw [List.map_append]
    refine List.Nodup.append h.keyed (List.nodup_singleton _) ?_
    intro i hi hi'
    obtain ⟨x, hx, rfl⟩ := List.mem_map.mp hi
    exact hfree x hx (List.mem_singleton.mp hi')
  · rcases List.mem_append.mp hx with hx | hx
    · exact h.own x hx
    · obtain rfl := List.mem_singleton.mp hx
      exact hown

theorem Scoped.write (h : Scoped st) {f : ScheduledCommand → ScheduledCommand}
    (hid : ∀ x ∈ st.schedules, (f x).id = x.id)
    (hown : ∀ x ∈ st.schedules, ∀ d, (f x).deviceId = some d →
      OwnDevice st.world.committed (f x).orgId d) :
    Scoped { st with schedules := st.schedules.map f } := by
  refine ⟨?_, h.devices, fun x hx => ?_⟩
  · show ((st.schedules.map f).map ScheduledCommand.id).Nodup
    have hsame : st.schedules.map (ScheduledCommand.id ∘ f) = st.schedules.map ScheduledCommand.id :=
      List.map_congr_left fun x hx => hid x hx
    rw [List.map_map, hsame]
    exact h.keyed
  · obtain ⟨y, hy, rfl⟩ := List.mem_map.mp hx
    exact hown y hy

/-- `PATCH /schedules/{id}`. -/
theorem scoped_update (h : Scoped st) {id : Uuid} {patch : SchedulePatch}
    (hinside : Inside E C st (.update id patch)) {r : Option ScheduledCommand}
    {rows : List ScheduledCommand}
    (hrun : updateScheduledCommand E C st.organizations st.world.committed.devices st.world.clock id
      patch st.schedules = .ok (r, rows)) : Scoped { st with schedules := rows } := by
  rcases updateScheduledCommand_ok E C hrun with ⟨-, -, rfl⟩ | ⟨s, t, hget, -, rfl, hid, horg, hdevice⟩
  · exact h
  · obtain ⟨hs, hsid⟩ := getSchedule_mem hget
    apply h.write
    · intro x hx
      split
      · rename_i hx
        rw [hid, hsid, hx]
      · rfl
    · intro x hx d hd
      split at hd
      · rename_i hxid
        rw [if_pos hxid, horg]
        rw [hdevice] at hd
        cases hpatch : patch.deviceId with
        | unset =>
          rw [hpatch] at hd
          exact h.own s hs d hd
        | null =>
          rw [hpatch] at hd
          cases hd
        | set d' =>
          rw [hpatch] at hd
          obtain rfl : d' = d := Option.some.inj hd
          exact hinside _ hrun s d' hget hpatch
      · rename_i hxid
        rw [if_neg hxid]
        exact h.own x hx d hd

theorem scoped_opened (h : Scoped st) : Scoped (opened st) := ⟨h.keyed, h.devices, h.own⟩

theorem advanced_fields (done : List ScheduledCommand) (now : Nat) (x : ScheduledCommand) :
    (advanced C now done x).deviceId = x.deviceId ∧ (advanced C now done x).orgId = x.orgId := by
  rw [advanced]
  split
  · exact ⟨rfl, rfl⟩
  · exact ⟨rfl, rfl⟩

/-- A tick moves no schedule to another device. -/
theorem scoped_tick (h : Scoped st) (hclean : st.world.Clean) : Scoped (runTick E C st).2 := by
  rcases runTick_run (E := E) (C := C) hclean h.keyed with ⟨-, outs, u, hrun, hticked⟩ |
    ⟨-, e, v, hrun, hcommitted⟩
  · rw [hrun]
    show Scoped u
    have hown : Scoped { st with
        schedules := st.schedules.map (advanced C st.world.clock (dueRows st)) } := by
      apply h.write
      · exact fun x _ => advanced_id ..
      · intro x hx d hd
        obtain ⟨hdevice, horg⟩ := advanced_fields (C := C) (dueRows st) st.world.clock x
        rw [hdevice] at hd
        rw [horg]
        exact h.own x hx d hd
    refine ⟨?_, ?_, ?_⟩
    · rw [hticked.schedules]
      exact hown.keyed
    · rw [hticked.devices]
      exact h.devices
    · rw [hticked.schedules]
      intro x hx d hd
      obtain ⟨r, hr, hid⟩ := hown.own x hx d hd
      rw [← hticked.devices] at hr
      exact ⟨r, hr, hid⟩
  · rw [hrun]
    refine ⟨h.keyed, ?_, ?_⟩
    · show (v.committed.devices.map Device.id).Nodup
      rw [hcommitted]
      exact h.devices
    · show ∀ x ∈ st.schedules, ∀ d, x.deviceId = some d → OwnDevice v.committed x.orgId d
      rw [hcommitted]
      exact h.own

/-- What a step inside the organizations preserves. -/
theorem scoped_step (st : Scheduler) (l : Request) (st' : Scheduler) (hinside : Inside E C st l)
    (hstep : step E C st l = some st') (h : Scoped st) : Scoped st' := by
  cases l with
  | create org user body id =>
    simp only [step] at hstep
    split at hstep
    · rename_i s rows hrun
      cases hstep
      obtain ⟨rfl, rfl, hfree, rfl, hdevice⟩ := createScheduledCommand_ok E C hrun
      refine h.create hfree fun d hd => ?_
      exact hinside _ hrun d (hdevice ▸ hd)
    · cases hstep
      exact h
  | update id patch =>
    simp only [step] at hstep
    split at hstep
    · rename_i r rows hrun
      cases hstep
      exact scoped_update h hinside hrun
    · cases hstep
      exact h
  | delete id =>
    cases hstep
    apply h.sub
    rw [deleteScheduledCommand]
    split
    · exact .refl _
    · exact List.filter_sublist
  | serve rewrite enrolled world =>
    simp only [step] at hstep
    split at hstep
    · rename_i hids
      cases hstep
      exact ⟨h.keyed, hids, fun s hs d hd => (h.own s hs d hd).served rewrite enrolled _⟩
    · cases hstep
  -- ON DELETE CASCADE: the schedules of an organization go with it.
  | organize organizations =>
    cases hstep
    have hsub := h.sub (List.filter_sublist (p := fun s => organizations.contains s.orgId))
    exact ⟨hsub.keyed, hsub.devices, hsub.own⟩
  | tick =>
    cases hstep
    exact scoped_tick (scoped_opened h) (newSession_clean ..)

/-- The law of a tick, from what holds before it. -/
theorem contained_step (st : Scheduler) (l : Request) (hinside : Inside E C st l) (h : Scoped st)
    (htick : l = .tick) : TickContained E C (opened st) := by
  subst htick
  have hclean : (opened st).world.Clean := newSession_clean ..
  refine (tickContained_iff hclean h.keyed h.devices).mpr fun hpass s hs => ?_
  rw [Within]
  cases hd : s.deviceId with
  | some d => exact h.own s (mem_of_due hs) d hd
  | none => exact hinside hpass s hs hd

/-- In every run from no schedules, of requests that name devices of the schedule's organization and
    ticks whose schedules for all devices find their own organization's devices only, every tick
    dispatches inside the organizations of its schedules.

    Neither the create nor the update compares the organization of the device with that of the schedule, and a tick
    for all devices takes the whole table.  The invariant is `Scoped`: each schedule is for a device of its own
    organization, or for all. -/
theorem schedules_stay_inside {ls : List Request} (hempty : st.schedules = [])
    (hids : (st.world.committed.devices.map Device.id).Nodup)
    (hguard : Run.Guarded (step E C) (Inside E C) st ls) :
    Run.Guarded (step E C) (fun u l => l = .tick → TickContained E C (opened u)) st ls := by
  have hstart : Scoped st := by
    refine ⟨?_, hids, ?_⟩
    · rw [hempty]
      exact List.nodup_nil
    · rw [hempty]
      exact fun s hs => (nomatch hs)
  exact hguard.strengthen scoped_step contained_step hstart

/-! ## Two organizations -/

/-- A device of each of two organizations. -/
def twoOrganizations : Scheduler where
  world := .start { Db.empty with
    devices := [{ Device.sample 5 with orgId := some 1 }, { Device.sample 6 with orgId := some 2 }] }
    (Device.sample 5)
  organizations := [1, 2]
  schedules := []

/-- Every minute, by an administrator of organization 1. -/
def rebootEveryMinute (deviceId : Option Uuid) : Request :=
  .create 1 9 ⟨deviceId, "reboot", [], "* * * * *", true⟩ 21

/-- A minute in which nothing happens. -/
def minutePasses : Request :=
  .serve id [] { twoOrganizations.world with clock := 60 * second }

/-- A schedule for a device of its own organization. -/
theorem own_device_stays_inside :
    Run.Guarded (step Env.sample everyMinute)
      (fun u l => l = .tick → TickContained Env.sample everyMinute (opened u)) twoOrganizations
      [rebootEveryMinute (some 5), minutePasses, .tick] := by
  refine schedules_stay_inside rfl (by decide) ⟨?_, fun s₁ h₁ => ⟨trivial, fun s₂ h₂ => ⟨?_, ?_⟩⟩⟩
  · unfold Inside rebootEveryMinute
    intro r _ d hd
    obtain rfl : 5 = d := Option.some.inj hd
    decide
  · have hnamed : (Run.exec (step Env.sample everyMinute) twoOrganizations
        [rebootEveryMinute (some 5), minutePasses]).map
          (fun st => st.schedules.all fun s => s.deviceId.isSome) = some true := by decide +kernel
    rw [Run.exec_cons_eq.mpr ⟨s₁, h₁, Run.exec_cons_eq.mpr ⟨s₂, h₂, rfl⟩⟩] at hnamed
    intro _ s hs hall
    have hsome := List.all_eq_true.mp (Option.some.inj hnamed) s (mem_of_due hs)
    rw [hall] at hsome
    cases hsome
  · exact fun _ _ => trivial

/-- What a contained tick has added is for devices of the schedules' organizations. -/
theorem TickContained.commands (h : TickContained E C st)
    (hnone : st.world.committed.commands = []) :
    ∀ c ∈ (runTick E C st).2.world.committed.commands,
      ∃ s ∈ st.schedules, OwnDevice st.world.committed s.orgId c.deviceId := by
  intro c hc
  rw [TickContained] at h
  split at h
  · rename_i outs u hrun
    obtain ⟨hdue, hcommands, hall⟩ := h
    rw [hrun, hcommands, hnone, List.nil_append] at hc
    obtain ⟨o, ho, hco⟩ := List.mem_flatMap.mp hc
    refine ⟨o.1, mem_of_due ?_, (hall o ho).own c hco⟩
    rw [← hdue]
    exact List.mem_map_of_mem ho
  · rename_i e u hrun
    rw [hrun, h, hnone] at hc
    cases hc

/-- A schedule for all devices reboots the device of the other organization. -/
theorem all_devices_of_everybody :
    ∃ st, Run.exec (step Env.sample everyMinute) twoOrganizations
        [rebootEveryMinute none, minutePasses] = some st ∧
      ¬ TickContained Env.sample everyMinute (opened st) := by
  have hrun : (Run.exec (step Env.sample everyMinute) twoOrganizations
      [rebootEveryMinute none, minutePasses]).map (fun st =>
        ((runTick Env.sample everyMinute (opened st)).2.world.committed.commands.map
            Command.deviceId,
          st.world.committed.commands.length,
          st.schedules.any fun s => decide (OwnDevice st.world.committed s.orgId 6))) =
      some ([5, 6], 0, false) := by decide +kernel
  obtain ⟨st, hst, hout⟩ := Option.map_eq_some_iff.mp hrun
  obtain ⟨hcommands, hout⟩ := Prod.mk.inj hout
  obtain ⟨hnone, hforeign⟩ := Prod.mk.inj hout
  refine ⟨st, hst, fun hcontained => ?_⟩
  have hsix : (6 : Uuid) ∈ (runTick Env.sample everyMinute
      (opened st)).2.world.committed.commands.map Command.deviceId := by
    rw [hcommands]
    decide
  obtain ⟨c, hc, hid⟩ := List.mem_map.mp hsix
  obtain ⟨s, hs, hown⟩ := hcontained.commands (List.eq_nil_of_length_eq_zero hnone) c hc
  rw [hid] at hown
  have hany : (st.schedules.any fun s => decide (OwnDevice st.world.committed s.orgId 6)) = true :=
    List.any_eq_true.mpr ⟨s, hs, decide_eq_true hown⟩
  rw [hforeign] at hany
  cases hany

end Scheduler

end Dtsys
