/-
  THE ENDPOINTS OF SCHEDULES, RULES AND ALERTS, and then all requests together: a request of a user
  whose token carries an organization is isolated from the others iff it stays inside
  (`isolated_iff`).

  The lists and the two POSTs without an id in them go by the organization of the token, and are
  isolated whatever they are sent.  The requests that look a row up by its id do not.

  1. Schedules: what a request writes is determined by the id it names, and by the device in its body.
     `Creatable` and `Updatable` say when the database takes it, since a request that is refused is
     isolated whatever it names.
  2. Rules and alerts: one id, and no second one.
  3. Requests without an id: `listGroups_isolated` and the others, by the filter on the organization.
  4. `requests_isolated` puts them together, and `isolated_iff` adds the token, whose caller has to be
     allowed to make the request at all.
-/
import Dtsys.Server.Groups
import Dtsys.Server.Outcomes

namespace Dtsys

namespace Resources

section

variable {E : Env} {C : Cron} {Q : Queries} {org user : Uuid} {now : Nat} {drawn : Nat → Uuid}
  {R S : Resources} {k : Table} {i j d : Uuid} {ρ : Table → Uuid → Uuid}

/-! ## Schedules -/

/-- A row that can be stored names a device that is there. -/
theorem mem_of_storable {organizations : List Uuid} {s : ScheduledCommand}
    (h : Scheduler.storable E organizations R.deviceList s = true) (hd : s.deviceId = some d) :
    d ∈ R.ids .device := by
  rw [Scheduler.storable, hd, Bool.and_eq_true, Bool.and_eq_true, Bool.and_eq_true, Bool.and_eq_true] at h
  obtain ⟨r, hr, hid⟩ := List.any_eq_true.mp h.1.1.1.2
  obtain ⟨row, hrow, rfl⟩ := List.mem_map.mp hr
  exact List.mem_map.mpr ⟨row, hrow, beq_iff_eq.mp hid⟩

/-- So a device that is there has not been renamed. -/
theorem Hides.fixed_of_mem (h : Hides org R ρ) (hmem : ρ k i ∈ R.ids k) : ρ k i = i := by
  rcases h k i with heq | ⟨-, hnew⟩
  · exact heq
  · exact absurd hmem hnew

/-- The guard of the INSERT. -/
theorem creatable_iff {body : ScheduleBody} {id : Uuid} {t : Nat}
    (ht : C.next body.cronExpression now = .ok t) :
    Creatable org E C R now body id ↔ ((R.schedules.any fun s => s.id == id) ||
      !Scheduler.storable E R.orgIds R.deviceList (scheduleRow org now body id)) = false := by
  rw [Bool.or_eq_false_iff, Bool.not_eq_false', List.any_eq_false]
  constructor
  · rintro ⟨-, hfree, hstorable⟩
    exact ⟨fun s hs hid => hfree (List.mem_map.mpr ⟨s, hs, beq_iff_eq.mp hid⟩), hstorable⟩
  · rintro ⟨hfree, hstorable⟩
    refine ⟨⟨t, ht⟩, fun hmem => ?_, hstorable⟩
    obtain ⟨s, hs, hid⟩ := List.mem_map.mp hmem
    exact hfree s hs (beq_iff_eq.mpr hid)

/-- A schedule that may be created is. -/
theorem createSchedule_creatable {body : ScheduleBody} {id : Uuid}
    (h : Creatable org E C R now body id) :
    ∃ out, createSchedule E C org user now body id R = .ok out := by
  obtain ⟨t, ht⟩ := h.1
  have hguard := (creatable_iff ht).mp h
  have hcreate : ∃ out, Scheduler.createScheduledCommand E C R.orgIds R.deviceList now org user body
      id R.schedules = .ok out := by
    rw [Scheduler.createScheduledCommand, ht]
    exact ⟨_, if_neg (ne_true_of_eq_false hguard)⟩
  obtain ⟨out, hout⟩ := hcreate
  rw [createSchedule, hout]
  exact ⟨_, rfl⟩

/-- And one that may not is refused by the database, unless the expression is refused before. -/
theorem createSchedule_refused {body : ScheduleBody} {id : Uuid}
    (h : ¬ Creatable org E C R now body id) :
    createSchedule E C org user now body id R =
      C.next body.cronExpression now >>= fun _ => .error .db := by
  cases ht : C.next body.cronExpression now with
  | error e =>
    rw [createSchedule, Scheduler.createScheduledCommand, ht]
    rfl
  | ok t =>
    have hguard := Bool.eq_true_of_not_eq_false (h ∘ (creatable_iff ht).mpr)
    have hcreate : Scheduler.createScheduledCommand E C R.orgIds R.deviceList now org user body
        id R.schedules = .error .db := by
      rw [Scheduler.createScheduledCommand, ht]
      exact if_pos hguard
    rw [createSchedule, hcreate]
    rfl

/-- What can be stored under a renaming has not been renamed. -/
theorem creatable_fixed (hρ : Hides org R ρ) {body : ScheduleBody} {id : Uuid}
    (h : Creatable org E C R now { body with deviceId := body.deviceId.map (ρ .device) } id) :
    body.deviceId.map (ρ .device) = body.deviceId := by
  cases hd : body.deviceId with
  | none => rfl
  | some d =>
    have hmem : ρ .device d ∈ R.ids .device := by
      refine mem_of_storable h.2.2 ?_
      show body.deviceId.map (ρ .device) = some (ρ .device d)
      rw [hd, Option.map_some]
    rw [Option.map_some, hρ.fixed_of_mem hmem]

/-- Another organization's device is found out, where the schedule would be stored. -/
theorem createSchedule_device (hj : j ∉ R.ids .device) {body : ScheduleBody}
    (h : Isolated org E R (requests E C Q org user now drawn R) (.createSchedule body))
    (hcreatable : Creatable org E C R now body (drawn 0)) (hd : body.deviceId = some d) :
    ¬ Foreign org R .device d := by
  intro hforeign
  refine not_isolated hforeign hj ?_ h
  obtain ⟨out, hout⟩ : ∃ out, createSchedule E C org user now body (drawn 0) R = .ok out :=
    createSchedule_creatable hcreatable
  obtain ⟨t, ht⟩ := hcreatable.1
  have hnot : ¬ Creatable org E C R now
      { body with deviceId := body.deviceId.map (move .device d j .device) } (drawn 0) := by
    intro hmoved
    have hfixed := creatable_fixed (hides_move hforeign hj) hmoved
    rw [hd, Option.map_some, move_self] at hfixed
    exact hj (Option.some.inj hfixed ▸ mem_ids_of_foreign hforeign)
  show response E (createSchedule E C org user now { body with deviceId := _ } (drawn 0) R) ≠
    response E (createSchedule E C org user now body (drawn 0) R)
  rw [createSchedule_refused hnot, hout, ht]
  exact fun hequal => nomatch hequal

/-- Otherwise a renaming changes nothing. -/
theorem createSchedule_renamed (hρ : Hides org R ρ) {body : ScheduleBody} {id : Uuid}
    (hown : Creatable org E C R now body id →
      ∀ d, body.deviceId = some d → ¬ Foreign org R .device d) :
    createSchedule E C org user now { body with deviceId := body.deviceId.map (ρ .device) } id R =
      createSchedule E C org user now body id R := by
  by_cases hcreatable : Creatable org E C R now body id
  · have hfixed : body.deviceId.map (ρ .device) = body.deviceId := by
      cases hd : body.deviceId with
      | none => rfl
      | some d => rw [Option.map_some, hρ.fixed (hown hcreatable d hd)]
    rw [hfixed]
  · have hnot : ¬ Creatable org E C R now
        { body with deviceId := body.deviceId.map (ρ .device) } id := by
      intro hrenamed
      rw [creatable_fixed hρ hrenamed] at hrenamed
      exact hcreatable hrenamed
    rw [createSchedule_refused hcreatable, createSchedule_refused hnot]

/-- **POST /schedules** is isolated but for the device it names. -/
theorem createSchedule_isolated (hj : j ∉ R.ids .device) (body : ScheduleBody) :
    Isolated org E R (requests E C Q org user now drawn R) (.createSchedule body) ↔
      (Creatable org E C R now body (drawn 0) →
        ∀ d, body.deviceId = some d → ¬ Foreign org R .device d) := by
  constructor
  · exact fun h hcreatable d hd => createSchedule_device hj h hcreatable hd
  · intro hown
    refine isolated_of_fixed (fun ρ hρ => createSchedule_renamed hρ hown) fun reply S hrun => ?_
    have hcreate : createSchedule E C org user now body (drawn 0) R = .ok (reply, S) := hrun
    obtain ⟨⟨s, rows⟩, hrows, hcreate⟩ := ok_of_except_bind hcreate
    cases hcreate
    obtain ⟨rfl, -, -, horg, -⟩ := Scheduler.createScheduledCommand_ok E C hrows
    have hnew : foreign org (some s.orgId) = false := foreign_eq_false.mpr horg
    refine ⟨⟨rfl, rfl, Rows.filter_insert fun x hx => ?_, rfl, rfl⟩, hnew⟩
    rw [List.mem_singleton.mp hx]
    exact hnew

/-- `device_id` of a patch only matters for the column. -/
theorem apply_with (p : SchedulePatch) (device : Patch Uuid) (s : ScheduledCommand) :
    Scheduler.SchedulePatch.apply { p with deviceId := device } s =
      (Scheduler.SchedulePatch.apply p s).map fun t =>
        { t with deviceId := device.optional s.deviceId } := by
  unfold Scheduler.SchedulePatch.apply
  cases p.commandType.required s.commandType with
  | error e => rfl
  | ok commandType =>
    cases p.cronExpression.required s.cronExpression with
    | error e => rfl
    | ok cronExpression =>
      cases p.isEnabled.required s.isEnabled with
      | error e => rfl
      | ok isEnabled => rfl

/-- The next run of a row. -/
def nextRun (C : Cron) (now : Nat) (t : ScheduledCommand) : Except PyErr (Option Nat) :=
  if t.isEnabled then (C.next t.cronExpression now).map some else .ok none

/-- A disabled schedule needs no occurrence. -/
theorem nextRun_ok (t : ScheduledCommand) :
    (∃ next, nextRun C now t = .ok next) ↔
      (t.isEnabled = true → ∃ next, C.next t.cronExpression now = .ok next) := by
  rw [nextRun]
  cases t.isEnabled with
  | false => exact ⟨fun _ hfalse => (nomatch hfalse), fun _ => ⟨none, rfl⟩⟩
  | true =>
    cases C.next t.cronExpression now with
    | error e => exact ⟨fun ⟨_, h⟩ => (nomatch h), fun h => nomatch h rfl⟩
    | ok next => exact ⟨fun _ _ => ⟨next, rfl⟩, fun _ => ⟨some next, rfl⟩⟩

/-- PATCH of a schedule that is there. -/
theorem updateSchedule_run {id : Uuid} {s : ScheduledCommand}
    (hget : Scheduler.getSchedule id R.schedules = some s) (patch : SchedulePatch) :
    updateSchedule E C now id patch R = (Scheduler.SchedulePatch.apply patch s >>= fun t =>
      nextRun C now t >>= fun next =>
        if Scheduler.storable E R.orgIds R.deviceList t = true then
          .ok (.schedule { t with nextRunAt := next },
            { R with schedules := R.schedules.map fun x =>
                if x.id = id then { t with nextRunAt := next } else x })
        else .error .db) := by
  have hrows : Scheduler.updateScheduledCommand E C R.orgIds R.deviceList now id patch R.schedules =
      (Scheduler.SchedulePatch.apply patch s >>= fun t => nextRun C now t >>= fun next =>
        if Scheduler.storable E R.orgIds R.deviceList t = true then
          .ok (some { t with nextRunAt := next },
            R.schedules.map fun x => if x.id = id then { t with nextRunAt := next } else x)
        else .error .db) := by
    rw [Scheduler.updateScheduledCommand, hget]
    refine bind_congr_ok fun t _ => ?_
    rw [nextRun]
    split
    · rfl
    · rfl
  rw [updateSchedule, hrows]
  cases Scheduler.SchedulePatch.apply patch s with
  | error e => rfl
  | ok t =>
    show (nextRun C now t >>= _) >>= _ = nextRun C now t >>= _
    cases nextRun C now t with
    | error e => rfl
    | ok next =>
      show (if Scheduler.storable E R.orgIds R.deviceList t = true then _ else _) >>= _ =
        if Scheduler.storable E R.orgIds R.deviceList t = true then _ else _
      split
      · rfl
      · rfl

/-- A schedule that may be updated is. -/
theorem updateSchedule_updatable {id : Uuid} {patch : SchedulePatch}
    (h : Updatable E C R now id patch) :
    ∃ t S, updateSchedule E C now id patch R = .ok (.schedule t, S) := by
  obtain ⟨s, t, hget, happly, hcron, hstorable⟩ := h
  obtain ⟨next, hnext⟩ := (nextRun_ok t).mpr hcron
  have hrun : updateSchedule E C now id patch R = .ok (.schedule { t with nextRunAt := next },
      { R with schedules := R.schedules.map fun x =>
          if x.id = id then { t with nextRunAt := next } else x }) := by
    rw [updateSchedule_run hget, happly]
    show (nextRun C now t >>= _) = _
    rw [hnext]
    exact if_pos hstorable
  exact ⟨_, _, hrun⟩

theorem updateSchedule_refused {id : Uuid} {patch : SchedulePatch} {s : ScheduledCommand}
    (hget : Scheduler.getSchedule id R.schedules = some s) (h : ¬ Updatable E C R now id patch) :
    updateSchedule E C now id patch R = (Scheduler.SchedulePatch.apply patch s >>= fun t =>
      nextRun C now t >>= fun _ => .error .db) := by
  rw [updateSchedule_run hget]
  refine bind_congr_ok fun t happly => bind_congr_ok fun next hnext => if_neg fun hstorable => ?_
  exact h ⟨s, t, hget, happly, (nextRun_ok t).mp ⟨next, hnext⟩, hstorable⟩

/-- A change that is refused raises the same without its device. -/
theorem updateSchedule_congr {id : Uuid} {patch : SchedulePatch} {device : Patch Uuid}
    (h : ¬ Updatable E C R now id patch)
    (h' : ¬ Updatable E C R now id { patch with deviceId := device }) :
    updateSchedule E C now id { patch with deviceId := device } R =
      updateSchedule E C now id patch R := by
  cases hget : Scheduler.getSchedule id R.schedules with
  | none =>
    unfold updateSchedule Scheduler.updateScheduledCommand
    rw [hget]
  | some s =>
    rw [updateSchedule_refused hget h, updateSchedule_refused hget h', apply_with]
    cases Scheduler.SchedulePatch.apply patch s with
    | error e => rfl
    | ok t => rfl

theorem updateSchedule_error {id : Uuid} {s : ScheduledCommand} {patch : SchedulePatch}
    (hget : Scheduler.getSchedule id R.schedules = some s) (h : ¬ Updatable E C R now id patch) :
    ∃ e, updateSchedule E C now id patch R = .error e := by
  rw [updateSchedule_refused hget h]
  cases Scheduler.SchedulePatch.apply patch s with
  | error e => exact ⟨e, rfl⟩
  | ok t =>
    show ∃ e, (nextRun C now t >>= _) = .error e
    cases nextRun C now t with
    | error e => exact ⟨e, rfl⟩
    | ok next => exact ⟨_, rfl⟩

theorem response_error (e : PyErr) (json : Json) : response E (.error e) ≠ .ok json := by
  cases e <;> exact fun h => nomatch h

/-- The answer for a row is not the one for no row. -/
theorem schedule_ne_detail (s : ScheduledCommand) (text : String) :
    replyBody E (.schedule s) ≠ replyBody E (.detail text) := by
  intro h
  have hlength : 10 = 1 := congrArg List.length (Json.obj.inj h)
  omega

theorem mapPatch_fixed {patch : Patch Uuid} (h : ∀ d, patch = .set d → ρ k d = d) :
    mapPatch (ρ k) patch = patch := by
  cases patch with
  | unset => rfl
  | null => rfl
  | set d => exact congrArg Patch.set (h d rfl)

/-- What can be stored under a renaming has not been renamed. -/
theorem updatable_fixed (hρ : Hides org R ρ) {id : Uuid} {patch : SchedulePatch}
    (h : Updatable E C R now id { patch with deviceId := mapPatch (ρ .device) patch.deviceId }) :
    ∀ d, patch.deviceId = .set d → ρ .device d = d := by
  intro d hd
  obtain ⟨s, t, -, happly, -, hstorable⟩ := h
  obtain ⟨-, -, hdevice⟩ := Scheduler.SchedulePatch.apply_ok happly
  apply hρ.fixed_of_mem
  refine mem_of_storable hstorable ?_
  rw [hdevice]
  show (mapPatch (ρ .device) patch.deviceId).optional s.deviceId = some (ρ .device d)
  rw [hd]
  rfl

/-- Another organization's schedule is found out: its answer is never "not found". -/
theorem updateSchedule_schedule (hj : j ∉ R.ids .schedule) {id : Uuid} {patch : SchedulePatch}
    (h : Isolated org E R (requests E C Q org user now drawn R) (.updateSchedule id patch)) :
    ¬ Foreign org R .schedule id := by
  intro hforeign
  refine not_isolated hforeign hj ?_ h
  have hmissing : ∀ patch, response E (updateSchedule E C now j patch R) =
      .ok (replyBody E (.detail "Scheduled command not found")) := by
    intro patch
    rw [updateSchedule, Scheduler.updateScheduledCommand, Scheduler.getSchedule, Rows.find_eq_none hj]
    rfl
  show response E (updateSchedule E C now (move .schedule id j .schedule id) _ R) ≠
    response E (updateSchedule E C now id patch R)
  rw [move_self, hmissing]
  obtain ⟨s, hget⟩ := Rows.find_of_mem (l := R.schedules) (mem_ids_of_foreign hforeign)
  by_cases hupdatable : Updatable E C R now id patch
  · obtain ⟨t, S, hok⟩ := updateSchedule_updatable hupdatable
    rw [hok]
    exact fun hsame => schedule_ne_detail t _ (Except.ok.inj hsame).symm
  · obtain ⟨e, herror⟩ := updateSchedule_error hget hupdatable
    rw [herror]
    exact (response_error e _).symm

/-- So is another organization's device, where the change would be stored. -/
theorem updateSchedule_device (hj : j ∉ R.ids .device) {id : Uuid} {patch : SchedulePatch}
    (h : Isolated org E R (requests E C Q org user now drawn R) (.updateSchedule id patch))
    (hupdatable : Updatable E C R now id patch) (hset : patch.deviceId = .set d) :
    ¬ Foreign org R .device d := by
  intro hforeign
  refine not_isolated hforeign hj ?_ h
  have hnot : ¬ Updatable E C R now id
      { patch with deviceId := mapPatch (move .device d j .device) patch.deviceId } := by
    intro hmoved
    have hfixed := updatable_fixed (hides_move hforeign hj) hmoved d hset
    rw [move_self] at hfixed
    exact hj (hfixed ▸ mem_ids_of_foreign hforeign)
  show response E (updateSchedule E C now (move .device d j .schedule id)
    { patch with deviceId := mapPatch (move .device d j .device) patch.deviceId } R) ≠
      response E (updateSchedule E C now id patch R)
  obtain ⟨t, S, hok⟩ := updateSchedule_updatable hupdatable
  obtain ⟨s, -, hget, -⟩ := hupdatable
  obtain ⟨e, herror⟩ := updateSchedule_error hget hnot
  rw [move_of_table (by decide), hok, herror]
  exact response_error e _

/-- Otherwise a renaming changes nothing. -/
theorem updateSchedule_renamed (hρ : Hides org R ρ) {id : Uuid} {patch : SchedulePatch}
    (hdevice : Updatable E C R now id patch →
      ∀ d, patch.deviceId = .set d → ¬ Foreign org R .device d) :
    updateSchedule E C now id { patch with deviceId := mapPatch (ρ .device) patch.deviceId } R =
      updateSchedule E C now id patch R := by
  by_cases hupdatable : Updatable E C R now id patch
  · rw [mapPatch_fixed fun d hset => hρ.fixed (hdevice hupdatable d hset)]
  · have hnot : ¬ Updatable E C R now id
        { patch with deviceId := mapPatch (ρ .device) patch.deviceId } := by
      intro hrenamed
      rw [mapPatch_fixed (updatable_fixed hρ hrenamed)] at hrenamed
      exact hupdatable hrenamed
    exact updateSchedule_congr hupdatable hnot

/-- A change of one of the organization's schedules leaves it the organization's. -/
theorem updateSchedule_kept {id : Uuid} {patch : SchedulePatch} {reply : Reply}
    (hown : ¬ Foreign org R .schedule id)
    (h : updateSchedule E C now id patch R = .ok (reply, S)) : Kept org R S ∧ Own org R reply := by
  obtain ⟨⟨updated, rows⟩, hrows, h⟩ := ok_of_except_bind h
  rcases Scheduler.updateScheduledCommand_ok E C hrows with
    ⟨-, rfl, rfl⟩ | ⟨s, t, hget, rfl, rfl, hid, horg, -⟩
  · cases h
    exact ⟨Kept.refl R, trivial⟩
  · cases h
    obtain ⟨hs, hsid⟩ := Rows.find_eq_some hget
    have hrow : ∀ x ∈ R.schedules, x.id = id → foreign org (some x.orgId) = false :=
      fun x hx hxid => not_foreign fun hforeign => hown ⟨x, hx, hxid, hforeign⟩
    have ht : foreign org (some t.orgId) = false := by
      rw [horg]
      exact hrow s hs hsid
    exact ⟨⟨rfl, rfl, Rows.filter_update hrow ht, rfl, rfl⟩, ht⟩

/-- **PATCH /schedules/{id}** looks the schedule up by its id alone. -/
theorem updateSchedule_isolated (hs : j ∉ R.ids .schedule) (hd : j ∉ R.ids .device) (id : Uuid)
    (patch : SchedulePatch) :
    Isolated org E R (requests E C Q org user now drawn R) (.updateSchedule id patch) ↔
      ¬ Foreign org R .schedule id ∧ (Updatable E C R now id patch →
        ∀ d, patch.deviceId = .set d → ¬ Foreign org R .device d) := by
  constructor
  · intro h
    exact ⟨updateSchedule_schedule hs h, fun hupdatable d hset =>
      updateSchedule_device hd h hupdatable hset⟩
  · rintro ⟨hown, hdevice⟩
    refine isolated_of_fixed (fun ρ hρ => ?_) fun reply S hrun => updateSchedule_kept hown hrun
    show updateSchedule E C now (ρ .schedule id)
      { patch with deviceId := mapPatch (ρ .device) patch.deviceId } R =
        updateSchedule E C now id patch R
    rw [hρ.fixed hown]
    exact updateSchedule_renamed hρ hdevice

/-- **DELETE /schedules/{id}**. -/
theorem deleteSchedule_isolated (hj : j ∉ R.ids .schedule) (id : Uuid) :
    Isolated org E R (requests E C Q org user now drawn R) (.deleteSchedule id) ↔
      ¬ Foreign org R .schedule id := by
  constructor
  · intro hisolated hforeign
    refine not_isolated hforeign hj ?_ hisolated
    obtain ⟨s, hget⟩ := Rows.find_of_mem (l := R.schedules) (mem_ids_of_foreign hforeign)
    show response E (deleteSchedule (move .schedule id j .schedule id) R) ≠
      response E (deleteSchedule id R)
    rw [move_self, deleteSchedule, deleteSchedule, Scheduler.deleteScheduledCommand,
      Scheduler.deleteScheduledCommand, Scheduler.getSchedule, Scheduler.getSchedule,
      Rows.find_eq_none hj, hget]
    intro hsame
    have hfields := Json.obj.inj (Except.ok.inj hsame)
    exact absurd (Prod.mk.inj (List.cons.inj hfields).1).1 (by decide)
  · intro hown
    refine isolated_of_fixed (fun ρ hρ => ?_) fun reply S hrun => ?_
    · show deleteSchedule (ρ .schedule id) R = deleteSchedule id R
      rw [hρ.fixed hown]
    · have hdelete : deleteSchedule id R = .ok (reply, S) := hrun
      rw [deleteSchedule, Scheduler.deleteScheduledCommand] at hdelete
      cases hget : Scheduler.getSchedule id R.schedules with
      | none =>
        rw [hget] at hdelete
        cases hdelete
        exact ⟨Kept.refl R, trivial⟩
      | some s =>
        rw [hget] at hdelete
        cases hdelete
        refine ⟨⟨rfl, rfl, Rows.filter_delete fun x hx hforeign => ?_, rfl, rfl⟩, trivial⟩
        rw [bne_iff_ne]
        exact fun hid => hown ⟨x, hx, hid, hforeign⟩

/-! ## Notification rules -/

theorem rule_ne_detail (r : RuleRow) (text : String) :
    replyBody E (.rule r) ≠ replyBody E (.detail text) := by
  intro h
  have hlength : 8 = 1 := congrArg List.length (Json.obj.inj h)
  omega

theorem RulePatch.apply_ok {p : RulePatch} {r t : RuleRow} (h : RulePatch.apply p r = .ok t) :
    t.orgId = r.orgId := by
  obtain ⟨alertType, -, h⟩ := ok_of_except_bind h
  obtain ⟨severityMin, -, h⟩ := ok_of_except_bind h
  obtain ⟨channel, -, h⟩ := ok_of_except_bind h
  obtain ⟨isEnabled, -, h⟩ := ok_of_except_bind h
  cases h
  rfl

/-- What a PATCH of a rule that went through has changed. -/
theorem updateRule_ok {id : Uuid} {patch : RulePatch} {rule : RuleRow} {reply : Reply}
    (hget : getRule id R = some rule) (h : updateRule E id patch R = .ok (reply, S)) :
    ∃ t, reply = .rule t ∧ t.orgId = rule.orgId ∧
      S = { R with rules := R.rules.map fun r => if r.id = id then t else r } := by
  rw [updateRule, hget] at h
  obtain ⟨t, happly, h⟩ := ok_of_except_bind h
  split at h
  · cases h
    exact ⟨t, rfl, RulePatch.apply_ok happly, rfl⟩
  · cases h

/-- **PATCH /notifications/rules/{id}**. -/
theorem updateRule_isolated (hj : j ∉ R.ids .rule) (id : Uuid) (patch : RulePatch) :
    Isolated org E R (requests E C Q org user now drawn R) (.updateRule id patch) ↔
      ¬ Foreign org R .rule id := by
  constructor
  · intro hisolated hforeign
    refine not_isolated hforeign hj ?_ hisolated
    obtain ⟨rule, hget⟩ := Rows.find_of_mem (l := R.rules) (mem_ids_of_foreign hforeign)
    -- With the id exchanged for a new one the answer is a 404, which no rule that is shown looks like.
    have hmissing : response E (updateRule E j patch R) =
        .ok (replyBody E (.detail "Notification rule not found")) := by
      rw [updateRule, getRule, Rows.find_eq_none hj]
      rfl
    show response E (updateRule E (move .rule id j .rule id) patch R) ≠
      response E (updateRule E id patch R)
    rw [move_self, hmissing]
    cases hrun : updateRule E id patch R with
    | error e => exact (response_error e _).symm
    | ok out =>
      obtain ⟨reply, S⟩ := out
      obtain ⟨t, rfl, -, -⟩ := updateRule_ok hget hrun
      exact fun hsame => rule_ne_detail t _ (Except.ok.inj hsame).symm
  · intro hown
    refine isolated_of_fixed (fun ρ hρ => ?_) fun reply S hrun => ?_
    · show updateRule E (ρ .rule id) patch R = updateRule E id patch R
      rw [hρ.fixed hown]
    · have hupdate : updateRule E id patch R = .ok (reply, S) := hrun
      have hrow : ∀ r ∈ R.rules, r.id = id → foreign org (some r.orgId) = false :=
        fun r hr hid => not_foreign fun hforeign => hown ⟨r, hr, hid, hforeign⟩
      cases hget : getRule id R with
      | none =>
        rw [updateRule, hget] at hupdate
        cases hupdate
        exact ⟨Kept.refl R, trivial⟩
      | some rule =>
        obtain ⟨hr, hid⟩ := Rows.find_eq_some hget
        obtain ⟨t, rfl, horg, rfl⟩ := updateRule_ok hget hupdate
        have ht : foreign org (some t.orgId) = false := by
          rw [horg]
          exact hrow rule hr hid
        exact ⟨⟨rfl, rfl, rfl, Rows.filter_update hrow ht, rfl⟩, ht⟩

/-! ## Alerts -/

theorem resolveAlert_missing {id : Uuid} (h : id ∉ R.ids .alert) :
    resolveAlert org now id R = .error .attributeError := by
  have hnone : (R.alerts.filter fun x => x.id == id) = [] := Rows.filter_key_eq_nil h
  rw [resolveAlert, hnone]
  rfl

/-- The alert of another organization's device is there, and its device is not. -/
theorem resolveAlert_hidden (hvalid : Valid R) {id : Uuid} (h : Foreign org R .alert id) :
    resolveAlert org now id R = .error (.http 404 "Alert not found") := by
  obtain ⟨a, ha, rfl, r, hr, hid, hother⟩ := h
  have hone : (R.alerts.filter fun x => x.id == a.id) = [a] := Rows.filter_key (hvalid.keys .alert) ha
  have hdevices : (R.devices.filter fun r => r.id == a.deviceId && r.orgId == some org) = [] := by
    rw [List.filter_eq_nil_iff]
    intro x hx hdevice
    rw [Bool.and_eq_true, beq_iff_eq, beq_iff_eq] at hdevice
    obtain rfl := List.inj_on_of_nodup_map (hvalid.keys .device) hx hr (hdevice.1.trans hid.symm)
    rw [hdevice.2, foreign_own] at hother
    cases hother
  rw [resolveAlert, hone]
  show (Accounts.oneOrNone (R.devices.filter fun r => r.id == a.deviceId && r.orgId == some org) >>=
    _) = _
  rw [hdevices]
  rfl

/-- What a resolution that went through has changed. -/
theorem resolveAlert_ok {id : Uuid} {reply : Reply}
    (h : resolveAlert org now id R = .ok (reply, S)) :
    ∃ a t, a ∈ R.alerts ∧ a.id = id ∧ reply = .alert t ∧ t.deviceId = a.deviceId ∧
      S = { R with alerts := R.alerts.map fun x => if x.id = id then t else x } := by
  obtain ⟨found, hfound, h⟩ := ok_of_except_bind h
  cases found with
  | none => cases h
  | some a =>
    obtain ⟨device, -, h⟩ := ok_of_except_bind h
    cases device with
    | none => cases h
    | some r =>
      cases h
      obtain ⟨ha, hid⟩ := Accounts.mem_of_oneOrNone hfound
      exact ⟨a, _, ha, beq_iff_eq.mp hid, rfl, rfl, rfl⟩

/-- **POST /alerts/{id}/resolve**. -/
theorem resolveAlert_isolated (hvalid : Valid R) (hj : j ∉ R.ids .alert) (id : Uuid) :
    Isolated org E R (requests E C Q org user now drawn R) (.resolveAlert id) ↔
      ¬ Foreign org R .alert id := by
  constructor
  · intro hisolated hforeign
    refine not_isolated hforeign hj ?_ hisolated
    show response E (resolveAlert org now (move .alert id j .alert id) R) ≠
      response E (resolveAlert org now id R)
    rw [move_self, resolveAlert_missing hj, resolveAlert_hidden hvalid hforeign]
    exact fun hsame => nomatch hsame
  · intro hown
    have hrow : ∀ a ∈ R.alerts, a.id = id → ¬ ForeignDevice org R a.deviceId :=
      fun a ha hid hforeign => hown ⟨a, ha, hid, hforeign⟩
    refine isolated_of_fixed (fun ρ hρ => ?_) fun reply S hrun => ?_
    · show resolveAlert org now (ρ .alert id) R = resolveAlert org now id R
      rw [hρ.fixed hown]
    · obtain ⟨a, t, ha, hid, rfl, hdevice, rfl⟩ := resolveAlert_ok hrun
      have ht : ¬ ForeignDevice org R t.deviceId := by
        rw [hdevice]
        exact hrow a ha hid
      refine ⟨⟨rfl, rfl, rfl, rfl, ?_⟩, ht⟩
      exact Rows.filter_update (fun x hx hxid => decide_eq_false (hrow x hx hxid))
        (decide_eq_false ht)

/-! ## Requests without an id -/

/-- **GET /groups**. -/
theorem listGroups_isolated :
    Isolated org E R (requests E C Q org user now drawn R) .listGroups := by
  refine isolated_of_fixed (fun _ _ => rfl) fun reply S hrun => ?_
  cases hrun
  refine ⟨Kept.refl R, fun p hp => ?_⟩
  obtain ⟨x, hx, rfl⟩ := List.mem_map.mp hp
  obtain ⟨-, horg⟩ := List.mem_filter.mp (Multiset.mem_coe.mp (Q.mem_orderBy.mp hx))
  exact foreign_eq_false.mpr (beq_iff_eq.mp horg)

/-- **GET /schedules**. -/
theorem listSchedules_isolated :
    Isolated org E R (requests E C Q org user now drawn R) .listSchedules := by
  refine isolated_of_fixed (fun _ _ => rfl) fun reply S hrun => ?_
  cases hrun
  refine ⟨Kept.refl R, fun s hs => ?_⟩
  obtain ⟨-, horg⟩ := List.mem_filter.mp (Multiset.mem_coe.mp (Q.mem_orderBy.mp hs))
  exact foreign_eq_false.mpr (beq_iff_eq.mp horg)

/-- **GET /notifications/rules**. -/
theorem listRules_isolated :
    Isolated org E R (requests E C Q org user now drawn R) .listRules := by
  refine isolated_of_fixed (fun _ _ => rfl) fun reply S hrun => ?_
  cases hrun
  refine ⟨Kept.refl R, fun r hr => ?_⟩
  obtain ⟨-, horg⟩ := List.mem_filter.mp (Multiset.mem_coe.mp (Q.mem_orderBy.mp hr))
  exact foreign_eq_false.mpr (beq_iff_eq.mp horg)

/-- **POST /groups**. -/
theorem createGroup_isolated (body : GroupBody) :
    Isolated org E R (requests E C Q org user now drawn R) (.createGroup body) := by
  refine isolated_of_fixed (fun _ _ => rfl) fun reply S hrun => ?_
  have hcreate : createGroup E org user now body (drawn 0) R = .ok (reply, S) := hrun
  obtain ⟨-, hcreate⟩ := ok_of_guard hcreate
  cases hcreate
  refine ⟨Kept.of_groups (Rows.filter_insert fun x hx => ?_) rfl, foreign_own⟩
  rw [List.mem_singleton.mp hx]
  exact foreign_own

/-- **POST /notifications/rules**. -/
theorem createRule_isolated (body : RuleBody) :
    Isolated org E R (requests E C Q org user now drawn R) (.createRule body) := by
  refine isolated_of_fixed (fun _ _ => rfl) fun reply S hrun => ?_
  have hcreate : createRule E org now body (drawn 0) R = .ok (reply, S) := hrun
  obtain ⟨-, hcreate⟩ := ok_of_guard hcreate
  obtain ⟨-, hcreate⟩ := ok_of_guard hcreate
  cases hcreate
  refine ⟨⟨rfl, rfl, rfl, Rows.filter_insert fun x hx => ?_, rfl⟩, foreign_own⟩
  rw [List.mem_singleton.mp hx]
  exact foreign_own

/-- A request of a caller that has been let in. -/
theorem requests_isolated (hvalid : Valid R) (hj : ∀ k, j ∉ R.ids k) (request : Request) :
    Isolated org E R (requests E C Q org user now drawn R) request ↔
      Inside org E C R now drawn request := by
  cases request with
  | listGroups => exact iff_of_true listGroups_isolated trivial
  | createGroup body => exact iff_of_true (createGroup_isolated body) trivial
  | updateGroup g patch => exact updateGroup_isolated (hj .group) patch
  | deleteGroup g => exact deleteGroup_isolated hvalid (hj .group)
  | addDevicesToGroup g ids => exact addDevicesToGroup_isolated hvalid (hj .group) (hj .device) ids
  | removeDeviceFromGroup g d => exact removeDeviceFromGroup_isolated hvalid (hj .group) (hj .device)
  | listGroupDevices g => exact listGroupDevices_isolated hvalid (hj .group)
  | listDeviceGroups d => exact listDeviceGroups_isolated hvalid (hj .device)
  | listSchedules => exact iff_of_true listSchedules_isolated trivial
  | createSchedule body => exact createSchedule_isolated (hj .device) body
  | updateSchedule id patch => exact updateSchedule_isolated (hj .schedule) (hj .device) id patch
  | deleteSchedule id => exact deleteSchedule_isolated (hj .schedule) id
  | listRules => exact iff_of_true listRules_isolated trivial
  | createRule body => exact iff_of_true (createRule_isolated body) trivial
  | updateRule id patch => exact updateRule_isolated (hj .rule) id patch
  | resolveAlert id => exact resolveAlert_isolated hvalid (hj .alert) id

end

/-! ## Requests with their token -/

section

variable {τ K : Type} [Field K] [LinearOrder K] [FloorRing K] {A : Accounts.AuthEnv τ}
  {E : Env} {C : Cron} {Q : Queries} {org : Uuid} {R : Resources} {call : Call τ K} {token : τ}
  {payload : Accounts.Claims} {request : Request}

theorem adminOnly_rename (ρ : Table → Uuid → Uuid) (request : Request) :
    (request.rename ρ).adminOnly = request.adminOnly := by
  cases request <;> rfl

/-- Isolation is about the request and its renamings. -/
theorem isolated_congr {run run' : Request → Except PyErr (Reply × Resources)}
    (h : ∀ r : Request, r.adminOnly = request.adminOnly → run r = run' r) :
    Isolated org E R run request ↔ Isolated org E R run' request := by
  have hrun := h request rfl
  have hrenamed : ∀ ρ, run (request.rename ρ) = run' (request.rename ρ) := fun ρ =>
    h _ (adminOnly_rename ρ request)
  constructor
  · rintro ⟨hkept, hown, hunseen⟩
    refine ⟨hrun ▸ hkept, hrun ▸ hown, fun ρ hρ => ?_⟩
    rw [← hrun, ← hrenamed ρ]
    exact hunseen ρ hρ
  · rintro ⟨hkept, hown, hunseen⟩
    refine ⟨hrun ▸ hkept, hrun ▸ hown, fun ρ hρ => ?_⟩
    rw [hrun, hrenamed ρ]
    exact hunseen ρ hρ

/-- A token that is let in is an access token. -/
theorem access_of_user {v : K} {s : Accounts} {user : Accounts.User}
    (hdecode : Accounts.decodeToken A v token = some payload)
    (h : (Accounts.getCurrentUser A v (some token) s).1 = .ok user) : payload.type = .access := by
  by_contra htype
  simp only [Accounts.getCurrentUser, hdecode, if_neg htype] at h
  cases h

/-- A caller holds an access token. -/
theorem access_of_caller {user : Accounts.User} (hcredentials : call.credentials = some token)
    (hdecode : Accounts.decodeToken A call.time token = some payload)
    (h : caller A call request R = .ok user) : payload.type = .access := by
  rw [caller, hcredentials] at h
  split at h
  · have hadmin : Accounts.requireAdmin A call.time (some token) R.accounts =
        (.ok user, (Accounts.requireAdmin A call.time (some token) R.accounts).2) := Prod.ext h rfl
    obtain ⟨known, s, hknown, -⟩ := Act.ok_of_bind hadmin
    exact access_of_user hdecode (congrArg Prod.fst hknown)
  · exact access_of_user hdecode h

/-- A request of a user whose token carries the organization is isolated from the others iff the
    user is refused, or the request stays inside.

    The condition is `Inside`, request by request.  From right to left a run is compared with one in which the ids
    of the other organizations are renamed; from left to right the renaming shows in the answer. -/
theorem isolated_iff_inside (hcredentials : call.credentials = some token)
    (hdecode : Accounts.decodeToken A call.time token = some payload)
    (horg : payload.orgId = some org) (hvalid : Valid R) :
    Isolated org E R (fun r => serve E C Q A call r R) request ↔
      (Admitted A call request R → Inside org E C R call.now call.drawn request) := by
  cases hcaller : caller A call request R with
  | error e =>
    have hrefused : ∀ r : Request, r.adminOnly = request.adminOnly →
        serve E C Q A call r R = .error e := by
      intro r hr
      have hsame : caller A call r R = caller A call request R := by
        unfold caller
        rw [hr]
      rw [serve, hsame, hcaller]
      rfl
    refine iff_of_true ?_ fun ⟨user, huser⟩ => ?_
    · rw [isolated_congr hrefused]
      exact isolated_of_fixed (fun _ _ => rfl) fun _ _ hrun => nomatch hrun
    · rw [hcaller] at huser
      cases huser
  | ok user =>
    have hadmitted : ∀ r : Request, r.adminOnly = request.adminOnly →
        serve E C Q A call r R = requests E C Q org user.id call.now call.drawn R r := by
      intro r hr
      have hsame : caller A call r R = caller A call request R := by
        unfold caller
        rw [hr]
      rw [serve]
      rw [hsame, hcaller, hcredentials, Accounts.getCurrentOrgId_decoded hdecode horg,
        if_pos (access_of_caller hcredentials hdecode hcaller)]
      rfl
    obtain ⟨j, hj⟩ := hvalid.spare
    rw [isolated_congr hadmitted, requests_isolated hvalid hj]
    exact ⟨fun hinside _ => hinside, fun hinside => hinside ⟨user, hcaller⟩⟩

end

/-! ## Two organizations -/

/-- A group. -/
def sampleGroup (id org : Uuid) : DeviceGroup where
  id := id
  orgId := org
  name := "servers"
  description := none
  color := "#3b82f6"
  createdAt := 0
  createdBy := none

/-- Alice, an administrator; two organizations, each with a device in a group. -/
def twoOrgs : Resources where
  accounts := ⟨[.sample 1 "alice" "admin"], [⟨1, "one", "one", none⟩, ⟨2, "two", "two", none⟩], [], []⟩
  devices := [Reads.ownDevice, Reads.foreignDevice]
  groups := [sampleGroup 11 1, sampleGroup 12 2]
  memberships := [⟨21, 11, 5⟩, ⟨22, 12, 6⟩]
  schedules := []
  rules := []
  alerts := []

theorem twoOrgs_valid : Valid twoOrgs where
  spare := ⟨99, fun k => by cases k <;> decide +kernel⟩
  keys k := by cases k <;> decide +kernel
  memberships := by decide +kernel
  groupIds := by decide +kernel
  deviceIds := by decide +kernel

/-- Alice's token carries organization 1. -/
def aliceCalls : Call Accounts.Claims ℚ where
  time := 0
  now := 0
  credentials := some { Accounts.Claims.accessOf 1 with orgId := some 1 }
  drawn n := BitVec.ofNat 128 (100 + n)

/-- Alice deletes the group of her own organization. -/
theorem own_group_deleted :
    Isolated 1 Env.sample twoOrgs
      (fun r => serve Env.sample Scheduler.everyMinute Reads.anyOrder .sample aliceCalls r twoOrgs)
      (.deleteGroup 11) := by
  have hdecode : Accounts.decodeToken Accounts.AuthEnv.sample (0 : ℚ)
      { Accounts.Claims.accessOf 1 with orgId := some 1 } =
        some { Accounts.Claims.accessOf 1 with orgId := some 1 } := by decide +kernel
  refine (isolated_iff_inside rfl hdecode rfl twoOrgs_valid).mpr fun _ => ⟨?_, ?_⟩
  · show ¬ ForeignGroup 1 twoOrgs 11
    decide +kernel
  · show ∀ m ∈ twoOrgs.memberships, m.groupId = 11 → ¬ ForeignMembership 1 twoOrgs m
    decide +kernel

/-- Alice deletes the group of the other one. -/
theorem foreign_group_deleted :
    ¬ Isolated 1 Env.sample twoOrgs
      (fun r => serve Env.sample Scheduler.everyMinute Reads.anyOrder .sample aliceCalls r twoOrgs)
      (.deleteGroup 12) := by
  intro h
  have hbefore : (twoOrgs.groups.filter fun g => foreign 1 (some g.orgId)).length = 1 := by
    decide +kernel
  have hafter : ((settled twoOrgs (serve Env.sample Scheduler.everyMinute Reads.anyOrder .sample
      aliceCalls (.deleteGroup 12) twoOrgs)).groups.filter fun g => foreign 1 (some g.orgId)).length =
        0 := by
    decide +kernel
  rw [h.kept.groups, hbefore] at hafter
  cases hafter

end Resources

end Dtsys
