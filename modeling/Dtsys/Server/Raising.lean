/-
  WHICH MESSAGES RAISE AN ALERT, and that they do.

  `Raises` reads off a message the alert types it asks for: a metric over its threshold, a reported
  crash, a clock that drifts or cannot be used.  On a device that is not in maintenance, a message
  that is handled to its end has added a row of each such type that had no open alert
  (`raises_adds`).

  A handler comes to an alert through other alerts and past resolved ones; `Onward` is what they
  leave: the rows of every type are still there, and of the types not mentioned none has been opened.
-/
import Dtsys.Server.Atomicity
import Dtsys.Server.Reports
import Dtsys.Server.Scope

namespace Dtsys

namespace Server

variable {E : Env} {w w' w'' : World}

/-- How many alerts of a device and a type there are, resolved or not. -/
def raisedRows (d : Uuid) (ty : AlertType) (db : Db) : Nat :=
  db.alerts.countP fun a => a.deviceId == d && a.alertType == ty

/-- The value of a field, `None` when it is missing. -/
def field (fields : List (String × Json)) (key : String) : Json := (fields.lookup key).getD .null

/-- The alert types a message asks for. -/
inductive Raises (E : Env) (w : World) (message : Json) : AlertType → Prop
  | cpu {fields : List (String × Json)} (hd : dispatched message = some (.telemetry, .obj fields))
      (hover : Exceeds (field fields "cpu_percent") E.settings.alertCpuPercent.value) :
      Raises E w message .highCpu
  | ram {fields : List (String × Json)} (hd : dispatched message = some (.telemetry, .obj fields))
      (hover : Exceeds (field fields "ram_percent") E.settings.alertRamPercent.value) :
      Raises E w message .highRam
  | disk {fields : List (String × Json)} (hd : dispatched message = some (.telemetry, .obj fields))
      (hover : Exceeds (field fields "disk_percent")
        E.settings.alertDiskPercent.value) :
      Raises E w message .diskFull
  | temp {fields : List (String × Json)} (hd : dispatched message = some (.telemetry, .obj fields))
      (hover : Exceeds (field fields "cpu_temp")
        E.settings.alertCpuTempCelsius.value) :
      Raises E w message .highTemp
  | crash {fields : List (String × Json)}
      (hd : dispatched message = some (.eventReport, .obj fields))
      (hcrash : (field fields "event_type").isStr "crash" = true)
      (hlimit : eventLimited w = false) :
      Raises E w message .crash
  | drift {data offset : Json} (hd : dispatched message = some (.ntpStatus, data))
      (hoffset : ntpOffset data = .ok offset)
      (hover : Exceeds offset E.settings.alertNtpOffsetMs.value) :
      Raises E w message .timeDrift
  | skew {data usable : Json} (hd : dispatched message = some (.ntpStatus, data))
      (husable : data.getD "clock_usable" (.bool true) = .ok usable)
      (hfalse : usable.truthy = false) :
      Raises E w message .clockSkew

/-! ## Onward -/

/-- From `w` to `w'`: at most alerts of the types `tys` have been opened. -/
structure Onward (tys : List AlertType) (w w' : World) : Prop where
  settled : w'.Settled
  id : w'.device.id = w.device.id
  maintenance : w'.device.maintenanceMode = w.device.maintenanceMode
  rows : ∀ ty, raisedRows w.device.id ty w.db ≤ raisedRows w.device.id ty w'.db
  quiet : ∀ ty, ty ∉ tys → openAlerts w ty = [] → openAlerts w' ty = []

theorem Onward.refl (h : w.Settled) (tys : List AlertType) : Onward tys w w :=
  ⟨h, rfl, rfl, fun _ => Nat.le_refl _, fun _ _ h0 => h0⟩

/-- One stretch of the code after the other. -/
theorem Onward.trans {tys tys' : List AlertType} (h : Onward tys w w') (h' : Onward tys' w' w'') :
    Onward (tys ++ tys') w w'' where
  settled := h'.settled
  id := h'.id.trans h.id
  maintenance := h'.maintenance.trans h.maintenance
  rows ty := by
    have hle := h'.rows ty
    rw [h.id] at hle
    exact Nat.le_trans (h.rows ty) hle
  quiet ty hty h0 := by
    rw [List.mem_append, not_or] at hty
    exact h'.quiet ty hty.2 (h.quiet ty hty.1 h0)

/-- The alert of `create_alert`. -/
def newAlert (E : Env) (w : World) (ty : AlertType) (severity : Severity) (message : String) :
    Alert :=
  ⟨E.uuid4 w.drawn, w.device.id, ty, severity, message, false, w.clock, none⟩

/-- An alert that is raised is one more row. -/
theorem raisedRows_append (d : Uuid) (ty : AlertType) (db : Db) (a : Alert) :
    raisedRows d ty { db with alerts := db.alerts ++ [a] } =
      raisedRows d ty db + if a.deviceId = d ∧ a.alertType = ty then 1 else 0 := by
  unfold raisedRows
  rw [List.countP_append, List.countP_singleton]
  simp

/-- Without maintenance and without an open alert, `create_alert` inserts. -/
theorem createAlert_inserts (h : w.Settled) (hm : w.device.maintenanceMode = false) {ty : AlertType}
    (h0 : openAlerts w ty = []) (severity : Severity) (message : String) :
    ∃ ts effs, createAlert E ty severity message w =
      (.ok (), notified (inserted w (newAlert E w ty severity message)) ts effs) := by
  rw [createAlert, Act.read_bind, if_neg (by simp [hm]), Act.bind_of_ok (select_settled h _)]
  change ∃ ts effs, (scalarOneOrNone (openAlerts w ty) >>= _) w = _
  rw [h0]
  obtain ⟨ts, pushes, -, hrun⟩ := notify_run (E := E)
    (inserted_kept (a := newAlert E w ty severity message) h).settled
    (newAlert E w ty severity message) (inserted w (newAlert E w ty severity message)).device
  generalize (inserted w (newAlert E w ty severity message)).effects ++ _ ++ pushes = effs at hrun
  refine ⟨ts, effs, ?_⟩
  show (flush E >>= fun _ => Act.read World.device >>= notify E (newAlert E w ty severity message))
    { w with
      drawn := w.drawn + 1
      pending := w.pending ++ [.alert (newAlert E w ty severity message)]
      device := alerted w } = _
  rw [Act.bind_of_ok (flush_alert h _), Act.read_bind, hrun]

/-- `create_alert` that returned: it has inserted the alert, or there was nothing to do. -/
theorem createAlert_returned (h : w.Settled) {ty : AlertType} {severity : Severity}
    {message : String} (hrun : createAlert E ty severity message w = (.ok (), w')) :
    (w.device.maintenanceMode = false ∧ openAlerts w ty = [] ∧ ∃ ts effs,
      w' = notified (inserted w (newAlert E w ty severity message)) ts effs) ∨
    (¬ (w.device.maintenanceMode = false ∧ openAlerts w ty = []) ∧ w' = w) := by
  by_cases hfree : w.device.maintenanceMode = false ∧ openAlerts w ty = []
  · obtain ⟨hm, h0⟩ := hfree
    obtain ⟨ts, effs, hins⟩ := createAlert_inserts (E := E) h hm h0 severity message
    rw [hrun] at hins
    exact .inl ⟨hm, h0, ts, effs, (Prod.mk.inj hins).2⟩
  · refine .inr ⟨hfree, ?_⟩
    have hcases := createAlert_run (E := E) h ty severity message
    rw [hrun] at hcases
    cases hcases with
    | skipped _ => rfl
    | created hm h0 hk hn => exact absurd ⟨hm, h0⟩ hfree

/-- `create_alert` that returned has gone onward, and added its row if nothing stood in the way. -/
theorem createAlert_onward (h : w.Settled) {ty : AlertType} {severity : Severity} {message : String}
    (hrun : createAlert E ty severity message w = (.ok (), w')) :
    Onward [ty] w w' ∧ (w.device.maintenanceMode = false → openAlerts w ty = [] →
      raisedRows w.device.id ty w.db < raisedRows w.device.id ty w'.db) := by
  rcases createAlert_returned h hrun with ⟨-, -, ts, effs, rfl⟩ | ⟨hfree, rfl⟩
  · let a := newAlert E w ty severity message
    have hkept : Kept [ty] w (inserted w a) := inserted_kept (a := a) h
    have hrows : ∀ ty', raisedRows w.device.id ty' (inserted w a).db =
        raisedRows w.device.id ty' w.db + if a.deviceId = w.device.id ∧ a.alertType = ty' then 1
          else 0 :=
      fun ty' => raisedRows_append _ _ { w.db with devices := (inserted w a).db.devices } a
    refine ⟨⟨notified_settled hkept.settled ts effs, rfl, rfl, fun ty' => ?_, fun ty' hty' h0' => ?_⟩,
      fun _ _ => ?_⟩
    · show _ ≤ raisedRows w.device.id ty' (inserted w a).db
      rw [hrows]
      omega
    · exact (hkept.alerts ty' hty').trans h0'
    · show _ < raisedRows w.device.id ty (inserted w a).db
      rw [hrows, if_pos ⟨rfl, rfl⟩]
      omega
  · exact ⟨.refl h _, fun hm h0 => absurd ⟨hm, h0⟩ hfree⟩

/-- What a handler's check of the type `ty` does when it returns; `asks` is what makes it raise an
    alert. -/
structure AlertCheck (asks : Prop) (ty : AlertType) (w w' : World) : Prop where
  onward : Onward [ty] w w'
  adds : asks → w.device.maintenanceMode = false → openAlerts w ty = [] →
    raisedRows w.device.id ty w.db < raisedRows w.device.id ty w'.db

/-- A check that asks for nothing. -/
theorem AlertCheck.skip (h : w.Settled) {asks : Prop} (hnot : ¬ asks) (ty : AlertType) :
    AlertCheck asks ty w w :=
  ⟨.refl h _, fun hasks => absurd hasks hnot⟩

/-- `create_alert`, when it returns. -/
theorem createAlert_checked (h : w.Settled) {ty : AlertType} {severity : Severity} {message : String}
    (hrun : createAlert E ty severity message w = (.ok (), w')) (asks : Prop) :
    AlertCheck asks ty w w' :=
  have hboth := createAlert_onward h hrun
  ⟨hboth.1, fun _ => hboth.2⟩

/-- A value is compared with its bound, and an alert created when it is over. -/
theorem compared_returned {v : Json} {bound : Rat} {ty : AlertType} {severity : Severity}
    {text : Rat → String}
    (hrun : (Act.ofExcept (v.gt bound) >>= fun exceeded =>
      if exceeded = true then
        Act.ofExcept v.toFloat >>= fun x => createAlert E ty severity (text x)
      else pure ()) w = (.ok (), w')) :
    (Exceeds v bound ∧ ∃ message, createAlert E ty severity message w = (.ok (), w')) ∨
      (¬ Exceeds v bound ∧ w' = w) := by
  obtain ⟨exceeded, hgt, hrun⟩ := Act.ok_of_ofExcept hrun
  rw [Json.gt] at hgt
  cases hnum : v.number with
  | none =>
    rw [hnum] at hgt
    cases hgt
  | some x =>
    rw [hnum] at hgt
    obtain rfl : decide (bound < x) = exceeded := Except.ok.inj hgt
    by_cases hover : bound < x
    · rw [if_pos (decide_eq_true hover)] at hrun
      obtain ⟨y, -, hrun⟩ := Act.ok_of_ofExcept hrun
      exact .inl ⟨⟨x, hnum, hover⟩, _, hrun⟩
    · rw [if_neg (by simp [hover])] at hrun
      refine .inr ⟨?_, (Prod.mk.inj hrun).2.symm⟩
      rintro ⟨y, hy, hlt⟩
      rw [hnum] at hy
      obtain rfl := Option.some.inj hy
      exact hover hlt

/-- `check_threshold`, when it returns: it asked for an alert, or it left the session alone. -/
theorem checkThreshold_returned {v : Json} {bound : Threshold} {ty : AlertType}
    {severity : Severity} {text : String → String}
    (hrun : checkThreshold E v bound ty severity text w = (.ok (), w')) :
    (Exceeds v bound.value ∧ ∃ message, createAlert E ty severity message w = (.ok (), w')) ∨
      (¬ Exceeds v bound.value ∧ w' = w) := by
  rw [checkThreshold] at hrun
  by_cases hnone : v.isNone = true
  · rw [if_pos hnone] at hrun
    refine .inr ⟨?_, (Prod.mk.inj hrun).2.symm⟩
    rintro ⟨x, hx, -⟩
    cases v <;> simp_all [Json.isNone, Json.number]
  · rw [if_neg hnone] at hrun
    exact compared_returned hrun

theorem checked_of_returned (h : w.Settled) {asks : Prop} {ty : AlertType} {severity : Severity}
    (hrun : (asks ∧ ∃ message, createAlert E ty severity message w = (.ok (), w')) ∨
      (¬ asks ∧ w' = w)) : AlertCheck asks ty w w' := by
  rcases hrun with ⟨-, message, hrun⟩ | ⟨hnot, rfl⟩
  · exact createAlert_checked h hrun _
  · exact .skip h hnot ty

/-- A threshold check is an alert check. -/
theorem checkThreshold_checked (h : w.Settled) {v : Json} {bound : Threshold} {ty : AlertType}
    {severity : Severity} {text : String → String}
    (hrun : checkThreshold E v bound ty severity text w = (.ok (), w')) :
    AlertCheck (Exceeds v bound.value) ty w w' :=
  checked_of_returned h (checkThreshold_returned hrun)

/-! ## Telemetry -/

/-- Over the threshold of a type. -/
def Over (E : Env) (m : DeviceMetric) : AlertType → Prop
  | .highCpu => Exceeds m.cpuPercent E.settings.alertCpuPercent.value
  | .highRam => Exceeds m.ramPercent E.settings.alertRamPercent.value
  | .diskFull => Exceeds m.diskPercent E.settings.alertDiskPercent.value
  | .highTemp => Exceeds m.cpuTemp E.settings.alertCpuTempCelsius.value
  | _ => False

/-- The checks of the four types do not get in each other's way. -/
theorem evaluateMetrics_adds (h : w.Settled) {m : DeviceMetric}
    (hrun : evaluateMetrics E m w = (.ok (), w')) :
    Onward [.highCpu, .highRam, .diskFull, .highTemp] w w' ∧
      (w.device.maintenanceMode = false → ∀ ty, Over E m ty → openAlerts w ty = [] →
        raisedRows w.device.id ty w.db < raisedRows w.device.id ty w'.db) := by
  obtain ⟨_, w₁, hcpu, hrun⟩ := Act.ok_of_bind hrun
  obtain ⟨_, w₂, hram, hrun⟩ := Act.ok_of_bind hrun
  obtain ⟨_, w₃, hdisk, htemp⟩ := Act.ok_of_bind hrun
  have h₁ := checkThreshold_checked h hcpu
  have h₂ := checkThreshold_checked h₁.onward.settled hram
  have h₃ := checkThreshold_checked h₂.onward.settled hdisk
  have h₄ := checkThreshold_checked h₃.onward.settled htemp
  have h₁₂ := h₁.onward.trans h₂.onward
  have h₁₃ := h₁₂.trans h₃.onward
  have h₃₄ := h₃.onward.trans h₄.onward
  have h₂₄ := h₂.onward.trans h₃₄
  refine ⟨h₁.onward.trans h₂₄, fun hm ty hover hopen => ?_⟩
  -- the checks in front open no alert of the type, the ones behind leave its rows
  cases ty with
  | highCpu => exact Nat.lt_of_lt_of_le (h₁.adds hover hm hopen) (h₁.onward.id ▸ h₂₄.rows .highCpu)
  | highRam =>
    have hadds := h₂.adds hover (h₁.onward.maintenance.trans hm)
      (h₁.onward.quiet .highRam (by decide) hopen)
    have hrest := h₃₄.rows .highRam
    rw [h₁₂.id] at hrest
    rw [h₁.onward.id] at hadds
    exact Nat.lt_of_le_of_lt (h₁.onward.rows .highRam) (Nat.lt_of_lt_of_le hadds hrest)
  | diskFull =>
    have hadds := h₃.adds hover (h₁₂.maintenance.trans hm) (h₁₂.quiet .diskFull (by decide) hopen)
    have hrest := h₄.onward.rows .diskFull
    rw [h₁₃.id] at hrest
    rw [h₁₂.id] at hadds
    exact Nat.lt_of_le_of_lt (h₁₂.rows .diskFull) (Nat.lt_of_lt_of_le hadds hrest)
  | highTemp =>
    have hadds := h₄.adds hover (h₁₃.maintenance.trans hm) (h₁₃.quiet .highTemp (by decide) hopen)
    rw [h₁₃.id] at hadds
    exact Nat.lt_of_le_of_lt (h₁₃.rows .highTemp) hadds
  | _ => exact absurd hover id

/-- The alerts that were raised stay, resolved or not. -/
theorem resolve_rows (d d' : Uuid) (ty ty' : AlertType) (t : Nat) (db : Db) :
    raisedRows d ty (resolveAlerts d' ty' t db) = raisedRows d ty db := by
  rw [raisedRows, resolveAlerts, List.countP_map]
  refine List.countP_congr fun a _ => ?_
  show (Alert.deviceId (if unresolved d' ty' a then _ else a) == d &&
    Alert.alertType (if unresolved d' ty' a then _ else a) == ty) = true ↔ _
  split
  · exact Iff.rfl
  · exact Iff.rfl

/-- Resolving opens nothing. -/
theorem resolve_onward (h : w.Settled) (d : Uuid) (ty : AlertType) (t : Nat) :
    Onward [] w { w with db := resolveAlerts d ty t w.db } where
  settled := ⟨h.pending, h.loaded⟩
  id := rfl
  maintenance := rfl
  rows ty' := by
    show _ ≤ raisedRows _ ty' (resolveAlerts d ty t w.db)
    rw [resolve_rows]
  quiet ty' _ h0 := by
    have hnone : ∀ a ∈ w.db.alerts, unresolved w.device.id ty' a = false := by
      intro a ha
      cases hun : unresolved w.device.id ty' a with
      | false => rfl
      | true =>
        have hin : a ∈ openAlerts w ty' := List.mem_filter.mpr ⟨ha, hun⟩
        rw [h0] at hin
        cases hin
    refine List.filter_eq_nil_iff.mpr fun a ha => ?_
    obtain ⟨b, hb, rfl⟩ := List.mem_map.mp ha
    show ¬ unresolved w.device.id ty' (if unresolved d ty b then _ else b) = true
    split
    · simp [unresolved]
    · rw [hnone b hb]
      simp

theorem autoResolve_onward (h : w.Settled) {d : Uuid} {v : Json} {bound : Rat} {ty : AlertType}
    {t : Nat} (hrun : autoResolve E d v bound ty t w = (.ok (), w')) : Onward [] w w' := by
  rw [autoResolve] at hrun
  split at hrun
  · obtain rfl : w = w' := (Prod.mk.inj hrun).2
    exact .refl h _
  · obtain ⟨below, -, hrun⟩ := Act.ok_of_ofExcept hrun
    split at hrun
    · rw [execute_settled h] at hrun
      obtain rfl : _ = w' := (Prod.mk.inj hrun).2
      exact resolve_onward h d ty t
    · obtain rfl : w = w' := (Prod.mk.inj hrun).2
      exact .refl h _

theorem autoResolveAlerts_onward (h : w.Settled) {d : Uuid} {data : Json}
    (hrun : autoResolveAlerts E d data w = (.ok (), w')) : Onward [] w w' := by
  rw [autoResolveAlerts, now, Act.read_bind] at hrun
  obtain ⟨cpu, -, hrun⟩ := Act.ok_of_ofExcept hrun
  obtain ⟨_, w₁, hcpu, hrun⟩ := Act.ok_of_bind hrun
  obtain ⟨ram, -, hrun⟩ := Act.ok_of_ofExcept hrun
  obtain ⟨_, w₂, hram, hrun⟩ := Act.ok_of_bind hrun
  obtain ⟨disk, -, hdisk⟩ := Act.ok_of_ofExcept hrun
  have h₁ := autoResolve_onward h hcpu
  have h₂ := autoResolve_onward h₁.settled hram
  exact (h₁.trans h₂).trans (autoResolve_onward h₂.settled hdisk)

theorem metricOf_obj (id : Uuid) (t : Nat) (d : Uuid) (fields : List (String × Json)) :
    ∃ m, metricOf id t d (.obj fields) = .ok m ∧ m.cpuPercent = field fields "cpu_percent" ∧
      m.ramPercent = field fields "ram_percent" ∧ m.diskPercent = field fields "disk_percent" ∧
      m.cpuTemp = field fields "cpu_temp" :=
  ⟨_, rfl, rfl, rfl, rfl, rfl⟩

/-- Telemetry that has been handled has added a row for every threshold exceeded. -/
theorem handleTelemetry_adds (hc : w.Clean) (hm : w.device.maintenanceMode = false)
    {fields : List (String × Json)} (hrun : handleTelemetry E (.obj fields) w = (.ok (), w')) :
    w'.Settled ∧ ∃ m : DeviceMetric, m.cpuPercent = field fields "cpu_percent" ∧
      m.ramPercent = field fields "ram_percent" ∧ m.diskPercent = field fields "disk_percent" ∧
      m.cpuTemp = field fields "cpu_temp" ∧ ∀ ty, Over E m ty → openAlerts w ty = [] →
        raisedRows w.device.id ty w.db < raisedRows w.device.id ty w'.db := by
  obtain ⟨m, hmetric, hfields⟩ := metricOf_obj (E.uuid4 w.drawn) w.clock w.device.id fields
  obtain ⟨w₁, hev, hres⟩ := handleTelemetry_passed hc hmetric hrun
  have hset : (measured w m).Settled := ⟨hc.pending, rfl⟩
  obtain ⟨honward, hadds⟩ := evaluateMetrics_adds hset hev
  have hresolved := autoResolveAlerts_onward honward.settled hres
  refine ⟨hresolved.settled, m, hfields.1, hfields.2.1, hfields.2.2.1, hfields.2.2.2, ?_⟩
  intro ty hover hopen
  have hrest := hresolved.rows ty
  rw [honward.id] at hrest
  exact Nat.lt_of_lt_of_le (hadds hm ty hover hopen) hrest

/-! ## Crashes -/

/-- A reported crash that is not rate limited has added a row. -/
theorem handleEvent_adds (h : w.Settled) (hm : w.device.maintenanceMode = false)
    {fields : List (String × Json)} (hcrash : (field fields "event_type").isStr "crash" = true)
    (hlimit : eventLimited w = false) (hopen : openAlerts w .crash = [])
    (hrun : handleEvent E (.obj fields) w = (.ok (), w')) :
    w'.Settled ∧ raisedRows w.device.id .crash w.db < raisedRows w.device.id .crash w'.db := by
  rw [handleEvent] at hrun
  obtain ⟨redis, hredis⟩ := eventRateLimited_run w
  rw [Act.read_bind, Act.bind_of_ok hredis, hlimit, if_neg (by simp)] at hrun
  let w₁ : World := { w with redis := redis }
  have h₁ : w₁.Settled := ⟨h.pending, h.loaded⟩
  obtain ⟨ev, hev⟩ : ∃ ev, eventOf E (E.uuid4 w₁.drawn) w₁.clock w₁.device.id (.obj fields) =
    .ok ev := ⟨_, rfl⟩
  obtain ⟨hrefused, haccepted⟩ := reportEvent_run (E := E) h₁ hev
  cases hrow : E.driver.acceptsRow (.event ev) with
  | false =>
    have herr := hrefused hrow
    rw [show reportEvent E w₁.device (.obj fields) w₁ = (.ok (), w') from hrun] at herr
    cases herr
  | true =>
    obtain ⟨effs, hrep⟩ := haccepted hrow
    rw [show reportEvent E w₁.device (.obj fields) w₁ = (.ok (), w') from hrun,
      if_pos (show ((fields.lookup "event_type").getD .null).isStr "crash" = true from hcrash)] at hrep
    have h₂ : (reported w₁ ev effs).Settled := ⟨h.pending, h.loaded⟩
    obtain ⟨honward, hadds⟩ := createAlert_onward h₂ hrep.symm
    exact ⟨honward.settled, hadds hm hopen⟩

/-! ## NTP reports -/

/-- The drift of the clock is an alert check. -/
theorem checkDrift_checked (h : w.Settled) {offset : Json}
    (hrun : checkDrift E offset w = (.ok (), w')) :
    AlertCheck (Exceeds offset E.settings.alertNtpOffsetMs.value) .timeDrift w w' :=
  checked_of_returned h (compared_returned hrun)

/-- So is a clock that cannot be used. -/
theorem checkClock_checked (h : w.Settled) {d : Uuid} {data offset usable : Json}
    (husable : data.getD "clock_usable" (.bool true) = .ok usable)
    (hrun : checkClock E d data offset w = (.ok (), w')) :
    AlertCheck (usable.truthy = false) .clockSkew w w' := by
  rw [checkClock, husable, Act.ofExcept_ok_bind] at hrun
  by_cases ht : usable.truthy = true
  · rw [if_pos ht, now, Act.read_bind, execute_settled h] at hrun
    obtain rfl : _ = w' := (Prod.mk.inj hrun).2
    have honward := resolve_onward h d .clockSkew w.clock
    refine ⟨⟨honward.settled, rfl, rfl, honward.rows, fun ty _ => honward.quiet ty (by simp)⟩,
      fun hf => ?_⟩
    rw [hf] at ht
    cases ht
  · rw [if_neg ht] at hrun
    obtain ⟨x, -, hrun⟩ := Act.ok_of_ofExcept hrun
    exact createAlert_checked h hrun _

/-- The two checks of an NTP report. -/
theorem handleNtp_checked (h : w.Settled) {data offset usable : Json}
    (hoffset : ntpOffset data = .ok offset)
    (husable : data.getD "clock_usable" (.bool true) = .ok usable)
    (hrun : handleNtp E data w = (.ok (), w')) :
    ∃ w₁, AlertCheck (Exceeds offset E.settings.alertNtpOffsetMs.value) .timeDrift w w₁ ∧
      AlertCheck (usable.truthy = false) .clockSkew w₁ w' := by
  rw [handleNtp, Act.read_bind, hoffset, Act.ofExcept_ok_bind] at hrun
  obtain ⟨_, w₁, hdrift, hclock⟩ := Act.ok_of_bind hrun
  have h₁ := checkDrift_checked h hdrift
  exact ⟨w₁, h₁, checkClock_checked h₁.onward.settled husable hclock⟩

/-! ## Messages -/

/-- **Messages that raise an alert add its row**, when they are handled to the end, the device is not
    in maintenance, and no alert of the type is open. -/
theorem raises_adds (hc : w.Clean) (hm : w.device.maintenanceMode = false) {message : Json}
    {ty : AlertType} (hr : Raises E w message ty) (hopen : openAlerts w ty = [])
    (hrun : handle E message w = (.ok (), w')) :
    w'.Settled ∧ raisedRows w.device.id ty w.db < raisedRows w.device.id ty w'.db := by
  cases hr with
  | cpu hd hover =>
    rw [handle_dispatched hd] at hrun
    obtain ⟨hset, m, hcpu, -, -, -, hadds⟩ := handleTelemetry_adds hc hm hrun
    refine ⟨hset, hadds .highCpu ?_ hopen⟩
    rw [Over, hcpu]
    exact hover
  | ram hd hover =>
    rw [handle_dispatched hd] at hrun
    obtain ⟨hset, m, -, hram, -, -, hadds⟩ := handleTelemetry_adds hc hm hrun
    refine ⟨hset, hadds .highRam ?_ hopen⟩
    rw [Over, hram]
    exact hover
  | disk hd hover =>
    rw [handle_dispatched hd] at hrun
    obtain ⟨hset, m, -, -, hdisk, -, hadds⟩ := handleTelemetry_adds hc hm hrun
    refine ⟨hset, hadds .diskFull ?_ hopen⟩
    rw [Over, hdisk]
    exact hover
  | temp hd hover =>
    rw [handle_dispatched hd] at hrun
    obtain ⟨hset, m, -, -, -, htemp, hadds⟩ := handleTelemetry_adds hc hm hrun
    refine ⟨hset, hadds .highTemp ?_ hopen⟩
    rw [Over, htemp]
    exact hover
  -- Events and NTP reports have alerts of their own.
  | crash hd hcrash hlimit =>
    rw [handle_dispatched hd] at hrun
    exact handleEvent_adds hc.toSettled hm hcrash hlimit hopen hrun
  | drift hd hoffset hover =>
    rw [handle_dispatched hd] at hrun
    obtain ⟨-, fields, rfl⟩ := ntpOffset_fields hoffset
    obtain ⟨w₁, hdrift, hskew⟩ := handleNtp_checked hc.toSettled hoffset rfl hrun
    have hrest := hskew.onward.rows .timeDrift
    rw [hdrift.onward.id] at hrest
    exact ⟨hskew.onward.settled, Nat.lt_of_lt_of_le (hdrift.adds hover hm hopen) hrest⟩
  -- The drift alert comes first; it leaves the rows of the skew alert and the device alone.
  | @skew data usable hd husable hfalse =>
    rw [handle_dispatched hd] at hrun
    cases hoffset : ntpOffset data with
    | error e =>
      have herr : handleNtp E data w = (.error e, w) := by
        rw [handleNtp, Act.read_bind, hoffset, Act.ofExcept_error_bind]
      rw [show handleNtp E data w = (.ok (), w') from hrun] at herr
      cases herr
    | ok offset =>
      obtain ⟨w₁, hdrift, hskew⟩ := handleNtp_checked hc.toSettled hoffset husable hrun
      have hadds := hskew.adds hfalse (hdrift.onward.maintenance.trans hm)
        (hdrift.onward.quiet .clockSkew (by decide) hopen)
      rw [hdrift.onward.id] at hadds
      exact ⟨hskew.onward.settled, Nat.lt_of_le_of_lt (hdrift.onward.rows .clockSkew) hadds⟩

/-! ## Maintenance -/

theorem respected_alertIds (d : Uuid) :
    Respected d fun a b => b.alerts.map Alert.id = a.alerts.map Alert.id where
  refl _ := rfl
  trans hab hbc := hbc.trans hab
  congr {a b} x hab := by
    cases x with
    | alert al =>
      show (b.alerts ++ [al]).map Alert.id = (a.alerts ++ [al]).map Alert.id
      rw [List.map_append, List.map_append, hab]
    | _ => exact hab
  report a x _ hx := by
    cases x with
    | alert al => cases hx
    | _ => rfl
  sync _ _ _ _ _ _ := rfl
  statement hf a := by
    cases hf with
    | resolve ty t =>
      show (a.alerts.map _).map Alert.id = _
      rw [List.map_map]
      refine List.map_congr_left fun al _ => ?_
      show Alert.id (if unresolved d ty al then _ else al) = al.id
      split
      · rfl
      · rfl
    | _ => rfl

theorem lasting_maintenance (d : Uuid) :
    Lasting d fun x => x.id = d ∧ x.maintenanceMode = true where
  id _ hx := hx.1
  attributes hf x hx := ⟨(hf.id_eq x).trans hx.1, (hf.maintenanceMode_eq x).trans hx.2⟩

/-- **In maintenance no message adds an alert**: `create_alert` returns at once. -/
theorem maintenance_silent (h : w.Settled) (hm : w.device.maintenanceMode = true) (message : Json) :
    (handle E message w).2.view.alerts.map Alert.id = w.db.alerts.map Alert.id := by
  let F := onView (lasting_maintenance w.device.id) (respected_alertIds w.device.id)
  have hhandled : Handled E w.device.id F := by
    refine ⟨onView_inSession _ _, fun ty severity text v hv => ?_⟩
    rw [createAlert, Act.read_bind, if_pos hv.2]
    exact ⟨hv, rfl, rfl⟩
  have hview := (hhandled.handle (fun id f => onView_command _ _ fun a => rfl) message w ⟨rfl, hm⟩).2.2
  rw [h.view_eq] at hview
  exact hview

/-! ## Messages that write no rows -/

/-- No handler, or one of the two that write to Redis only. -/
def Rowless (message : Json) : Prop :=
  ∀ ty data, dispatched message = some (ty, data) → ty = .processList ∨ ty = .screenshotResult

/-- A message that writes no row leaves what the session sees. -/
theorem rowless_view {message : Json} (hr : Rowless message) (w : World) :
    (handle E message w).2.view = w.view := by
  cases hd : dispatched message with
  | none => rw [handle_undispatched hd]
  | some p =>
    obtain ⟨ty, data⟩ := p
    rw [handle_dispatched hd]
    rcases hr ty data hd with rfl | rfl
    · exact sameView_handleProcessList data w
    · exact sameView_handleScreenshotResult data w

end Server

end Dtsys
