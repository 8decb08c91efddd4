/-
  `AlertService` ON A SETTLED SESSION: exactly when it raises, and what it leaves behind.

  `create_alert` has one way to fail, the `scalar_one_or_none` over the device's unresolved alerts
  of the type: two of them (`Duplicated`) and it raises, BEFORE it has written anything.  Everything
  after it — the INSERT, the flush, the notification — goes through.

  `Judged bad tys x w` states such a run once: `x` raises iff `bad`, and in either case it has
  touched nothing but alerts of the types `tys` (`Kept`).  Checks compose by `Judged.bind`, because
  a check of one type does not change the verdict of a check of another.
-/
import Dtsys.Server.Handler

namespace Dtsys

namespace Server

variable {E : Env} {w : World}

/-! ## `notify` always returns -/

/-- What `notify` changes: push tokens, and the log of what was handed out. -/
def notified (w : World) (ts : List PushToken) (effs : List Effect) : World :=
  { w with db := { w.db with pushTokens := ts }, effects := effs }

theorem notified_settled (h : w.Settled) (ts : List PushToken) (effs : List Effect) :
    (notified w ts effs).Settled := ⟨h.pending, h.loaded⟩

/-- Effects are recorded in their order. -/
theorem emit_run (effs : List Effect) : ∀ w : World,
    Act.forEach effs emit w = (.ok (), notified w w.db.pushTokens (w.effects ++ effs)) := by
  induction effs with
  | nil => intro w; simp [notified]
  | cons e effs ih =>
    intro w
    rw [Act.forEach_cons]
    show Act.forEach effs emit { w with effects := w.effects ++ [e] } = _
    rw [ih]
    simp [notified]

/-- Messages to the push service, and nothing else. -/
def OnlyPush (effs : List Effect) : Prop := ∀ e ∈ effs, ∃ messages, e = .push messages

theorem onlyPush_nil : OnlyPush [] := fun _ he => (nomatch he)

theorem onlyPush_singleton (messages : List PushMessage) : OnlyPush [.push messages] :=
  fun _ he => ⟨messages, List.mem_singleton.mp he⟩

/-- `send_push_notifications` returns, whatever the push service answers. -/
theorem sendPushNotifications_run (h : w.Settled) (org : Uuid) (title body : String) :
    ∃ ts pushes, OnlyPush pushes ∧
      sendPushNotifications E org title body w = (.ok (), notified w ts (w.effects ++ pushes)) := by
  rw [sendPushNotifications, Act.bind_of_ok (select_settled h _)]
  split
  · exact ⟨w.db.pushTokens, [], onlyPush_nil, by rw [List.append_nil]; rfl⟩
  · simp only [emit, Act.modify_bind]
    cases (E.expoSend ((orgPushTokens w.db org).map fun t => ⟨t.token, title, body⟩)).bind
        (invalidTokens (orgPushTokens w.db org)) with
    | none => exact ⟨w.db.pushTokens, _, onlyPush_singleton _, rfl⟩
    | some bad =>
      simp only [now, Act.read_bind]
      rw [execute_settled (by exact ⟨h.pending, h.loaded⟩)]
      exact ⟨_, _, onlyPush_singleton _, rfl⟩

/-- `notify` returns, and hands out what the enabled rules make of the alert, and push messages. -/
theorem notify_run (h : w.Settled) (alert : Alert) (device : Device) :
    ∃ ts pushes, OnlyPush pushes ∧ notify E alert device w = (.ok (), notified w ts (w.effects ++
      notifyEffects (w.db.notificationRules.filter (·.isEnabled)) alert device ++ pushes)) := by
  rw [notify, Act.bind_of_ok (select_settled h _), Act.bind_of_ok (emit_run _ w)]
  rw [notifyPush]
  cases device.orgId with
  | none => exact ⟨w.db.pushTokens, [], onlyPush_nil, by rw [List.append_nil]; rfl⟩
  | some org =>
    dsimp only
    split
    · obtain ⟨ts, pushes, hpushes, hrun⟩ := sendPushNotifications_run (E := E)
        (notified_settled h w.db.pushTokens _) org _ _
      exact ⟨ts, pushes, hpushes, hrun⟩
    · exact ⟨w.db.pushTokens, [], onlyPush_nil, by rw [List.append_nil]; rfl⟩

/-! ## `create_alert` -/

/-- The unresolved alerts of the session's device and a type. -/
def openAlerts (w : World) (ty : AlertType) : List Alert :=
  w.db.alerts.filter (unresolved w.device.id ty)

/-- Two unresolved alerts of one type, on a device that is not in maintenance. -/
def Duplicated (w : World) (ty : AlertType) : Prop :=
  w.device.maintenanceMode = false ∧ 2 ≤ (openAlerts w ty).length

/-- `w'` differs from `w` only in alerts of the types `tys` and in what an alert brings along. -/
structure Kept (tys : List AlertType) (w w' : World) : Prop where
  settled : w'.Settled
  id : w'.device.id = w.device.id
  maintenance : w'.device.maintenanceMode = w.device.maintenanceMode
  metrics : w'.db.metrics = w.db.metrics
  events : w'.db.events = w.db.events
  alerts : ∀ ty, ty ∉ tys → openAlerts w' ty = openAlerts w ty

theorem Kept.refl (h : w.Settled) (tys : List AlertType) : Kept tys w w :=
  ⟨h, rfl, rfl, rfl, rfl, fun _ _ => rfl⟩

/-- One stretch of the code after the other. -/
theorem Kept.trans {tys tys' : List AlertType} {w' w'' : World} (h : Kept tys w w')
    (h' : Kept tys' w' w'') : Kept (tys ++ tys') w w'' where
  settled := h'.settled
  id := h'.id.trans h.id
  maintenance := h'.maintenance.trans h.maintenance
  metrics := h'.metrics.trans h.metrics
  events := h'.events.trans h.events
  alerts ty hty := by
    rw [List.mem_append, not_or] at hty
    rw [h'.alerts ty hty.2, h.alerts ty hty.1]

theorem Kept.mono {tys tys' : List AlertType} {w' : World} (h : Kept tys w w') (hsub : tys ⊆ tys') :
    Kept tys' w w' :=
  { h with alerts := fun ty hty => h.alerts ty fun hin => hty (hsub hin) }

/-- Alerts of other types do not change whether a type is duplicated. -/
theorem Kept.duplicated_iff {tys : List AlertType} {w' : World} (h : Kept tys w w') {ty : AlertType}
    (hty : ty ∉ tys) : Duplicated w' ty ↔ Duplicated w ty := by
  unfold Duplicated
  rw [h.maintenance, h.alerts ty hty]

/-- What a new alert leaves behind. -/
def NewAlert (E : Env) (w w' : World) : Prop := ∃ a ∈ w'.db.alerts, a.id = E.uuid4 w.drawn

/-- The three runs of `create_alert` on a settled session. -/
inductive AlertRun (E : Env) (ty : AlertType) (w : World) : Except PyErr Unit × World → Prop where
  | raised (h : Duplicated w ty) : AlertRun E ty w (.error .multipleResultsFound, w)
  | skipped (h : w.device.maintenanceMode = true ∨ (openAlerts w ty).length = 1) :
      AlertRun E ty w (.ok (), w)
  | created {w' : World} (h : w.device.maintenanceMode = false) (h0 : openAlerts w ty = [])
      (hk : Kept [ty] w w') (hn : NewAlert E w w') : AlertRun E ty w (.ok (), w')

/-- The device after `create_alert`. -/
def alerted (w : World) : Device := { w.device with status := .alert }

/-- The world after the INSERT has been flushed, before `notify`. -/
def inserted (w : World) (a : Alert) : World :=
  { w with
    db := { w.db with
      devices := w.db.devices.map (World.syncDevice (alerted w) w.device)
      alerts := w.db.alerts ++ [a] }
    device := alerted w
    loaded := alerted w
    drawn := w.drawn + 1 }

/-- A new alert of one type is no open alert of another. -/
theorem inserted_kept (h : w.Settled) {a : Alert} :
    Kept [a.alertType] w (inserted w a) where
  settled := ⟨h.pending, rfl⟩
  id := rfl
  maintenance := rfl
  metrics := rfl
  events := rfl
  alerts ty hty := by
    have hne : a.alertType ≠ ty := fun heq => hty (by simp [heq])
    have hun : unresolved w.device.id ty a = false := by simp [unresolved, hne]
    show (w.db.alerts ++ [a]).filter (unresolved w.device.id ty) = _
    rw [List.filter_append, List.filter_cons_of_neg (by simp [hun])]
    simp [openAlerts]

/-- The flush of a new alert goes through: no column of it comes from outside. -/
theorem flush_alert (h : w.Settled) (a : Alert) :
    flush E { w with drawn := w.drawn + 1, pending := w.pending ++ [.alert a], device := alerted w } =
      (.ok (), inserted w a) := by
  have hacc : flushAccepted E { w with
      drawn := w.drawn + 1, pending := w.pending ++ [.alert a], device := alerted w } = true := by
    simp [flushAccepted, deviceAccepted, h.pending, h.loaded, alerted, Driver.acceptsRow,
      Row.columns]
  rw [flush_accepted E hacc]
  simp [inserted, World.view, h.pending, h.loaded, Db.insertAll, Db.insert]

/-- `create_alert`: it raises for two open alerts of the type, finds the one, or opens one. -/
theorem createAlert_run (h : w.Settled) (ty : AlertType) (severity : Severity) (message : String) :
    AlertRun E ty w (createAlert E ty severity message w) := by
  rw [createAlert, Act.read_bind]
  cases hm : w.device.maintenanceMode with
  | true => exact .skipped (.inl hm)
  | false =>
    rw [if_neg (by simp), Act.bind_of_ok (select_settled h _)]
    change AlertRun E ty w ((scalarOneOrNone (openAlerts w ty) >>= _) w)
    rcases hopen : openAlerts w ty with _ | ⟨a, _ | ⟨b, rest⟩⟩
    · -- no open alert: the INSERT, its flush and the notification all go through
      let a : Alert := ⟨E.uuid4 w.drawn, w.device.id, ty, severity, message, false, w.clock, none⟩
      show AlertRun E ty w ((flush E >>= fun _ => Act.read World.device >>= notify E a)
        { w with drawn := w.drawn + 1, pending := w.pending ++ [.alert a], device := alerted w })
      rw [Act.bind_of_ok (flush_alert h a), Act.read_bind]
      have hk : Kept [ty] w (inserted w a) := inserted_kept (a := a) h
      obtain ⟨ts, pushes, -, hrun⟩ := notify_run (E := E) hk.settled a (inserted w a).device
      rw [hrun]
      exact .created hm hopen ⟨notified_settled hk.settled ts _, rfl, rfl, rfl, rfl, hk.alerts⟩
        ⟨a, by simp [notified, inserted], rfl⟩
    · exact .skipped (.inr (by simp [hopen]))
    · exact .raised ⟨hm, by simp [hopen]⟩

/-! ## Checks -/

/-- `x` raises iff `bad`, and either way only alerts of the types `tys` are touched. -/
inductive Judged (bad : Prop) (tys : List AlertType) (x : Server Unit) (w : World) : Prop where
  | raised (h : bad) (e : PyErr) (w' : World) (hrun : x w = (.error e, w')) (hk : Kept tys w w')
  | returned (h : ¬ bad) (w' : World) (hrun : x w = (.ok (), w')) (hk : Kept tys w w')

namespace Judged

variable {bad bad₁ bad₂ : Prop} {tys tys₁ : List AlertType} {x y : Server Unit}

/-- Sequencing: the verdict of the second check is read off the world before the first. -/
theorem bind (tys₂ : List AlertType) (hx : Judged bad₁ tys₁ x w)
    (hy : ∀ w', Kept tys₁ w w' → Judged bad₂ tys₂ y w') :
    Judged (bad₁ ∨ bad₂) (tys₁ ++ tys₂) (x >>= fun _ => y) w := by
  cases hx with
  | raised h e w' hrun hk =>
    exact .raised (.inl h) e w' (Act.bind_of_error hrun) (hk.mono (List.subset_append_left _ _))
  | returned h w' hrun hk =>
    cases hy w' hk with
    | raised h₂ e w₂ hrun₂ hk₂ =>
      exact .raised (.inr h₂) e w₂ ((Act.bind_of_ok hrun).trans hrun₂) (hk.trans hk₂)
    | returned h₂ w₂ hrun₂ hk₂ =>
      exact .returned (not_or.mpr ⟨h, h₂⟩) w₂ ((Act.bind_of_ok hrun).trans hrun₂) (hk.trans hk₂)

/-- The same condition in other words. -/
theorem congr {bad' : Prop} (hx : Judged bad tys x w) (h : bad ↔ bad') : Judged bad' tys x w := by
  cases hx with
  | raised hb e w' hrun hk => exact .raised (h.mp hb) e w' hrun hk
  | returned hb w' hrun hk => exact .returned (fun hb' => hb (h.mpr hb')) w' hrun hk

end Judged

/-- `create_alert` raises exactly for two open alerts of the type. -/
theorem createAlert_judged (h : w.Settled) (ty : AlertType) (severity : Severity)
    (message : String) : Judged (Duplicated w ty) [ty] (createAlert E ty severity message) w := by
  have hrun := createAlert_run (E := E) h ty severity message
  generalize hr : createAlert E ty severity message w = r at hrun
  cases hrun with
  | raised hd => exact .raised hd _ w hr (Kept.refl h _)
  | skipped hs =>
    refine .returned (fun hd => ?_) w hr (Kept.refl h _)
    rcases hs with hm | hone
    · rw [hd.1] at hm
      cases hm
    · have htwo := hd.2
      omega
  | created hm h0 hk hn =>
    refine .returned (fun hd => ?_) _ hr hk
    have htwo := hd.2
    rw [h0] at htwo
    exact absurd htwo (by decide)

/-- A number beyond the bound. -/
def Exceeds (v : Json) (bound : Rat) : Prop := ∃ x, v.number = some x ∧ bound < x

/-- A value a `Float` column of a flushed row can hold. -/
def Stored (v : Json) : Prop := v.isNone = true ∨ ∃ x, v.toFloat = .ok x

/-- A number that `float()` takes. -/
theorem number_of_toFloat {v : Json} {x : Rat} (h : v.toFloat = .ok x) : v.number = some x := by
  unfold Json.toFloat at h
  split at h
  · split at h
    · cases h
    · rename_i hx _
      cases h
      exact hx
  · rename_i hx
    cases h
    exact hx
  · cases h

/-- A check raises exactly if the metric is over the threshold and two alerts of the type are open. -/
theorem checkThreshold_judged (h : w.Settled) {v : Json} (hv : Stored v) (bound : Threshold)
    (ty : AlertType) (severity : Severity) (text : String → String) :
    Judged (Exceeds v bound.value ∧ Duplicated w ty) [ty]
      (checkThreshold E v bound ty severity text) w := by
  rw [checkThreshold]
  rcases hv with hnone | ⟨x, hx⟩
  · rw [if_pos hnone]
    refine .returned ?_ w rfl (Kept.refl h _)
    rintro ⟨⟨x, hx, -⟩, -⟩
    cases v <;> simp_all [Json.isNone, Json.number]
  · have hnum := number_of_toFloat hx
    have hsome : ¬ v.isNone = true := by
      intro hn
      cases v <;> simp_all [Json.isNone, Json.number]
    rw [if_neg hsome]
    have hgt : v.gt bound.value = .ok (decide (bound.value < x)) := by
      rw [Json.gt, hnum]
    by_cases hover : bound.value < x
    · have hrun : (do
          let exceeded ← (Act.ofExcept (v.gt bound.value) : Server Bool)
          if exceeded then do
            let x ← Act.ofExcept v.toFloat
            createAlert E ty severity (text (fixedText 1 x))
          else pure ()) = createAlert E ty severity (text (fixedText 1 x)) := by
        rw [hgt, hx, decide_eq_true hover]
        rfl
      rw [hrun]
      refine (createAlert_judged h ty severity _).congr ⟨fun hd => ⟨⟨x, hnum, hover⟩, hd⟩, And.right⟩
    · refine .returned ?_ w ?_ (Kept.refl h _)
      · rintro ⟨⟨y, hy, hlt⟩, -⟩
        rw [hnum] at hy
        cases hy
        exact hover hlt
      · rw [hgt, decide_eq_false hover]
        rfl

/-- Some metric is over its threshold while its alert is already there twice. -/
def Overloaded (E : Env) (w : World) (m : DeviceMetric) : Prop :=
  (Exceeds m.cpuPercent E.settings.alertCpuPercent.value ∧ Duplicated w .highCpu) ∨
  (Exceeds m.ramPercent E.settings.alertRamPercent.value ∧ Duplicated w .highRam) ∨
  (Exceeds m.diskPercent E.settings.alertDiskPercent.value ∧ Duplicated w .diskFull) ∨
  (Exceeds m.cpuTemp E.settings.alertCpuTempCelsius.value ∧ Duplicated w .highTemp)

/-- `evaluate_metrics` raises iff one of its four checks does. -/
theorem evaluateMetrics_judged (h : w.Settled) {m : DeviceMetric} (hcpu : Stored m.cpuPercent)
    (hram : Stored m.ramPercent) (hdisk : Stored m.diskPercent) (htemp : Stored m.cpuTemp) :
    Judged (Overloaded E w m) [.highCpu, .highRam, .diskFull, .highTemp] (evaluateMetrics E m) w := by
  rw [evaluateMetrics, Overloaded]
  -- the four alert types differ, so no check changes the verdict of a later one
  refine (checkThreshold_judged h hcpu _ _ _ _).bind [.highRam, .diskFull, .highTemp]
    fun w₁ hk₁ => ?_
  refine .congr ?_ (or_congr (and_congr_right fun _ => hk₁.duplicated_iff (by decide))
    (or_congr (and_congr_right fun _ => hk₁.duplicated_iff (by decide))
      (and_congr_right fun _ => hk₁.duplicated_iff (by decide))))
  refine (checkThreshold_judged hk₁.settled hram _ _ _ _).bind [.diskFull, .highTemp]
    fun w₂ hk₂ => ?_
  refine .congr ?_ (or_congr (and_congr_right fun _ => hk₂.duplicated_iff (by decide))
    (and_congr_right fun _ => hk₂.duplicated_iff (by decide)))
  refine (checkThreshold_judged hk₂.settled hdisk _ _ _ _).bind [.highTemp]
    fun w₃ hk₃ => ?_
  exact (checkThreshold_judged hk₃.settled htemp _ _ _ _).congr
    (and_congr_right fun _ => hk₃.duplicated_iff (by decide))

/-! ## `auto_resolve_alerts` -/

/-- A clause of `auto_resolve_alerts` returns for every value that the database has taken. -/
theorem autoResolve_run (h : w.Settled) {v : Json} (hv : Stored v) (d : Uuid) (bound : Rat)
    (ty : AlertType) (t : Nat) :
    ∃ w', autoResolve E d v bound ty t w = (.ok (), w') ∧ w'.Settled := by
  rw [autoResolve]
  split
  · exact ⟨w, rfl, h⟩
  · rename_i hsome
    obtain ⟨x, hx⟩ := hv.resolve_left hsome
    have hlt : v.lt bound = .ok (decide (x < bound)) := by
      rw [Json.lt, number_of_toFloat hx]
    rw [hlt, Act.ofExcept_ok_bind]
    split
    · rw [execute_settled h]
      exact ⟨_, rfl, h.pending, h.loaded⟩
    · exact ⟨w, rfl, h⟩

/-- On a payload whose metrics were stored, `auto_resolve_alerts` returns, and leaves nothing to flush. -/
theorem autoResolveAlerts_run (h : w.Settled) {fields : List (String × Json)} (d : Uuid)
    (hcpu : Stored ((fields.lookup "cpu_percent").getD .null))
    (hram : Stored ((fields.lookup "ram_percent").getD .null))
    (hdisk : Stored ((fields.lookup "disk_percent").getD .null)) :
    ∃ w', autoResolveAlerts E d (.obj fields) w = (.ok (), w') ∧ w'.Settled := by
  rw [autoResolveAlerts, now]
  simp only [Act.read_bind, Json.get, Act.ofExcept_ok_bind]
  obtain ⟨w₁, hrun₁, h₁⟩ := autoResolve_run (E := E) h hcpu d 80 .highCpu w.clock
  obtain ⟨w₂, hrun₂, h₂⟩ := autoResolve_run (E := E) h₁ hram d 85 .highRam w.clock
  obtain ⟨w₃, hrun₃, h₃⟩ := autoResolve_run (E := E) h₂ hdisk d 90 .highDisk w.clock
  rw [Act.bind_of_ok hrun₁, Act.ofExcept_ok_bind, Act.bind_of_ok hrun₂, Act.ofExcept_ok_bind]
  exact ⟨w₃, hrun₃, h₃⟩

end Server

end Dtsys
