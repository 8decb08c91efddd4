/-
  GOING OFFLINE AND COMING BACK: the writers of `devices.status` and `uptime_events` outside the
  handlers, each as the transaction it is.

  * `_schedule_offline` (`app/websocket/router.py`): the status, nothing else;
  * `_check_offline_devices_async` (`app/tasks/alert_tasks.py`): the status, an `offline` event and an
    alert for every stale device.  It is split where other transactions come between: the query
    (`findStale`), and the writes (`markStale`) for the devices it found THEN;
  * the connect sequence: status `online`, and an `online` event with the time since the newest
    `offline` event;
  * `set_device_maintenance` and `revoke_device` (`app/api/v1/devices.py`).

  `get_uptime_history` reads the events.
-/
import Dtsys.Server.Ghosts
import Dtsys.Server.Reconnect
import Dtsys.Server.Registry

namespace Dtsys

/-- An UPDATE of the devices. -/
def Db.mapDevices (f : Device → Device) (db : Db) : Db := { db with devices := db.devices.map f }

/-- `update(Device).where(Device.id == d).values(status=st)`. -/
def Db.setStatus (d : Uuid) (st : DeviceStatus) : Db → Db :=
  Db.mapDevices fun r => if r.id = d then { r with status := st } else r

/-- The events of a device, in the order of the table. -/
def Db.eventsOf (d : Uuid) (db : Db) : List UptimeEvent :=
  db.uptimeEvents.filter fun e => e.deviceId == d

namespace Server

open Act

variable (E : Env)

/-! ## The delayed task -/

/-- The transaction of `_schedule_offline`; what comes before it is `Dtsys.System.PendingOffline`. -/
def scheduleOffline (d : Uuid) : Server Unit := do
  execute E (Db.setStatus d .offline)
  commit E

/-! ## The periodic task -/

/-- `status == "online"`, `last_seen < threshold`, `~is_revoked`, `~maintenance_mode`; a `NULL` in
    `last_seen` compares to nothing. -/
def staleDevice (t : Nat) (r : Device) : Bool :=
  r.status == .online &&
    (match r.lastSeen with
      | some s => decide (s + E.settings.deviceOfflineThresholdSeconds * second < t)
      | none => false) &&
    !r.isRevoked && !r.maintenanceMode

/-- A pass between its query and its writes: when its transaction began, and the rows it found. -/
structure OfflinePass where
  began : Nat
  stale : List Device

/-- The query. -/
def findStale : Server OfflinePass := do
  let t ← now
  let stale ← select E fun db => db.devices.filter (staleDevice E t)
  pure ⟨t, stale⟩

/-- The alert of a pass. -/
def offlineAlert (id : Uuid) (began : Nat) (x : Device) : Alert where
  id := id
  deviceId := x.id
  alertType := .offline
  severity := .warning
  message := "Device " ++ x.hostname ++ " has not reported since " ++
    (match x.lastSeen with
      | some s => E.strTime s
      | none => "None")
  isResolved := false
  createdAt := began
  resolvedAt := none

/-- The body of the loop.  The instance was loaded as `online`, so the UPDATE is always emitted; it
    goes out with the autoflush of the lookup. -/
def markOffline (began : Nat) (x : Device) : Server Unit := do
  execute E (Db.setStatus x.id .offline)
  let id ← newId E
  add (.uptime ⟨id, x.id, .offline, began, none⟩)
  let rows ← select E fun db => db.alerts.filter (unresolved x.id .offline)
  let existing ← scalarOneOrNone rows
  match existing with
  | some _ => pure ()
  | none => do
    let id ← newId E
    add (.alert (offlineAlert E id began x))

/-- The writes. -/
def markStale (p : OfflinePass) : Server Unit := do
  Act.forEach p.stale (markOffline E p.began)
  commit E

/-- `_check_offline_devices_async`. -/
def checkOfflineDevices : Server Unit := do
  let p ← findStale E
  markStale E p

/-! ## Requests -/

/-- The body of a maintenance request. -/
structure MaintenanceRequest where
  enabled : Bool
  untilTime : Option Nat
  reason : Option String

/-- What a maintenance request makes of the row. -/
def MaintenanceRequest.apply (body : MaintenanceRequest) (r : Device) : Device :=
  { r with
    maintenanceMode := body.enabled
    maintenanceUntil := if body.enabled then body.untilTime else none
    maintenanceReason := if body.enabled then body.reason else none }

/-- POST `/devices/{id}/maintenance`. -/
def setDeviceMaintenance (org d : Uuid) (body : MaintenanceRequest) : Server Unit := do
  let device ← getDeviceForOrg E d org
  executeWith E [(nullable (.string 500), (body.reason.map Json.str).getD .null)]
    (Db.mapDevices fun r => if r.id = device.id then body.apply r else r)
  commit E

/-- DELETE `/devices/{id}`. -/
def revokeDeviceRequest (user : User) (org d : Uuid) : Server Unit := do
  revokeDevice E d (some org)
  logAction E user "device_revoked" "device" d.str .null
  commit E

/-! ## The history -/

/-- `total_downtime_secs` of `get_uptime_history` at time `t`: the durations of the `online` events
    of the period. -/
def totalDowntimeSecs (d : Uuid) (days t : Nat) (db : Db) : Nat :=
  let since := t - days * 86400 * second
  let events := (db.eventsOf d).filter fun e => decide (since ≤ e.timestamp)
  ((events.filter fun e => e.eventType == .online).map fun e => e.durationSecs.getD 0).sum

/-- `outage_count`. -/
def outageCount (d : Uuid) (days t : Nat) (db : Db) : Nat :=
  let since := t - days * 86400 * second
  let events := (db.eventsOf d).filter fun e => decide (since ≤ e.timestamp)
  (events.filter fun e => e.eventType == .offline).length

/-! ## What each of them commits -/

variable {E} {w : World}

theorem settled_withDb (h : w.Settled) (db : Db) : ({ w with db := db } : World).Settled :=
  ⟨h.pending, h.loaded⟩

/-- The task marks the device of its row. -/
theorem scheduleOffline_committed (h : w.Settled) (d : Uuid) :
    (scheduleOffline E d w).2.committed = w.db.setStatus d .offline := by
  have hcommit := commit_settled E (settled_withDb h (w.db.setStatus d .offline))
  rw [scheduleOffline, Act.bind_of_ok (execute_settled h _)]
  exact congrArg (fun r => r.2.committed) hcommit

/-- A pass selects what is stale. -/
theorem findStale_run (h : w.Settled) :
    findStale E w = (.ok ⟨w.clock, w.db.devices.filter (staleDevice E w.clock)⟩, w) := by
  rw [findStale, now, Act.read_bind, Act.bind_of_ok (select_settled h _)]
  rfl

/-! ### A pass -/

/-- A session without changes to its instance, whose new rows the driver takes. -/
structure Flushable (E : Env) (w : World) : Prop where
  loaded : w.loaded = w.device
  rows : ∀ r ∈ w.pending, E.driver.acceptsRow r = true

/-- Where nothing is pending, nothing can be refused. -/
theorem flushable_of_settled (h : w.Settled) : Flushable E w :=
  ⟨h.loaded, fun r hr => by rw [h.pending] at hr; cases hr⟩

theorem Flushable.accepted (h : Flushable E w) : flushAccepted E w = true := by
  have hrows : w.pending.all E.driver.acceptsRow = true := List.all_eq_true.mpr h.rows
  rw [flushAccepted, deviceAccepted, hrows, h.loaded]
  simp

/-- What the session sees, before it is flushed. -/
theorem Flushable.view_eq (h : Flushable E w) : w.view = w.db.insertAll w.pending := by
  have hsync : World.syncDevice w.device w.device = id :=
    funext fun row => World.syncDevice_self _ row
  rw [World.view, h.loaded, hsync, List.map_id]

/-- The session after the flush. -/
def flushed (w : World) : World :=
  { w with db := w.view, pending := [], loaded := w.device }

theorem flushed_settled (w : World) : (flushed w).Settled := ⟨rfl, rfl⟩

theorem Flushable.flush (h : Flushable E w) : Server.flush E w = (.ok (), flushed w) :=
  flush_accepted E h.accepted

theorem Flushable.execute (h : Flushable E w) (f : Db → Db) :
    Server.execute E f w = (.ok (), { flushed w with db := f w.view }) := by
  rw [Server.execute, Act.bind_of_ok h.flush]
  rfl

theorem Flushable.select {α : Type} (h : Flushable E w) (f : Db → α) :
    Server.select E f w = (.ok (f w.view), flushed w) := by
  rw [Server.select, Act.bind_of_ok h.flush]
  rfl

/-- What a pass has done to the database when it is through with the devices `xs`. -/
structure Passed (began : Nat) (xs : List Device) (db db' : Db) : Prop where
  devices : db'.devices = db.devices.map fun r =>
    if r.id ∈ xs.map Device.id then { r with status := .offline } else r
  uptime : ∃ new, db'.uptimeEvents = db.uptimeEvents ++ new ∧
    new.map UptimeEvent.deviceId = xs.map Device.id ∧
    ∀ e ∈ new, e.eventType = .offline ∧ e.timestamp = began ∧ e.durationSecs = none
  alerts : ∃ new, db'.alerts = db.alerts ++ new
  raised : ∀ x ∈ xs, ∃ a ∈ db'.alerts, unresolved x.id .offline a = true

theorem Passed.nil (began : Nat) (db : Db) : Passed began [] db db where
  devices := by simp
  uptime := ⟨[], by simp⟩
  alerts := ⟨[], by simp⟩
  raised x hx := by cases hx

theorem Passed.cons {began : Nat} {x : Device} {xs : List Device} {a b c : Db}
    (h : Passed began [x] a b) (h' : Passed began xs b c) : Passed began (x :: xs) a c where
  devices := by
    rw [h'.devices, h.devices, List.map_map]
    refine List.map_congr_left fun r _ => ?_
    by_cases hx : r.id = x.id
    · simp [hx]
    · simp [hx]
  uptime := by
    obtain ⟨new, hnew, hdev, hrow⟩ := h.uptime
    obtain ⟨new', hnew', hdev', hrow'⟩ := h'.uptime
    refine ⟨new ++ new', by rw [hnew', hnew, List.append_assoc], ?_, ?_⟩
    · rw [List.map_append, hdev, hdev']
      rfl
    · intro e he
      rcases List.mem_append.mp he with he | he
      · exact hrow e he
      · exact hrow' e he
  alerts := by
    obtain ⟨new, hnew⟩ := h.alerts
    obtain ⟨new', hnew'⟩ := h'.alerts
    exact ⟨new ++ new', by rw [hnew', hnew, List.append_assoc]⟩
  raised y hy := by
    rcases List.mem_cons.mp hy with rfl | hy
    · obtain ⟨al, hal, hun⟩ := h.raised y List.mem_cons_self
      obtain ⟨new', hnew'⟩ := h'.alerts
      exact ⟨al, by rw [hnew']; exact List.mem_append_left _ hal, hun⟩
    · exact h'.raised y hy

/-- The state in which the body of the loop looks the alert up. -/
def marking (E : Env) (began : Nat) (x : Device) (w : World) : World :=
  { flushed w with
    db := w.view.setStatus x.id .offline
    drawn := w.drawn + 1
    pending := [.uptime ⟨E.uuid4 w.drawn, x.id, .offline, began, none⟩] }

/-- What is added for a device can be flushed. -/
theorem marking_flushable (began : Nat) (x : Device) (w : World) :
    Flushable E (marking E began x w) := by
  refine ⟨rfl, fun r hr => ?_⟩
  have hr' : r ∈ [Row.uptime ⟨E.uuid4 w.drawn, x.id, .offline, began, none⟩] := hr
  rw [List.mem_singleton] at hr'
  subst hr'
  rfl

/-- With the event written, the pass is through with `x` as soon as an offline alert of it is open. -/
theorem marking_passed (began : Nat) (x : Device) (w : World) {db : Db} {new : List Alert}
    (hdevices : db.devices = (marking E began x w).view.devices)
    (huptime : db.uptimeEvents = (marking E began x w).view.uptimeEvents)
    (halerts : db.alerts = w.view.alerts ++ new)
    (hopen : ∃ a ∈ db.alerts, unresolved x.id .offline a = true) :
    Passed began [x] w.view db := by
  have hview := (marking_flushable (E := E) began x w).view_eq
  refine ⟨?_, ⟨[⟨E.uuid4 w.drawn, x.id, .offline, began, none⟩], ?_, rfl, ?_⟩, ⟨new, halerts⟩, ?_⟩
  · rw [hdevices, hview]
    show w.view.devices.map _ = _
    simp
  · rw [huptime, hview]
    rfl
  · intro e he
    rw [List.mem_singleton] at he
    subst he
    exact ⟨rfl, rfl, rfl⟩
  · intro y hy
    rw [List.mem_singleton] at hy
    subst hy
    exact hopen

/-- The body of the loop raises, or it is through with `x`. -/
theorem markOffline_run (h : Flushable E w) (began : Nat) (x : Device) :
    (∃ e w', markOffline E began x w = (.error e, w') ∧ w'.committed = w.committed) ∨
      ∃ w', markOffline E began x w = (.ok (), w') ∧ Flushable E w' ∧
        Passed began [x] w.view w'.view ∧ w'.committed = w.committed := by
  have hm := marking_flushable (E := E) began x w
  have hview := hm.view_eq
  have halerts : (marking E began x w).view.alerts = w.view.alerts := by
    rw [hview]
    rfl
  have hrun : markOffline E began x w = (do
      let rows ← select E fun db => db.alerts.filter (unresolved x.id .offline)
      let existing ← scalarOneOrNone rows
      match existing with
      | some _ => pure ()
      | none => do
        let id ← newId E
        add (.alert (offlineAlert E id began x)) : Server Unit) (marking E began x w) := by
    rw [markOffline, Act.bind_of_ok (h.execute _)]
    rfl
  rw [hrun, Act.bind_of_ok (hm.select _), halerts]
  rcases hopen : w.view.alerts.filter (unresolved x.id .offline) with _ | ⟨a, _ | ⟨b, rest⟩⟩
  · -- no open alert: one is added
    let al := offlineAlert E (E.uuid4 (marking E began x w).drawn) began x
    let w' : World := { flushed (marking E began x w) with
      drawn := (marking E began x w).drawn + 1, pending := [.alert al] }
    have hw' : Flushable E w' := by
      refine ⟨rfl, fun r hr => ?_⟩
      have hr' : r ∈ [Row.alert al] := hr
      rw [List.mem_singleton] at hr'
      subst hr'
      rfl
    have hview' : w'.view = (marking E began x w).view.insert (.alert al) := hw'.view_eq
    have halerts' : w'.view.alerts = w.view.alerts ++ [al] := by
      rw [hview', ← halerts]
      rfl
    refine .inr ⟨w', rfl, hw', marking_passed (E := E) began x w ?_ ?_ halerts' ⟨al, ?_, ?_⟩,
      rfl⟩
    · rw [hview']
      rfl
    · rw [hview']
      rfl
    · rw [halerts']
      exact List.mem_append_right _ (List.mem_singleton.mpr rfl)
    · simp [al, unresolved, offlineAlert]
  · have ha : a ∈ w.view.alerts.filter (unresolved x.id .offline) := by
      rw [hopen]
      exact List.mem_singleton.mpr rfl
    obtain ⟨hmem, hun⟩ := List.mem_filter.mp ha
    have hview' : (flushed (marking E began x w)).view = (marking E began x w).view :=
      (flushed_settled _).view_eq
    refine .inr ⟨flushed (marking E began x w), rfl, flushable_of_settled (flushed_settled _), ?_, rfl⟩
    rw [hview']
    have hsame : (marking E began x w).view.alerts = w.view.alerts ++ [] := by
      rw [halerts, List.append_nil]
    exact marking_passed began x w rfl rfl hsame ⟨a, by rw [halerts]; exact hmem, hun⟩
  · exact .inl ⟨_, _, rfl, rfl⟩

/-- **The loop of a pass**: it raises, and nothing is committed; or it has marked the devices. -/
theorem markAll_run (began : Nat) : ∀ (xs : List Device) (w : World), Flushable E w →
    (∃ e w', Act.forEach xs (markOffline E began) w = (.error e, w') ∧ w'.committed = w.committed) ∨
      ∃ w', Act.forEach xs (markOffline E began) w = (.ok (), w') ∧ Flushable E w' ∧
        Passed began xs w.view w'.view := by
  intro xs
  induction xs with
  | nil => exact fun w h => .inr ⟨w, rfl, h, .nil began _⟩
  | cons x xs ih =>
    intro w h
    rw [Act.forEach_cons]
    rcases markOffline_run h began x with ⟨e, w₁, hrun, hcom⟩ | ⟨w₁, hrun, hf₁, hp₁, hcom₁⟩
    · exact .inl ⟨e, w₁, Act.bind_of_error hrun, hcom⟩
    · rw [Act.bind_of_ok hrun]
      rcases ih w₁ hf₁ with ⟨e, w₂, hrest, hcom₂⟩ | ⟨w₂, hrest, hf₂, hp₂⟩
      · exact .inl ⟨e, w₂, hrest, hcom₂.trans hcom₁⟩
      · exact .inr ⟨w₂, hrest, hf₂, hp₁.cons hp₂⟩

/-- **What a pass commits**: nothing, if the lookup of an alert raises, or all its devices. -/
theorem markStale_committed (h : w.Settled) (p : OfflinePass) :
    (markStale E p w).2.committed = w.committed ∨
      Passed p.began p.stale w.db (markStale E p w).2.committed := by
  rw [markStale]
  rcases markAll_run p.began p.stale w (flushable_of_settled h) with
    ⟨e, w', hrun, hcom⟩ | ⟨w', hrun, hf, hp⟩
  · left
    rw [Act.bind_of_error hrun]
    exact hcom
  · right
    rw [Act.bind_of_ok hrun, commit_accepted E hf.accepted]
    rw [h.view_eq] at hp
    exact hp

/-- In a list without two rows of one key, the rows of a key are one or none. -/
theorem filter_key {α κ : Type} [DecidableEq κ] (key : α → κ) (k : κ) : ∀ l : List α,
    (l.map key).Nodup →
      (k ∉ l.map key ∧ l.filter (fun a => key a == k) = []) ∨
        ∃ a ∈ l, key a = k ∧ l.filter (fun a => key a == k) = [a] := by
  intro l
  induction l with
  | nil => exact fun _ => .inl ⟨List.not_mem_nil, rfl⟩
  | cons a l ih =>
    intro hnodup
    obtain ⟨hfresh, hrest⟩ := List.nodup_cons.mp hnodup
    by_cases ha : key a = k
    · right
      refine ⟨a, List.mem_cons_self, ha, ?_⟩
      rw [List.filter_cons, if_pos (by simp [ha])]
      rcases ih hrest with ⟨-, hnone⟩ | ⟨b, hb, hkey, -⟩
      · rw [hnone]
      · exact absurd (List.mem_map.mpr ⟨b, hb, hkey.trans ha.symm⟩) hfresh
    · rw [List.filter_cons, if_neg (by simp [ha])]
      rcases ih hrest with ⟨hout, hnone⟩ | ⟨b, hb, hkey, hone⟩
      · refine .inl ⟨fun hin => ?_, hnone⟩
        rcases List.mem_cons.mp hin with hin | hin
        · exact ha hin.symm
        · exact hout hin
      · exact .inr ⟨b, List.mem_cons_of_mem _ hb, hkey, hone⟩

/-- A pass over different devices adds one event to each of them, and none to any other. -/
theorem Passed.eventsOf {began : Nat} {xs : List Device} {a b : Db} (h : Passed began xs a b)
    (hkeys : (xs.map Device.id).Nodup) (d : Uuid) :
    (d ∉ xs.map Device.id ∧ b.eventsOf d = a.eventsOf d) ∨
      (d ∈ xs.map Device.id ∧ ∃ e : UptimeEvent, b.eventsOf d = a.eventsOf d ++ [e] ∧
        e.eventType = .offline ∧ e.timestamp = began ∧ e.durationSecs = none) := by
  obtain ⟨new, hnew, hdev, hrow⟩ := h.uptime
  have happend : b.eventsOf d = a.eventsOf d ++ new.filter fun e => e.deviceId == d := by
    unfold Db.eventsOf
    rw [hnew, List.filter_append]
  rw [← hdev] at hkeys ⊢
  rcases filter_key UptimeEvent.deviceId d new hkeys with ⟨hout, hnone⟩ | ⟨e, he, hkey, hone⟩
  · rw [happend, hnone, List.append_nil]
    exact .inl ⟨hout, rfl⟩
  · rw [happend, hone]
    exact .inr ⟨List.mem_map.mpr ⟨e, he, hkey⟩, e, rfl, hrow e he⟩

/-! ### Requests -/

/-- What a maintenance request commits: nothing, or the mode, for a device of the organization that is
    not revoked. -/
theorem setDeviceMaintenance_run (hc : w.Clean) (org d : Uuid) (body : MaintenanceRequest) :
    (∃ e w', getDb E (setDeviceMaintenance E org d body) w = (.error e, w') ∧
        w'.committed = w.committed) ∨
      ((∃ r ∈ w.committed.devices, r.id = d ∧ r.isRevoked = false) ∧
        ∃ w', getDb E (setDeviceMaintenance E org d body) w = (.ok (), w') ∧
          w'.committed = w.committed.mapDevices fun r =>
            if r.id = d then body.apply r else r) := by
  have hlook : getDeviceForOrg E d org w = _ :=
    Act.bind_of_ok (select_settled (E := E) hc.toSettled _)
  have hfail : ∀ {e}, setDeviceMaintenance E org d body w = (.error e, w) →
      ∃ e w', getDb E (setDeviceMaintenance E org d body) w = (.error e, w') ∧
        w'.committed = w.committed :=
    fun hrun => ⟨_, _, getDb_of_error E hrun, rfl⟩
  -- scalar_one_or_none: no row is a 404, one row is updated, two raise.
  rcases hrows : w.db.devices.filter
    (fun r => r.id == d && r.orgId == some org && !r.isRevoked) with _ | ⟨r, _ | ⟨r', rest⟩⟩
  · rw [hrows] at hlook
    exact .inl (hfail (Act.bind_of_error hlook))
  · rw [hrows] at hlook
    have hr : r ∈ w.db.devices ∧ (r.id == d && r.orgId == some org && !r.isRevoked) = true :=
      List.mem_filter.mp (by rw [hrows]; exact List.mem_singleton.mpr rfl)
    have hid : r.id = d ∧ r.isRevoked = false := by
      have hcond := hr.2
      simp only [Bool.and_eq_true, beq_iff_eq, Bool.not_eq_true'] at hcond
      exact ⟨hcond.1.1, hcond.2⟩
    let db : Db := w.db.mapDevices fun x => if x.id = r.id then body.apply x else x
    have hset := settled_withDb hc.toSettled db
    have hexec := executeWith_settled (E := E) hc.toSettled
      [(nullable (.string 500), (body.reason.map Json.str).getD .null)]
      (Db.mapDevices fun x => if x.id = r.id then body.apply x else x)
    split at hexec
    · have hrun : setDeviceMaintenance E org d body w = (.ok (), { w with db := db, committed := db }) :=
        (Act.bind_of_ok hlook).trans ((Act.bind_of_ok hexec).trans (commit_settled E hset))
      refine .inr ⟨⟨r, by rw [← hc.db]; exact hr.1, hid⟩, _,
        getDb_of_settled E hrun ⟨hc.pending, hc.loaded⟩, ?_⟩
      show db = _
      rw [← hc.db, ← hid.1]
    · exact .inl (hfail ((Act.bind_of_ok hlook).trans (Act.bind_of_error hexec)))
  · rw [hrows] at hlook
    exact .inl (hfail (Act.bind_of_error hlook))

theorem getDevice_run (h : w.Settled) (d : Uuid) (org : Option Uuid) :
    (∃ r ∈ w.db.devices, r.id = d ∧ getDevice E d org w = (.ok r, w)) ∨
      ∃ e, getDevice E d org w = (.error e, w) := by
  have hlook : getDevice E d org w = _ := Act.bind_of_ok (select_settled (E := E) h _)
  rcases hrows : w.db.devices.filter
    (fun r => r.id == d && org.all fun o => r.orgId == some o) with _ | ⟨r, _ | ⟨r', rest⟩⟩
  · rw [hrows] at hlook
    exact .inr ⟨_, hlook⟩
  · rw [hrows] at hlook
    have hr : r ∈ w.db.devices ∧ (r.id == d && org.all fun o => r.orgId == some o) = true :=
      List.mem_filter.mp (by rw [hrows]; exact List.mem_singleton.mpr rfl)
    have hid : r.id = d := by
      have hcond := hr.2
      rw [Bool.and_eq_true, beq_iff_eq] at hcond
      exact hcond.1
    exact .inl ⟨r, hr.1, hid, hlook⟩
  · rw [hrows] at hlook
    exact .inr ⟨_, hlook⟩

/-- What a revocation commits: nothing, or the revoked row and an audit entry. -/
theorem revokeDeviceRequest_run (hc : w.Clean) (user : User) (org d : Uuid) :
    (∃ e w', getDb E (revokeDeviceRequest E user org d) w = (.error e, w') ∧
        w'.committed = w.committed) ∨
      ((∃ r ∈ w.committed.devices, r.id = d) ∧
        ∃ w' audit, getDb E (revokeDeviceRequest E user org d) w = (.ok (), w') ∧
          w'.committed = { revokeIn d w.committed with auditLog := audit }) := by
  rcases getDevice_run (E := E) hc.toSettled d (some org) with ⟨r, hr, hid, hget⟩ | ⟨e, hget⟩
  · have hset := settled_withDb hc.toSettled (revokeIn d w.db)
    have hrev : revokeDevice E d (some org) w = (.ok (), { w with db := revokeIn d w.db }) := by
      refine (Act.bind_of_ok hget).trans ?_
      rw [hid]
      exact execute_settled hc.toSettled _
    let entry : AuditLog := ⟨E.uuid4 w.drawn, w.clock, user.id, user.username, "device_revoked",
      "device", d.str, .null⟩
    let w₁ : World := { w with drawn := w.drawn + 1, db := (revokeIn d w.db).insert (.audit entry) }
    have hlog : logAction E user "device_revoked" "device" d.str .null
        { w with db := revokeIn d w.db } = (.ok (), w₁) := flush_add hset rfl _
    have hset₁ : w₁.Settled := ⟨hc.pending, hc.loaded⟩
    have hrun : revokeDeviceRequest E user org d w = (.ok (), { w₁ with committed := w₁.db }) :=
      (Act.bind_of_ok hrev).trans ((Act.bind_of_ok hlog).trans (commit_settled E hset₁))
    refine .inr ⟨⟨r, by rw [← hc.db]; exact hr, hid⟩, _, w₁.db.auditLog,
      getDb_of_settled E hrun ⟨hc.pending, hc.loaded⟩, ?_⟩
    rw [← hc.db]
    rfl
  · have hrun : revokeDeviceRequest E user org d w = (.error e, w) :=
      Act.bind_of_error (Act.bind_of_error hget)
    exact .inl ⟨e, _, getDb_of_error E hrun, rfl⟩

/-! ### Connecting -/

/-- The `online` event of a connection whose transaction began at `began`, at time `t`. -/
def onlineEvent (id d : Uuid) (began t : Nat) (db : Db) : UptimeEvent :=
  ⟨id, d, .online, began, (lastOffline d db).map fun o => (t - o) / second⟩

/-- The row of a device that has just connected. -/
def connectedRow (d : Uuid) (t : Nat) (r : Device) : Device :=
  if r.id = d then { r with status := .online, lastSeen := some t } else r

/-- A device that connects is online. -/
theorem goOnline_committed (h : w.Settled) (d : Uuid) (ws : Socket) (ip : String) (began : Nat) :
    ∃ w', goOnline E d ws ip began w = (.ok (), w') ∧ w'.Clean ∧
      w'.device = { w.device with status := .online, lastSeen := some w.clock } ∧
      w'.committed = { w.db with
        devices := w.db.devices.map (connectedRow d w.clock)
        uptimeEvents := w.db.uptimeEvents ++ [onlineEvent (E.uuid4 w.drawn) d began w.clock w.db] } := by
  let online := fun r : Device => { r with status := .online, lastSeen := some w.clock }
  let w₁ : World := { w with
    manager := (w.manager.closeOld d).register d ws ⟨w.clock, ip⟩
    db := { w.db with devices := w.db.devices.map (connectedRow d w.clock) }
    device := online w.device
    loaded := online w.loaded }
  have hset : w₁.Settled := ⟨h.pending, by rw [show w₁.loaded = online w.loaded from rfl, h.loaded]⟩
  have hmark : markOnline E d w.clock
      { w with manager := (w.manager.closeOld d).register d ws ⟨w.clock, ip⟩ } = (.ok (), w₁) :=
    Act.bind_of_ok (execute_settled (by exact ⟨h.pending, h.loaded⟩) _)
  let row : Row := .uptime (onlineEvent (E.uuid4 w.drawn) d began w.clock w.db)
  have hacc : flushAccepted E { w₁ with drawn := w.drawn + 1, pending := w₁.pending ++ [row] } = true :=
    flushAccepted_add hset row _
  have hrun : goOnline E d ws ip began w =
      commit E { w₁ with drawn := w.drawn + 1, pending := w₁.pending ++ [row] } := by
    rw [goOnline, managerConnect, now]
    simp only [Act.modify_bind, Act.read_bind]
    rw [Act.bind_of_ok hmark, Act.bind_of_ok (select_settled hset _)]
    rfl
  refine ⟨_, hrun.trans (commit_accepted E hacc), ⟨⟨rfl, rfl⟩, rfl⟩, rfl, ?_⟩
  show World.view _ = _
  rw [view_add hset]
  rfl

/-- **What a connection commits**: the row and the event. -/
theorem connectSince_committed (h : w.Settled) (d : Uuid) (ws : Socket) (ip : String)
    (began : Nat) :
    (connectSince E d ws ip began w).2.committed = { w.db with
      devices := w.db.devices.map (connectedRow d w.clock)
      uptimeEvents := w.db.uptimeEvents ++ [onlineEvent (E.uuid4 w.drawn) d began w.clock w.db] } := by
  obtain ⟨w₁, hrun₁, hclean, -, hcom⟩ := goOnline_committed (E := E) h d ws ip began
  obtain ⟨w₂, cfg, hrun₂, -, -, -, hcom₂, -, hset₂⟩ :=
    sendConfig_run (E := E) (d := d) hclean.toSettled
  obtain ⟨w₃, hrun₃, -, -, hcom₃, -⟩ :=
    resend_run (d := d) (w₂.db.commands.filter (resendable d w₂.clock)) w₂
  have hresend : resendSent E d w₂ = (.ok (), w₃) := by
    rw [resendSent, now, Act.read_bind, Act.bind_of_ok (select_settled hset₂ _)]
    exact hrun₃
  have hrun : connectSince E d ws ip began w = (.ok (), w₃) :=
    (Act.bind_of_ok hrun₁).trans ((Act.bind_of_ok hrun₂).trans hresend)
  rw [hrun]
  show w₃.committed = _
  rw [hcom₃, hcom₂, hcom]

/-- The frame: the instance stays as it is. -/
def sameInstance : Frame World where
  rel w w' := w'.device = w.device
  refl _ := rfl
  trans hst htu := htu.trans hst

theorem sameInstance_flush : Within sameInstance (flush E) := by
  intro w
  rw [flush]
  split
  · rfl
  · rfl

/-- The frame of what is handed over at the end of the connect sequence. -/
def handing : Frame World where
  rel w w' := w.Clean → w'.Clean ∧ w'.db = w.db ∧ w'.device = w.device
  refl _ := fun h => ⟨h, rfl, rfl⟩
  trans hst htu := fun h =>
    have ht := hst h
    have hu := htu ht.1
    ⟨hu.1, hu.2.1.trans ht.2.1, hu.2.2.trans ht.2.2⟩

theorem handing_select {α : Type} (f : Db → α) : Within handing (select E f) := fun w h => by
  rw [select_settled h.toSettled]
  exact ⟨h, rfl, rfl⟩

theorem handing_send (d : Uuid) (msg : ServerMessage) : Within handing (sendToDevice d msg) := by
  intro w h
  rw [sendToDevice]
  dsimp only
  split
  · exact ⟨⟨⟨h.pending, h.loaded⟩, h.db⟩, rfl, rfl⟩
  · split
    · exact ⟨⟨⟨h.pending, h.loaded⟩, h.db⟩, rfl, rfl⟩
    · exact ⟨⟨⟨h.pending, h.loaded⟩, h.db⟩, rfl, rfl⟩

/-- Handing over the configuration and the commands. -/
theorem handing_sends (d : Uuid) :
    Within handing (sendConfig E d >>= fun _ => resendSent E d) := by
  refine Within.bind (Within.bind (handing_select _) fun row => ?_) fun _ => ?_
  · split
    · exact Within.pure _
    · exact Within.bind (handing_send d _) fun _ => Within.pure _
  · refine Within.bind (Within.read _) fun t => Within.bind (handing_select _) fun cmds => ?_
    exact Within.forEach (fun c => Within.bind (handing_send d _) fun _ => Within.pure _) cmds

/-- The instance of a connection begins `online`. -/
theorem connectSince_online (h : w.Settled) (d : Uuid) (ws : Socket) (ip : String) (began : Nat) :
    (connectSince E d ws ip began w).2.device.status = .online := by
  obtain ⟨w₁, hrun₁, hclean, honline, -⟩ := goOnline_committed (E := E) h d ws ip began
  have hrest : ((sendConfig E d >>= fun _ => resendSent E d) w₁).2.device = w₁.device :=
    (handing_sends d w₁ hclean).2.2
  have hrun : connectSince E d ws ip began w = (sendConfig E d >>= fun _ => resendSent E d) w₁ :=
    Act.bind_of_ok hrun₁
  rw [hrun, hrest, honline]

end Server

end Dtsys
