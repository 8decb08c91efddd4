/-
  THE INSTANCE OF A CONNECTION GOES STALE: two laws about messages, and when they hold.

  An endpoint loads its device at the handshake and keeps the instance.  Nothing refreshes it:

  * `follows_requests` — messages follow the committed row (no alerts in maintenance, alerts again
    after it, no writes once revoked), as long as the instance has the row's maintenance mode and a
    revoked device sends nothing that is written;
  * `reports_shown` — a committed report leaves its device up, as long as the row is not `offline`
    behind an instance that is `online`.

  The requests are remembered in the state (`Hub.maintenance`, `Hub.revoked`); that the rows agree
  with them (`Answered`) is an invariant of every run.
-/
import Dtsys.Server.Raising
import Dtsys.Server.Reporting
import Dtsys.System.Hub

namespace Dtsys

open Server

namespace Hub

variable {E : Env} {s t : Hub}

/-! ## The rows agree with the requests -/

/-- What a request has answered is in the database. -/
structure Answered (s : Hub) : Prop where
  maintenance : ∀ d b, s.maintenance d = some b →
    (∃ r ∈ s.db.devices, r.id = d) ∧ ∀ r ∈ s.db.devices, r.id = d → r.maintenanceMode = b
  revoked : ∀ d, s.revoked d = true →
    (∃ r ∈ s.db.devices, r.id = d) ∧ ∀ r ∈ s.db.devices, r.id = d → r.isRevoked = true

theorem answered_start (w : World) : Answered (start w) :=
  ⟨fun _ _ h => (nomatch h), fun _ h => nomatch h⟩

theorem mem_of_standing {xs ys : List Device} (h : ys.map standing = xs.map standing) {r : Device}
    (hr : r ∈ ys) : ∃ r' ∈ xs, standing r' = standing r := by
  have hin : standing r ∈ xs.map standing := by
    rw [← h]
    exact List.mem_map_of_mem hr
  exact List.mem_map.mp hin

/-- The agreement is about the standing of the rows only. -/
theorem Answered.of_standing (ha : Answered s) (hm : t.maintenance = s.maintenance)
    (hv : t.revoked = s.revoked) (hst : t.db.devices.map standing = s.db.devices.map standing) :
    Answered t := by
  have hback : ∀ r ∈ t.db.devices, ∃ r' ∈ s.db.devices, r'.id = r.id ∧
      r'.maintenanceMode = r.maintenanceMode ∧ r'.isRevoked = r.isRevoked := by
    intro r hr
    obtain ⟨r', hr', heq⟩ := mem_of_standing hst hr
    simp only [standing, Prod.mk.injEq] at heq
    exact ⟨r', hr', heq.1, heq.2.1, heq.2.2⟩
  have hforth : ∀ d, (∃ r ∈ s.db.devices, r.id = d) → ∃ r ∈ t.db.devices, r.id = d := by
    rintro d ⟨r, hr, hid⟩
    obtain ⟨r', hr', heq⟩ := mem_of_standing hst.symm hr
    exact ⟨r', hr', (congrArg Prod.fst heq).trans hid⟩
  constructor
  · intro d b hreq
    rw [hm] at hreq
    obtain ⟨hrow, hall⟩ := ha.maintenance d b hreq
    refine ⟨hforth d hrow, fun r hr hid => ?_⟩
    obtain ⟨r', hr', hid', hmode, -⟩ := hback r hr
    exact hmode.symm.trans (hall r' hr' (hid'.trans hid))
  · intro d hreq
    rw [hv] at hreq
    obtain ⟨hrow, hall⟩ := ha.revoked d hreq
    refine ⟨hforth d hrow, fun r hr hid => ?_⟩
    obtain ⟨r', hr', hid', -, hrev⟩ := hback r hr
    exact hrev.symm.trans (hall r' hr' (hid'.trans hid))

/-- It is enough to look at the rows before an UPDATE. -/
theorem answered_of_map {f : Device → Device} (hdb : t.db.devices = s.db.devices.map f)
    (hid : ∀ r, (f r).id = r.id)
    (hm : ∀ d b, t.maintenance d = some b → (∃ r ∈ s.db.devices, r.id = d) ∧
      ∀ r ∈ s.db.devices, r.id = d → (f r).maintenanceMode = b)
    (hv : ∀ d, t.revoked d = true → (∃ r ∈ s.db.devices, r.id = d) ∧
      ∀ r ∈ s.db.devices, r.id = d → (f r).isRevoked = true) : Answered t := by
  have hrow : ∀ d, (∃ r ∈ s.db.devices, r.id = d) → ∃ r ∈ t.db.devices, r.id = d := by
    rintro d ⟨r, hr, hd⟩
    refine ⟨f r, ?_, (hid r).trans hd⟩
    rw [hdb]
    exact List.mem_map_of_mem hr
  have hback : ∀ r ∈ t.db.devices, ∃ r' ∈ s.db.devices, f r' = r := by
    intro r hr
    rw [hdb] at hr
    exact List.mem_map.mp hr
  constructor
  · intro d b hreq
    obtain ⟨hex, hall⟩ := hm d b hreq
    refine ⟨hrow d hex, fun r hr hd => ?_⟩
    obtain ⟨r', hr', rfl⟩ := hback r hr
    exact hall r' hr' ((hid r').symm.trans hd)
  · intro d hreq
    obtain ⟨hex, hall⟩ := hv d hreq
    refine ⟨hrow d hex, fun r hr hd => ?_⟩
    obtain ⟨r', hr', rfl⟩ := hback r hr
    exact hall r' hr' ((hid r').symm.trans hd)

/-- A maintenance request that went through. -/
theorem Answered.maintain (ha : Answered s) {d : Uuid} {body : MaintenanceRequest}
    (hrow : ∃ r ∈ s.db.devices, r.id = d)
    (hm : t.maintenance = Function.update s.maintenance d (some body.enabled))
    (hv : t.revoked = s.revoked)
    (hdb : t.db = s.db.mapDevices fun r => if r.id = d then body.apply r else r) : Answered t := by
  have hdevices : t.db.devices = s.db.devices.map fun r => if r.id = d then body.apply r else r := by
    rw [hdb]
    rfl
  refine answered_of_map hdevices (fun r => ?_) (fun d' b hreq => ?_) fun d' hreq => ?_
  · split
    · rfl
    · rfl
  · rw [hm] at hreq
    by_cases hd : d' = d
    · subst hd
      rw [Function.update_self] at hreq
      refine ⟨hrow, fun r _ hid => ?_⟩
      rw [if_pos hid]
      exact Option.some.inj hreq
    · rw [Function.update_of_ne hd] at hreq
      obtain ⟨hrow', hall⟩ := ha.maintenance d' b hreq
      refine ⟨hrow', fun r hr hid => ?_⟩
      rw [if_neg fun hin => hd (hid.symm.trans hin)]
      exact hall r hr hid
  · rw [hv] at hreq
    obtain ⟨hrow', hall⟩ := ha.revoked d' hreq
    refine ⟨hrow', fun r hr hid => ?_⟩
    split
    · exact hall r hr hid
    · exact hall r hr hid

/-- A revocation that went through. -/
theorem Answered.revoke (ha : Answered s) {d : Uuid} {audit : List AuditLog}
    (hrow : ∃ r ∈ s.db.devices, r.id = d) (hm : t.maintenance = s.maintenance)
    (hv : t.revoked = Function.update s.revoked d true)
    (hdb : t.db = { revokeIn d s.db with auditLog := audit }) : Answered t := by
  have hdevices : t.db.devices = s.db.devices.map (Server.revoke d) := by
    rw [hdb]
    rfl
  refine answered_of_map hdevices (fun r => ?_) (fun d' b hreq => ?_) fun d' hreq => ?_
  · rw [Server.revoke]
    split
    · rfl
    · rfl
  · rw [hm] at hreq
    obtain ⟨hrow', hall⟩ := ha.maintenance d' b hreq
    refine ⟨hrow', fun r hr hid => ?_⟩
    rw [Server.revoke]
    split
    · exact hall r hr hid
    · exact hall r hr hid
  · rw [hv] at hreq
    by_cases hd : d' = d
    · subst hd
      refine ⟨hrow, fun r _ hid => ?_⟩
      rw [Server.revoke, if_pos hid]
    · rw [Function.update_of_ne hd] at hreq
      obtain ⟨hrow', hall⟩ := ha.revoked d' hreq
      refine ⟨hrow', fun r hr hid => ?_⟩
      rw [Server.revoke, if_neg fun hin => hd (hid.symm.trans hin)]
      exact hall r hr hid

/-- **The rows agree with the requests** after every step. -/
theorem step_answered {l : Label} (h : step E s l = some t) (ha : Answered s) : Answered t := by
  by_cases hm : ∃ org d body, l = .setMaintenance org d body
  · obtain ⟨org, d, body, rfl⟩ := hm
    cases h
    rw [putMaintenance]
    rcases setDeviceMaintenance_run (E := E) s.request_clean org d body with
      ⟨e, w', hrun, hcom⟩ | ⟨⟨r, hr, hid, -⟩, w', hrun, hcom⟩
    · rw [hrun]
      refine ha.of_standing rfl rfl ?_
      show w'.committed.devices.map standing = _
      rw [hcom]
      rfl
    · rw [hrun]
      exact ha.maintain ⟨r, hr, hid⟩ rfl rfl hcom
  · by_cases hr : ∃ user org d, l = .revoke user org d
    · obtain ⟨user, org, d, rfl⟩ := hr
      cases h
      rw [deleteDevice]
      rcases revokeDeviceRequest_run (E := E) s.request_clean user org d with
        ⟨e, w', hrun, hcom⟩ | ⟨hrow, w', audit, hrun, hcom⟩
      · rw [hrun]
        refine ha.of_standing rfl rfl ?_
        show w'.committed.devices.map standing = _
        rw [hcom]
        rfl
      · rw [hrun]
        exact ha.revoke hrow rfl rfl hcom
    · have hm' : ∀ org d body, l ≠ .setMaintenance org d body :=
        fun org d body he => hm ⟨org, d, body, he⟩
      have hr' : ∀ user org d, l ≠ .revoke user org d := fun user org d he => hr ⟨user, org, d, he⟩
      obtain ⟨hmaint, hrev⟩ := (step_moved h).requests hm' hr'
      refine ha.of_standing hmaint hrev ?_
      rcases step_change h with hsame | hchange
      · rw [hsame]
      · exact hchange.standing_eq hm' hr'

/-! ## Messages follow the requests -/

/-- The instance has the maintenance mode of the row, and a revoked device sends nothing that is
    written. -/
def Current (s : Hub) : Label → Prop
  | .message n message => ∀ c, s.connections n = some c →
    ∀ r ∈ s.db.devices, r.id = c.device.id →
      r.maintenanceMode = c.device.maintenanceMode ∧ (r.isRevoked = true → Rowless message)
  | _ => True

/-- What a message does to the database is what the requests for its device demand: in maintenance it
    adds no alert; out of maintenance one of every type it asks for and has none open; nothing at all
    for a revoked device. -/
def Follows (E : Env) (s : Hub) : Label → Prop
  | .message n message => ∀ c t, s.connections n = some c → step E s (.message n message) = some t →
    (s.maintenance c.device.id = some true → t.db.alerts.map Alert.id = s.db.alerts.map Alert.id) ∧
    (s.maintenance c.device.id = some false → ∀ ty, Raises E (s.session c.device) message ty →
      (handle E message (s.session c.device)).1 = .ok () →
      (∀ a ∈ s.db.alerts, unresolved c.device.id ty a = false) →
      raisedRows c.device.id ty s.db < raisedRows c.device.id ty t.db) ∧
    (s.revoked c.device.id = true → t.db = s.db)
  | _ => True

/-- What a message leaves committed. -/
theorem message_db {n : Nat} {message : Json} {c : Connection} (hc : s.connections n = some c)
    (h : step E s (.message n message) = some t) :
    t.db = if flushAccepted E (handle E message (s.session c.device)).2
      then (handle E message (s.session c.device)).2.view else s.db := by
  have hstep : step E s (.message n message) = some (s.receiveMessage E n c message) := by
    show (s.connections n).map _ = _
    rw [hc]
    rfl
  rw [hstep] at h
  cases h
  exact afterMessage_committed (s.session_clean c.device) c.socket message

/-- **One message** of a current instance follows the requests. -/
theorem Answered.follows (ha : Answered s) {l : Label} (hcur : Current s l) : Follows E s l := by
  cases l with
  | message n message =>
    intro c t hc h
    have hclean := s.session_clean c.device
    have hdb := message_db hc h
    have hrows := hcur c hc
    refine ⟨fun hmaint => ?_, fun hmaint ty hraises hok hopen => ?_, fun hrev => ?_⟩
    · obtain ⟨⟨r, hr, hid⟩, hall⟩ := ha.maintenance _ _ hmaint
      have hmode : c.device.maintenanceMode = true :=
        (hrows r hr hid).1.symm.trans (hall r hr hid)
      rw [hdb]
      split
      · exact maintenance_silent (w := s.session c.device) hclean.toSettled hmode message
      · rfl
    · obtain ⟨⟨r, hr, hid⟩, hall⟩ := ha.maintenance _ _ hmaint
      have hmode : c.device.maintenanceMode = false :=
        (hrows r hr hid).1.symm.trans (hall r hr hid)
      have hnone : openAlerts (s.session c.device) ty = [] :=
        List.filter_eq_nil_iff.mpr fun a ha' => by
          rw [show unresolved (s.session c.device).device.id ty a = false from hopen a ha']
          simp
      obtain ⟨w', hrun⟩ : ∃ w', handle E message (s.session c.device) = (.ok (), w') :=
        ⟨_, Prod.ext hok rfl⟩
      obtain ⟨hset, hadds⟩ := raises_adds hclean hmode hraises hnone hrun
      rw [hdb, hrun, if_pos (flushAccepted_settled hset), hset.view_eq]
      exact hadds
    · obtain ⟨⟨r, hr, hid⟩, hall⟩ := ha.revoked _ hrev
      have hview := rowless_view (E := E) ((hrows r hr hid).2 (hall r hr hid)) (s.session c.device)
      rw [hdb, hview, hclean.toSettled.view_eq]
      exact ite_self _
  | _ => trivial

/-- **Messages follow the requests** in every run in which the instances are current.

    The endpoint keeps the instance of its handshake for as long as the connection lasts.  Inside the condition the
    instance says what the row says, and the frames of `Dtsys.Server.Footprint` and `Dtsys.Server.Raising` do the
    rest. -/
theorem follows_requests {w : World} {ls : List Label}
    (hcur : Run.Guarded (step E) Current (start w) ls) :
    Run.Guarded (step E) (Follows E) (start w) ls :=
  hcur.strengthen (fun _ _ _ _ hs ha => step_answered hs ha) (fun _ _ hc ha => ha.follows hc)
    (answered_start w)

instance (message : Json) : Decidable (Rowless message) :=
  match hd : dispatched message with
  | none => isTrue fun ty data h => by
    rw [hd] at h
    cases h
  | some (ty, data) =>
    decidable_of_iff (ty = .processList ∨ ty = .screenshotResult)
      ⟨fun hty ty' data' h => by
        rw [hd] at h
        cases h
        exact hty,
      fun hr => hr ty data hd⟩

instance (s : Hub) : ∀ l, Decidable (Current s l)
  | .message n message =>
    match hc : s.connections n with
    | none => isTrue fun c h => by
      rw [hc] at h
      cases h
    | some c =>
      decidable_of_iff (∀ r ∈ s.db.devices, r.id = c.device.id →
          r.maintenanceMode = c.device.maintenanceMode ∧ (r.isRevoked = true → Rowless message))
        ⟨fun hall c' h => by
          rw [hc] at h
          cases h
          exact hall,
        fun hcur => hcur c hc⟩
  | .wait _ | .authenticate .. | .connect .. | .close _ | .offlineTask _ | .checkBegin _
  | .checkEnd _ | .setMaintenance .. | .revoke .. => isTrue trivial

/-- A device of organization 5, online. -/
def oneDevice : World :=
  .start { Db.empty with devices := [{ Device.sample 1 with orgId := some 5 }] } (.sample 1)

/-- It connects. -/
def comesUp : List Label := [.authenticate 0 1 "key", .connect 0 7 "10.0.0.5"]

/-- The request of an operator about maintenance. -/
def maintain (on : Bool) : Label := .setMaintenance 5 1 ⟨on, none, none⟩

/-- A telemetry message. -/
def telemetry (cpu : Int) : Label :=
  .message 0 (clientMessage "telemetry" (.obj [("cpu_percent", .int cpu)]))

/-- In maintenance before it connects, and out of it before it connects again. -/
def reconnected : List Label :=
  [maintain true] ++ comesUp ++ [telemetry 95, .close 0, maintain false] ++ comesUp ++ [telemetry 95]

/-- The first message is silent, the second raises the alert. -/
theorem follows_requests_reconnected :
    Run.Guarded (step Env.sample) (Follows Env.sample) (start oneDevice) reconnected ∧
      (Run.exec (step Env.sample) (start oneDevice) reconnected).map (fun s => s.db.alerts.length) =
        some 1 :=
  ⟨follows_requests (by decide +kernel), by decide +kernel⟩

/-- The instance of an open connection does not notice a maintenance request, nor a revocation. -/
theorem stale_instance :
    ¬ Run.Guarded (step Env.sample) (Follows Env.sample) (start oneDevice)
        (comesUp ++ [maintain true] ++ [telemetry 95]) ∧
      ¬ Run.Guarded (step Env.sample) (Follows Env.sample) (start oneDevice)
        (comesUp ++ [.revoke ⟨9, "admin"⟩ 5 1] ++ [telemetry 5]) := by
  constructor
  -- The row says maintenance, the instance of the connection does not: an alert is raised.
  · have hbefore : (Run.exec (step Env.sample) (start oneDevice) (comesUp ++ [maintain true])).map
        (fun s => ((s.connections 0).map (·.device.id), s.maintenance 1, s.db.alerts.length)) =
          some (some 1, some true, 0) := by decide +kernel
    have hafter : (Run.exec (step Env.sample) (start oneDevice)
        (comesUp ++ [maintain true] ++ [telemetry 95])).map (fun t => t.db.alerts.length) = some 1 := by
      decide +kernel
    obtain ⟨s, hs, hobs⟩ := Option.map_eq_some_iff.mp hbefore
    simp only [Prod.mk.injEq] at hobs
    obtain ⟨hconn, hmaint, hnone⟩ := hobs
    obtain ⟨c, hc, hid⟩ := Option.map_eq_some_iff.mp hconn
    rw [Run.exec_concat, hs] at hafter
    obtain ⟨t, ht, hone⟩ := Option.map_eq_some_iff.mp hafter
    refine Run.not_guarded_of_last hs fun hfollows => ?_
    have hids := congrArg List.length ((hfollows c t hc ht).1 (by rw [hid]; exact hmaint))
    rw [List.length_map, List.length_map, hnone, hone] at hids
    cases hids
  · have hbefore : (Run.exec (step Env.sample) (start oneDevice)
        (comesUp ++ [.revoke ⟨9, "admin"⟩ 5 1])).map
        (fun s => ((s.connections 0).map (·.device.id), s.revoked 1, s.db.metrics.length)) =
          some (some 1, true, 0) := by decide +kernel
    have hafter : (Run.exec (step Env.sample) (start oneDevice)
        (comesUp ++ [.revoke ⟨9, "admin"⟩ 5 1] ++ [telemetry 5])).map
        (fun t => t.db.metrics.length) = some 1 := by decide +kernel
    obtain ⟨s, hs, hobs⟩ := Option.map_eq_some_iff.mp hbefore
    simp only [Prod.mk.injEq] at hobs
    obtain ⟨hconn, hrev, hnone⟩ := hobs
    obtain ⟨c, hc, hid⟩ := Option.map_eq_some_iff.mp hconn
    rw [Run.exec_concat, hs] at hafter
    obtain ⟨t, ht, hone⟩ := Option.map_eq_some_iff.mp hafter
    refine Run.not_guarded_of_last hs fun hfollows => ?_
    have hdb := (hfollows c t hc ht).2.2 (by rw [hid]; exact hrev)
    rw [hdb, hnone] at hone
    cases hone

/-! ## Reports are shown -/

/-- A report finds no `offline` row behind an `online` instance. -/
def Seen (s : Hub) : Label → Prop
  | .message n message => ∀ c, s.connections n = some c → reports message = true →
    c.device.status = .online → s.db.NotOffline c.device.id
  | _ => True

/-- After a report whose transaction is committed its device is not `offline`. -/
def Shown (E : Env) (s : Hub) : Label → Prop
  | .message n message => ∀ c t, s.connections n = some c → reports message = true →
    flushAccepted E (handle E message (s.session c.device)).2 = true →
    step E s (.message n message) = some t → t.db.NotOffline c.device.id
  | _ => True

/-- A device that was seen is shown. -/
theorem Seen.shown {l : Label} (hseen : Seen s l) : Shown E s l := by
  cases l with
  | message n message =>
    intro c t hc hreport hacc h
    rw [message_db hc h, if_pos hacc]
    exact report_up (w := s.session c.device) (s.session_clean c.device) (hseen c hc hreport) hreport
      hacc
  | _ => trivial

/-- **A reporting device is shown as up** in every run in which no report finds an `offline` row
    behind an `online` instance.

    An assignment that changes nothing on the instance writes nothing in the row.  So a row that another session has
    taken offline stays offline, however often its device reports. -/
theorem reports_shown {w : World} {ls : List Label}
    (hseen : Run.Guarded (step E) Seen (start w) ls) :
    Run.Guarded (step E) (Shown E) (start w) ls :=
  hseen.imp fun _ _ => Seen.shown

instance (d : Uuid) (a : Db) : Decidable (a.NotOffline d) :=
  inferInstanceAs (Decidable (∀ r ∈ a.devices, r.id = d → r.status ≠ .offline))

instance (s : Hub) : ∀ l, Decidable (Seen s l)
  | .message n message =>
    match hc : s.connections n with
    | none => isTrue fun c h => by
      rw [hc] at h
      cases h
    | some c =>
      decidable_of_iff (reports message = true → c.device.status = .online →
          s.db.NotOffline c.device.id)
        ⟨fun hall c' h => by
          rw [hc] at h
          cases h
          exact hall,
        fun hseen => hseen c hc⟩
  | .wait _ | .authenticate .. | .connect .. | .close _ | .offlineTask _ | .checkBegin _
  | .checkEnd _ | .setMaintenance .. | .revoke .. => isTrue trivial

/-- The device is silent for 200 seconds, and a pass marks it. -/
def goesSilent : List Label := [.wait (200 * second), .checkBegin 0, .checkEnd 0]

/-- It reports, is marked, connects and reports again. -/
def marked : List Label := comesUp ++ [telemetry 5] ++ goesSilent ++ comesUp ++ [telemetry 5]

/-- A pass between two connections does no harm. -/
theorem reports_shown_marked :
    Run.Guarded (step Env.sample) (Shown Env.sample) (start oneDevice) marked :=
  reports_shown (by decide +kernel)

/-- A report on the connection that was open when the pass marked the device: the row stays
    `offline`. -/
theorem report_not_shown :
    ¬ Run.Guarded (step Env.sample) (Shown Env.sample) (start oneDevice)
      (comesUp ++ goesSilent ++ [telemetry 5]) := by
  have hbefore : (Run.exec (step Env.sample) (start oneDevice) (comesUp ++ goesSilent)).map
      (fun s => (s.connections 0).map fun c => (c.device.id, flushAccepted Env.sample
        (handle Env.sample (clientMessage "telemetry" (.obj [("cpu_percent", .int 5)]))
          (s.session c.device)).2)) = some (some (1, true)) := by decide +kernel
  have hafter : (Run.exec (step Env.sample) (start oneDevice)
      (comesUp ++ goesSilent ++ [telemetry 5])).map (fun t => decide (t.db.NotOffline 1)) =
        some false := by decide +kernel
  obtain ⟨s, hs, hconn⟩ := Option.map_eq_some_iff.mp hbefore
  obtain ⟨c, hc, hobs⟩ := Option.map_eq_some_iff.mp hconn
  obtain ⟨hid, hacc⟩ := Prod.mk.inj hobs
  rw [Run.exec_concat, hs] at hafter
  obtain ⟨t, ht, hoff⟩ := Option.map_eq_some_iff.mp hafter
  refine Run.not_guarded_of_last hs fun hshown => ?_
  have hup := hshown c t hc rfl hacc ht
  rw [hid] at hup
  exact absurd hup (of_decide_eq_false hoff)

end Hub

end Dtsys
