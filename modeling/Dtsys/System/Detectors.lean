/-
  THE TWO DETECTORS of an outage: `_schedule_offline`, 15 seconds after a connection is gone, and the
  periodic `_check_offline_devices_async`.

  Both take the status of a device to `offline`.  The pass adds an `offline` event and an alert; the
  task adds nothing, and what it leaves is not found by a pass, which looks for `online` rows.

  * `Recorded` — a step that takes a device from another status to `offline` adds one event, and an
    alert is open then;
  * `recorded_iff` — in a run every step is `Recorded` exactly when every task finds its device
    `offline` already.

  Nothing else takes a device offline but its revocation, which is no outage: for messages that is an
  invariant of the instances (`step_instances`).
-/
import Dtsys.System.Freshness

namespace Dtsys

open Server Act

/-- How many `offline` events a device has. -/
def Db.offlineEvents (d : Uuid) (db : Db) : Nat :=
  ((db.eventsOf d).filter fun e => e.eventType == .offline).length

/-- The status of a device goes from another value to `offline`. -/
structure WentOffline (d : Uuid) (a b : Db) : Prop where
  before : ∃ r ∈ a.devices, r.id = d ∧ r.status ≠ .offline
  after : ∃ r ∈ b.devices, r.id = d ∧ r.status = .offline

/-- An outage that begins between `a` and `b` is on record in `b`. -/
structure OnRecord (d : Uuid) (a b : Db) : Prop where
  event : b.offlineEvents d = a.offlineEvents d + 1
  alert : (∀ r ∈ b.devices, r.id = d → r.maintenanceMode = false ∧ r.isRevoked = false) →
    ∃ x ∈ b.alerts, unresolved d .offline x = true

section

variable {d : Uuid} {a b : Db}

/-- There is one row of a device. -/
theorem WentOffline.notOffline (h : WentOffline d a b)
    (hkeys : (a.devices.map Device.id).Nodup) : a.NotOffline d := by
  obtain ⟨r, hr, hid, hst⟩ := h.before
  intro r' hr' hid'
  have hsame : r' = r := List.inj_on_of_nodup_map hkeys hr' hr (hid'.trans hid.symm)
  rw [hsame]
  exact hst

/-- A device that goes offline was not offline. -/
theorem WentOffline.not_notOffline (h : WentOffline d a b) (hb : b.NotOffline d) : False := by
  obtain ⟨r, hr, hid, hst⟩ := h.after
  exact hb r hr hid hst

/-- An UPDATE that takes no row of the device offline. -/
theorem notOffline_map {f : Device → Device} (h : a.NotOffline d)
    (hdb : b.devices = a.devices.map f) (hid : ∀ r, (f r).id = r.id)
    (hst : ∀ r, r.id = d → r.status ≠ .offline → (f r).status ≠ .offline) : b.NotOffline d := by
  intro r hr hd
  rw [hdb] at hr
  obtain ⟨row, hrow, rfl⟩ := List.mem_map.mp hr
  have hrow' : row.id = d := (hid row).symm.trans hd
  exact hst row hrow' (h row hrow hrow')

end

namespace Hub

variable {E : Env} {s t : Hub} {d : Uuid}

/-- A step that takes a device offline records it. -/
def Recorded (E : Env) (s : Hub) : Label → Prop
  | .revoke .. => True
  | l => ∀ t d, step E s l = some t → WentOffline d s.db t.db → OnRecord d s.db t.db

/-- A delayed task finds its device `offline` already. -/
def Preceded (s : Hub) : Label → Prop
  | .offlineTask d => ∀ r ∈ s.db.devices, r.id = d → r.status = .offline
  | _ => True

/-! ## The instances are up -/

/-- Every connection has an instance that is not `offline`. -/
def Instances (s : Hub) : Prop := ∀ n c, s.connections n = some c → c.device.status ≠ .offline

theorem receive_instance {w : World} (hup : w.device.status ≠ .offline) (ws : Socket)
    (message : Json) : (receive E ws message w).2.device.status ≠ .offline := by
  have hhandle := handle_instance (E := E) hup message
  have hcommit : Within sameInstance (commit E) :=
    Within.bind sameInstance_flush fun _ => Within.modify fun _ => rfl
  have hack : Within sameInstance (sendAck ws) := by
    intro v
    rw [sendAck]
    split
    · rfl
    · rfl
  rw [receive, Act.bind_run]
  rcases hrun : handle E message w with ⟨e | u, w₁⟩
  · rw [hrun] at hhandle
    exact hhandle
  · rw [hrun] at hhandle
    have hsame : ((commit E >>= fun _ => sendAck ws) w₁).2.device = w₁.device :=
      Within.bind hcommit (fun _ => hack) w₁
    show ((commit E >>= fun _ => sendAck ws) w₁).2.device.status ≠ _
    rw [hsame]
    exact hhandle

/-- One step keeps the instances that are not offline. -/
theorem step_instances {l : Label} (h : step E s l = some t) (hs : Instances s) : Instances t := by
  intro n c hc
  rcases (step_moved h).connections n c hc with hold | honline | ⟨c₀, message, hc₀, hdevice⟩
  · exact hs n c hold
  · rw [honline]
    exact fun hoff => nomatch hoff
  · have hup : (s.session c₀.device).device.status ≠ .offline := hs n c₀ hc₀
    rw [hdevice]
    exact receive_instance hup c₀.socket message

/-! ## Who takes a device offline -/

/-- A pass records the devices it takes offline. -/
theorem passed_recorded {began : Nat} {xs : List Device} {a b : Db} (h : Passed began xs a b)
    (hkeys : (xs.map Device.id).Nodup) (hup : a.NotOffline d) (hwent : WentOffline d a b) :
    OnRecord d a b := by
  rcases h.eventsOf hkeys d with ⟨hout, -⟩ | ⟨hin, e, hev, htype, -, -⟩
  · have hb : b.NotOffline d := by
      refine notOffline_map hup h.devices (fun r => ite_keeps Device.id rfl) fun r hid hst => ?_
      rw [if_neg (by rw [hid]; exact hout)]
      exact hst
    exact (hwent.not_notOffline hb).elim
  · constructor
    · rw [Db.offlineEvents]
      rw [hev, List.filter_append, List.length_append, List.filter_cons, if_pos (by simp [htype])]
      rfl
    · intro _
      obtain ⟨x, hx, hid⟩ := List.mem_map.mp hin
      rw [← hid]
      exact h.raised x hx

/-- Who takes a device offline: its task, a pass, its revocation. -/
theorem Change.notOffline {l : Label} {a : Db} (h : Change E s l a) (hi : Instances s)
    (hup : s.db.NotOffline d) (ht : l ≠ .offlineTask d) (hp : ∀ n, l ≠ .checkEnd n)
    (hr : ∀ user org d, l ≠ .revoke user org d) : a.NotOffline d := by
  cases h with
  | connected hhs id =>
    refine notOffline_map hup rfl (fun r => ite_keeps Device.id rfl) fun r _ hst => ?_
    rw [connectedRow]
    split
    · exact fun hoff => nomatch hoff
    · exact hst
  | @handled n c message hc hacc =>
    have hset : (s.session c.device).Settled := (s.session_clean c.device).toSettled
    exact handle_notOffline hset (hi n c hc) hup message
  | marked d' =>
    have hne : d' ≠ d := fun he => ht (by rw [he])
    refine notOffline_map hup rfl (fun r => ite_keeps Device.id rfl) fun r hid hst => ?_
    show Device.status (if r.id = d' then _ else r) ≠ _
    rw [if_neg (by rw [hid]; exact hne.symm)]
    exact hst
  | passed hpass hdone => exact absurd rfl (hp _)
  | maintained hrow =>
    refine notOffline_map hup rfl (fun r => ite_keeps Device.id rfl) fun r _ hst => ?_
    split
    · exact hst
    · exact hst
  | revoked hrow audit => exact absurd rfl (hr _ _ _)

/-- **One step**: a device is taken offline by a pass, or by a task that finds it up. -/
theorem step_recorded (ht : Timed s) (hi : Instances s) {l : Label} (hpre : Preceded s l) :
    Recorded E s l := by
  have hall : (∀ user org d, l ≠ .revoke user org d) → ∀ t d, step E s l = some t →
      WentOffline d s.db t.db → OnRecord d s.db t.db := by
    intro hrev t d h hwent
    have hup : s.db.NotOffline d := hwent.notOffline ht.keys
    rcases step_change h with hsame | hchange
    · rw [hsame] at hwent
      exact (hwent.not_notOffline hup).elim
    · by_cases htask : l = .offlineTask d
      · -- the task has found it offline
        subst htask
        obtain ⟨r, hr, hid, hst⟩ := hwent.before
        exact (hst (hpre r hr hid)).elim
      · by_cases hcheck : ∃ n, l = .checkEnd n
        · obtain ⟨n, rfl⟩ := hcheck
          generalize t.db = a at hchange hwent
          cases hchange with
          | @passed _ p hp _ hdone => exact passed_recorded hdone (ht.passes n p hp).2 hup hwent
        · have hdown : t.db.NotOffline d :=
            hchange.notOffline hi hup htask (fun n he => hcheck ⟨n, he⟩) hrev
          exact (hwent.not_notOffline hdown).elim
  cases l with
  | revoke user org d => trivial
  | _ => exact hall fun _ _ _ he => nomatch he

/-- A task adds no event. -/
theorem offlineTask_preceded (hrec : Recorded E s (.offlineTask d)) :
    Preceded s (.offlineTask d) := by
  intro r hr hid
  by_contra hst
  let t : Hub := { s with world := (scheduleOffline E d s.request).2 }
  have hdb : t.db = s.db.setStatus d .offline := scheduleOffline_committed s.request_clean.toSettled d
  have hwent : WentOffline d s.db t.db := by
    refine ⟨⟨r, hr, hid, hst⟩, { r with status := .offline }, ?_, hid, rfl⟩
    rw [hdb]
    refine List.mem_map.mpr ⟨r, hr, ?_⟩
    exact if_pos hid
  have hevent := (hrec t d rfl hwent).event
  rw [hdb] at hevent
  have hsame : (s.db.setStatus d .offline).offlineEvents d = s.db.offlineEvents d := rfl
  omega

/-- Every outage of a run is recorded, so each is preceded by its row. -/
theorem recorded_preceded {ls : List Label} (hrec : Run.Guarded (step E) (Recorded E) s ls) :
    Run.Guarded (step E) Preceded s ls :=
  hrec.imp fun s l hl => by
    cases l with
    | offlineTask d => exact offlineTask_preceded hl
    | _ => trivial

/-- **The detectors record an outage** in every step of a run, exactly when no task takes a device
    offline: every task comes after what has done so.

    `_schedule_offline` writes the status and nothing else.  A pass writes an event and an alert, but only for rows
    that are still `online`. -/
theorem recorded_iff {w : World} {ls : List Label}
    (hkeys : (w.committed.devices.map Device.id).Nodup) :
    Run.Guarded (step E) (Recorded E) (start w) ls ↔ Run.Guarded (step E) Preceded (start w) ls := by
  constructor
  · exact recorded_preceded
  · intro hpre
    refine hpre.strengthen (I := fun s => Timed s ∧ Instances s) (fun s l t _ hs hI => ?_)
      (fun s l hl hI => step_recorded hI.1 hI.2 hl) ⟨timed_start hkeys, fun _ _ hc => nomatch hc⟩
    exact ⟨step_timed hs hI.1, step_instances hs hI.2⟩

instance (s : Hub) : ∀ l, Decidable (Preceded s l)
  | .offlineTask d =>
    inferInstanceAs (Decidable (∀ r ∈ s.db.devices, r.id = d → r.status = .offline))
  | .wait _ | .authenticate .. | .connect .. | .message .. | .close _ | .checkBegin _
  | .checkEnd _ | .setMaintenance .. | .revoke .. => isTrue trivial

/-- The connection is gone, and 15 seconds later the task runs. -/
def taskFires : List Label := [.close 0, .wait (15 * second), .offlineTask 1]

/-- The pass first, the task second. -/
theorem recorded_pass_first :
    Run.Guarded (step Env.sample) (Recorded Env.sample) (start oneDevice)
      (comesUp ++ goesSilent ++ taskFires) :=
  (recorded_iff (by decide +kernel)).mpr (by decide +kernel)

/-- The task first: no event and no alert, and none after the next pass either. -/
theorem unrecorded_task_first :
    ¬ Run.Guarded (step Env.sample) (Recorded Env.sample) (start oneDevice) (comesUp ++ taskFires) ∧
      (Run.exec (step Env.sample) (start oneDevice) (comesUp ++ taskFires ++ goesSilent)).map
        (fun s => (s.db.devices.map Device.status, s.db.offlineEvents 1, s.db.alerts.length)) =
          some ([.offline], 0, 0) := by
  refine ⟨fun hrec => ?_, by decide +kernel⟩
  have hnot : ¬ Run.Guarded (step Env.sample) Preceded (start oneDevice) (comesUp ++ taskFires) := by
    decide +kernel
  exact hnot (recorded_preceded hrec)

end Hub

end Dtsys
