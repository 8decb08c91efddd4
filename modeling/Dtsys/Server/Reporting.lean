/-
  A REPORT MARKS ITS DEVICE ONLINE: `telemetry`, `network_info` and `agent_info` set
  `device.status = "online"`, and an alert sets `"alert"`.

  What reaches the row is only what DIFFERS from the instance's last known value.  A report on an
  instance that is `online` already writes no status; the row stays `offline` if somebody else has
  marked it.  So a committed report leaves its device up if no row was `offline` behind an `online`
  instance (`report_up`).

  1. `Up` — the instance of the session is not offline, and neither is the row that it would write;
     `up_handled` takes it through a handler, by `Dtsys.Server.Footprint`.
  2. `telemetry_up`, `networkInfo_up`, `agentInfo_up` — the three reports.  An instance that is `online` has
     to be right about its row (`Unmarked`); any other status is written.
  3. `report_up` — the three together.

  The instance is that of the handshake, which may be older than what other processes have written
  since; `Dtsys.System.Freshness` is about the difference.
-/
import Dtsys.Server.Reports
import Dtsys.Server.Scope

namespace Dtsys

/-- No row of the device is `offline`. -/
def Db.NotOffline (d : Uuid) (db : Db) : Prop := ∀ r ∈ db.devices, r.id = d → r.status ≠ .offline

namespace Server

open Act

variable {E : Env} {d : Uuid} {w : World}

/-- What the flush makes of the rows, when the status of the instance has been changed or they were up
    before. -/
theorem view_notOffline (hd : w.device.id = d) (hdevice : w.device.status ≠ .offline)
    (hrows : w.device.status = w.loaded.status → w.db.NotOffline d) : w.view.NotOffline d := by
  intro r hr hid
  rw [World.view_devices] at hr
  obtain ⟨row, hrow, rfl⟩ := List.mem_map.mp hr
  rw [World.syncDevice_id] at hid
  rw [World.syncDevice, if_pos (hid.trans hd.symm)]
  dsimp only
  split
  · rename_i hsame
    exact hrows hsame row hrow hid
  · exact hdevice

/-- The device is up, for the session and in the rows it sees. -/
structure Up (d : Uuid) (w : World) : Prop where
  rows : w.db.NotOffline d
  device : w.device.status ≠ .offline

/-- The frame: a session of the device keeps it up. -/
def up (d : Uuid) : Frame World where
  rel w w' := w.device.id = d → Up d w → w'.device.id = d ∧ Up d w'
  refl _ := fun hd hup => ⟨hd, hup⟩
  trans hst htu := fun hd hup =>
    have h1 := hst hd hup
    htu h1.1 h1.2

theorem up_flush : Within (up d) (flush E) := by
  intro w hd hup
  rw [flush]
  split
  · exact ⟨hd, view_notOffline hd hup.device fun _ => hup.rows, hup.device⟩
  · exact ⟨hd, hup⟩

theorem up_inSession : InSession E d (up d) where
  device hk := fun w hd => hk w.device hd w hd
  flush := up_flush
  newId := fun _ hd hup => ⟨hd, hup.rows, hup.device⟩
  emit _ := Within.modify fun _ hd hup => ⟨hd, hup.rows, hup.device⟩
  redis _ := Within.modify fun _ hd hup => ⟨hd, hup.rows, hup.device⟩
  add _ _ _ := Within.modify fun _ hd hup => ⟨hd, hup.rows, hup.device⟩
  attributes hf := Within.modify fun w hd hup =>
    ⟨(hf.id_eq w.device).trans hd, hup.rows, fun hoff => hup.device (hf.status w.device hoff)⟩
  statement {f} hf := Within.modify fun w hd hup => by
    refine ⟨hd, ?_, hup.device⟩
    show Db.NotOffline d (f w.db)
    rw [Db.NotOffline, hf.devices]
    exact hup.rows

/-- An UPDATE in the session of the device. -/
theorem up_handled : Handled E d (up d) where
  toInSession := up_inSession
  alert := up_inSession.createAlert fun _ _ =>
    Within.modify fun _ hd hup => ⟨hd, hup.rows, hup.device⟩

/-! ## The instance -/

theorem lasting_up (d : Uuid) : Lasting d fun x => x.id = d ∧ x.status ≠ .offline where
  id _ hx := hx.1
  attributes hf x hx := ⟨(hf.id_eq x).trans hx.1, fun hoff => hx.2 (hf.status x hoff)⟩

theorem respected_true (d : Uuid) : Respected d fun _ _ => True :=
  ⟨fun _ => trivial, fun _ _ => trivial, fun _ _ => trivial, fun _ _ _ _ => trivial,
    fun _ _ _ _ _ _ => trivial, fun _ _ => trivial⟩

/-- An instance that is up stays up. -/
theorem handle_instance (hup : w.device.status ≠ .offline) (message : Json) :
    (handle E message w).2.device.status ≠ .offline := by
  have hwithin : Within (onView (lasting_up w.device.id) (respected_true w.device.id))
      (handle E message) :=
    (onView_handled _ _ fun _ _ _ => trivial).handle
      (fun _ _ => onView_command _ _ fun _ => trivial) message
  exact (hwithin w ⟨rfl, hup⟩).1.2

/-- Nothing a device's session does takes another device offline. -/
theorem respected_notOffline {d d' : Uuid} (hd : d' ≠ d) :
    Respected d fun a b => a.NotOffline d' → b.NotOffline d' where
  refl _ h := h
  trans hab hbc h := hbc (hab h)
  congr {a b} x hab := by
    unfold Db.NotOffline
    rw [Db.insert_devices, Db.insert_devices]
    exact hab
  report a x _ _ := by
    unfold Db.NotOffline
    rw [Db.insert_devices]
    exact id
  sync a x y x' hx hx' := by
    have hother : ∀ z : Device, z.id = d →
        (Db.NotOffline d' { a with devices := a.devices.map (World.syncDevice z y) } ↔
          a.NotOffline d') := by
      intro z hz
      constructor
      · intro h r hr hid
        have hin : World.syncDevice z y r ∈ a.devices.map (World.syncDevice z y) :=
          List.mem_map_of_mem hr
        have hsame : World.syncDevice z y r = r :=
          World.syncDevice_other (by rw [hz, hid]; exact hd)
        rw [hsame] at hin
        exact h r hin hid
      · intro h r hr hid
        obtain ⟨row, hrow, rfl⟩ := List.mem_map.mp hr
        rw [World.syncDevice_id] at hid
        rw [World.syncDevice_other (by rw [hz, hid]; exact hd)]
        exact h row hrow hid
    intro h
    exact (hother x' hx').mpr ((hother x hx).mp h)
  statement hf a := by
    unfold Db.NotOffline
    rw [hf.devices]
    exact id

/-- **A session whose instance is up takes no device offline.** -/
theorem handle_notOffline (hset : w.Settled) (hup : w.device.status ≠ .offline)
    (hrows : w.db.NotOffline d) (message : Json) : (handle E message w).2.view.NotOffline d := by
  by_cases hd : d = w.device.id
  · subst hd
    have hwithin : Within (up w.device.id) (handle E message) :=
      up_handled.handle (fun id f => Within.modify fun _ hid h => ⟨hid, h.rows, h.device⟩) message
    obtain ⟨hid, hrows', hdevice⟩ := hwithin w rfl ⟨hrows, hup⟩
    exact view_notOffline hid hdevice fun _ => hrows'
  · exact handle_respects (respected_notOffline hd)
      (fun a x _ h => by unfold Db.NotOffline; rw [Db.insert_devices]; exact h)
      (fun _ _ _ h => h) hset rfl message hrows

/-! ## The three reports -/

/-- What the condition of a report says of its session. -/
def Unmarked (w : World) : Prop := w.device.status = .online → w.db.NotOffline w.device.id

/-- Telemetry leaves the device not offline. -/
theorem telemetry_up (hc : w.Clean) (hmark : Unmarked w) {fields : List (String × Json)}
    (hacc : flushAccepted E (handleTelemetry E (.obj fields) w).2 = true) :
    (handleTelemetry E (.obj fields) w).2.view.NotOffline w.device.id := by
  obtain ⟨m, hm⟩ : ∃ m, metricOf (E.uuid4 w.drawn) w.clock w.device.id (.obj fields) = .ok m :=
    ⟨_, rfl⟩
  obtain ⟨hrefused, haccepted⟩ := handleTelemetry_run (E := E) hc hm
  cases hrow : E.driver.acceptsRow (.metric m) with
  | false =>
    obtain ⟨w₁, hrun, hno, -⟩ := hrefused hrow
    rw [hrun, hno] at hacc
    cases hacc
  | true =>
    rw [haccepted hrow]
    -- after the flush of the metric the status is written, or was up already
    have hup : Up w.device.id (measured w m) := by
      refine ⟨?_, fun hoff => nomatch hoff⟩
      intro r hr hid
      obtain ⟨row, hmem, rfl⟩ := List.mem_map.mp hr
      rw [World.syncDevice_id] at hid
      unfold World.syncDevice
      rw [if_pos (show row.id = (seen w.clock w.device).id from hid)]
      dsimp only
      split
      · rename_i hsame
        exact hmark hsame.symm row hmem hid
      · exact fun hoff => nomatch hoff
    have hrest : Within (up w.device.id)
        (evaluateMetrics E m >>= fun _ => autoResolveAlerts E w.device.id (.obj fields)) :=
      Within.bind (up_handled.evaluateMetrics m) fun _ => up_handled.autoResolveAlerts _
    obtain ⟨hid, hup'⟩ := hrest (measured w m) rfl hup
    exact view_notOffline hid hup'.device fun _ => hup'.rows

/-- The frame between the assignment of the status and the commit: the assignment waits. -/
def waiting : Frame World where
  rel w w' := w'.db.devices = w.db.devices ∧ w'.loaded = w.loaded ∧ w'.device.id = w.device.id ∧
    w'.device.status = w.device.status
  refl _ := ⟨rfl, rfl, rfl, rfl⟩
  trans hst htu := ⟨htu.1.trans hst.1, htu.2.1.trans hst.2.1, htu.2.2.1.trans hst.2.2.1,
    htu.2.2.2.trans hst.2.2.2⟩

theorem waiting_addInterfaces : ∀ (xs : List Json) (acc : Option Ipv4 × Option Ipv4),
    Within waiting (addInterfaces E d acc xs)
  | [], _ => Within.pure _
  | iface :: rest, acc => by
    refine Within.bind (fun _ => ⟨rfl, rfl, rfl, rfl⟩) fun id => ?_
    refine Within.bind (Within.ofExcept _) fun r => ?_
    refine Within.bind (Within.modify fun _ => ⟨rfl, rfl, rfl, rfl⟩) fun _ => ?_
    refine Within.bind (Within.ofExcept _) fun _ => Within.bind (Within.ofExcept _) fun _ => ?_
    exact waiting_addInterfaces rest _

/-- A waiting `online` shows in the view. -/
theorem view_of_waiting {w₁ w₂ : World} (hmark : Unmarked w) (hset : w.Settled)
    (hdevices : w₁.db.devices = w.db.devices) (hloaded : w₁.loaded = w.loaded)
    (hid : w₁.device.id = w.device.id) (hstatus : w₁.device.status = .online)
    (hwait : waiting.rel w₁ w₂) : w₂.view.NotOffline w.device.id := by
  obtain ⟨hdev₂, hload₂, hid₂, hst₂⟩ := hwait
  have honline : w₂.device.status = .online := hst₂.trans hstatus
  refine view_notOffline (hid₂.trans hid) (by rw [honline]; exact fun hoff => nomatch hoff) ?_
  intro hsame
  rw [honline, hload₂, hloaded, hset.loaded] at hsame
  rw [Db.NotOffline, hdev₂, hdevices]
  exact hmark hsame.symm

theorem networkInfo_up (hset : w.Settled) (hmark : Unmarked w) (fields : List (String × Json)) :
    (handleNetworkInfo E (.obj fields) w).2.view.NotOffline w.device.id := by
  let w₁ : World := { w with db := deleteNetwork w.device.id w.db, device := seen w.clock w.device }
  have hrun : handleNetworkInfo E (.obj fields) w = (do
      let items ← Act.ofExcept ((fields.lookup "interfaces").getD (.arr [])).iter
      let chosen ← addInterfaces E w.device.id (none, none) items
      setDevice (withAddress chosen) : Server Unit) w₁ := by
    rw [handleNetworkInfo, now]
    rw [Act.read_bind, Json.getD, Act.ofExcept_ok_bind, Act.bind_of_ok (execute_settled hset _)]
    rfl
  have hrest : Within waiting (do
      let items ← Act.ofExcept ((fields.lookup "interfaces").getD (.arr [])).iter
      let chosen ← addInterfaces E w.device.id (none, none) items
      setDevice (withAddress chosen) : Server Unit) := by
    refine Within.bind (Within.ofExcept _) fun items => ?_
    refine Within.bind (waiting_addInterfaces items _) fun chosen => Within.modify fun v => ?_
    exact ⟨rfl, rfl, (attributes_address chosen).id_eq v.device, withAddress_status chosen v.device⟩
  rw [hrun]
  exact view_of_waiting hmark hset (show w₁.db.devices = _ from rfl) rfl rfl rfl (hrest w₁)

/-- And the version of the agent. -/
theorem agentInfo_up (hset : w.Settled) (hmark : Unmarked w) (fields : List (String × Json)) :
    (handleAgentInfo E (.obj fields) w).2.view.NotOffline w.device.id := by
  let version := (fields.lookup "version").getD .null
  let w₁ : World := { w with device := seen w.clock (withVersion E version w.device) }
  have hrun : handleAgentInfo E (.obj fields) w = (.ok (), w₁) := rfl
  rw [hrun]
  have hid : w₁.device.id = w.device.id := (attributes_version E version).id_eq w.device
  exact view_of_waiting hmark hset (show w₁.db.devices = _ from rfl) rfl hid rfl (waiting.refl w₁)

/-- A report: one of the three types, its data a JSON object. -/
def reports (message : Json) : Bool :=
  match dispatched message with
  | some (.telemetry, .obj _) => true
  | some (.networkInfo, .obj _) => true
  | some (.agentInfo, .obj _) => true
  | _ => false

/-- **A report that is committed leaves no row of its device `offline`**, unless one was, behind an
    instance that is `online`. -/
theorem report_up (hc : w.Clean) (hmark : Unmarked w) {message : Json}
    (hreport : reports message = true) (hacc : flushAccepted E (handle E message w).2 = true) :
    (handle E message w).2.view.NotOffline w.device.id := by
  rw [reports] at hreport
  split at hreport
  · rename_i fields hd
    rw [handle_dispatched hd] at hacc ⊢
    exact telemetry_up hc hmark hacc
  · rename_i fields hd
    rw [handle_dispatched hd]
    exact networkInfo_up hc.toSettled hmark fields
  · rename_i fields hd
    rw [handle_dispatched hd]
    exact agentInfo_up hc.toSettled hmark fields
  · cases hreport

end Server

end Dtsys
