/-
  THE STATUS OF A DEVICE AND ITS OPEN ALERTS, over a run of messages on one connection.

  `_handle_telemetry` sets the status to `online`; `create_alert` sets it to `alert`, on the branch that
  inserts a row; `auto_resolve_alerts` does not touch it.  So after a telemetry message the status says
  whether that message has opened an alert, not whether one is open.

  1. `Tracked` — the rows of the device follow its instance, whatever the handlers do;
  2. `statusStep` — one message, handled and committed;
  3. `status_reflects_iff` — the two agree after every telemetry message of a run exactly when each of
     them opens an alert or leaves none open.
-/
import Dtsys.Server.Clearing
import Dtsys.Lib.Run

namespace Dtsys

namespace Server

open Act

variable {E : Env} {w w' : World}

/-! ## The rows follow the instance -/

/-- A session of the device `d`: its rows have the status the instance was last written with. -/
structure Tracked (d : Uuid) (m : Bool) (w : World) : Prop where
  id : w.device.id = d
  maintenance : w.device.maintenanceMode = m
  rows : ∀ r ∈ w.db.devices, r.id = d → r.status = w.loaded.status

/-- The frame of such a session. -/
def tracked (d : Uuid) (m : Bool) : Frame World where
  rel w w' := Tracked d m w → Tracked d m w'
  refl _ := fun h => h
  trans hst htu := fun h => htu (hst h)

/-- A flush keeps the instance and the row in step. -/
theorem tracked_flush (d : Uuid) (m : Bool) : Within (tracked d m) (flush E) := by
  intro w h
  rw [flush]
  split
  · refine ⟨h.id, h.maintenance, fun r hr hid => ?_⟩
    rw [World.view_devices] at hr
    obtain ⟨row, hrow, rfl⟩ := List.mem_map.mp hr
    rw [World.syncDevice_id] at hid
    have hsame := h.rows row hrow hid
    rw [World.syncDevice, if_pos (hid.trans h.id.symm)]
    dsimp only
    split
    · rename_i hst
      rw [hsame, hst]
    · rfl
  · exact h

theorem tracked_inSession (d : Uuid) (m : Bool) : InSession E d (tracked d m) where
  device hk := fun w h => hk w.device h.id w h
  flush := tracked_flush d m
  newId := fun _ h => ⟨h.id, h.maintenance, h.rows⟩
  emit _ := Within.modify fun _ h => ⟨h.id, h.maintenance, h.rows⟩
  redis _ := Within.modify fun _ h => ⟨h.id, h.maintenance, h.rows⟩
  add _ _ _ := Within.modify fun _ h => ⟨h.id, h.maintenance, h.rows⟩
  attributes hf := Within.modify fun w h =>
    ⟨(hf.id_eq w.device).trans h.id, (hf.maintenanceMode_eq w.device).trans h.maintenance, h.rows⟩
  statement {f} hf := Within.modify fun w h => by
    refine ⟨h.id, h.maintenance, ?_⟩
    show ∀ r ∈ (f w.db).devices, _
    rw [hf.devices]
    exact h.rows

/-- So does a message, whatever it is. -/
theorem tracked_handle (d : Uuid) (m : Bool) (message : Json) :
    Within (tracked d m) (handle E message) := by
  have hsession := tracked_inSession (E := E) d m
  have hhandled : Handled E d (tracked d m) :=
    ⟨hsession, hsession.createAlert fun _ _ =>
      Within.modify fun _ h => ⟨h.id, h.maintenance, h.rows⟩⟩
  exact hhandled.handle (fun _ _ => Within.modify fun _ h => ⟨h.id, h.maintenance, h.rows⟩) message

/-! ## The run -/

/-- What happens on the connection: a message, or time that passes. -/
inductive StatusLabel where
  | message (message : Json)
  | wait (t : Nat)

/-- One round of the receive loop, up to its `ack`. -/
def process (E : Env) (message : Json) : Server Unit := do
  handle E message
  commit E

/-- The acknowledgement is the last step of a message. -/
theorem receive_eq (ws : Socket) (message : Json) (w : World) :
    receive E ws message w = (process E message >>= fun _ => sendAck ws) w :=
  (bind_assoc_run _ _ _ w).symm

/-- The messages of the run. -/
def monitored (message : Json) : Bool :=
  match dispatched message with
  | some (.telemetry, _) => true
  | some (.ntpStatus, _) => true
  | some (.eventReport, _) => true
  | _ => false

/-- One message, handled and committed; an exception ends the connection. -/
def statusStep (E : Env) (w : World) : StatusLabel → Option World
  | .wait t => some { w with clock := w.clock + t }
  | .message message =>
    if monitored message then
      match process E message w with
      | (.ok _, w') => some w'
      | (.error _, _) => none
    else none

/-- The data of a telemetry message. -/
def StatusLabel.telemetry : StatusLabel → Option Json
  | .message m =>
    match dispatched m with
    | some (.telemetry, data) => some data
    | _ => none
  | .wait _ => none

/-- A connection between two messages, of a device that is not in maintenance. -/
structure Connected (w : World) : Prop where
  clean : w.Clean
  tracked : Tracked w.device.id false w

/-- An alert is open of a type that `evaluate_metrics` raises. -/
def MetricOpen (w : World) : Prop := ∃ ty : AlertType, ty.metric.isSome = true ∧ openAlerts w ty ≠ []

/-- The status of the device, in its instance and in its committed row. -/
def HasStatus (w : World) (st : DeviceStatus) : Prop :=
  w.device.status = st ∧ ∀ r ∈ w.committed.devices, r.id = w.device.id → r.status = st

/-- The status is `alert` exactly when such an alert is open, and `online` otherwise. -/
def Reflects (w : World) : Prop :=
  (MetricOpen w → HasStatus w .alert) ∧ (¬ MetricOpen w → HasStatus w .online)

/-- The message opens an alert exactly when it leaves one open: one that was open before, or that it
    asks for, and that it does not clear. -/
def OpensOrNone (E : Env) (data : Json) (w : World) : Prop :=
  (∃ ty, Asks E data ty ∧ openAlerts w ty = []) ↔
    ∃ ty : AlertType, ty.metric.isSome = true ∧ ¬ Clears data ty ∧
      (openAlerts w ty ≠ [] ∨ Asks E data ty)

/-- A step with a message: the handler returned, and so did the commit. -/
theorem statusStep_message {message : Json} (h : statusStep E w (.message message) = some w') :
    monitored message = true ∧ ∃ v, handle E message w = (.ok (), v) ∧ commit E v = (.ok (), w') := by
  unfold statusStep at h
  dsimp only at h
  split at h
  · rename_i hmon
    split at h
    · rename_i v hrun
      obtain rfl := Option.some.inj h
      obtain ⟨_, v, hhandle, hcommit⟩ := ok_of_bind hrun
      exact ⟨hmon, v, hhandle, hcommit⟩
    · cases h
  · cases h

theorem commit_returned {v : World} (h : commit E v = (.ok (), w')) :
    w'.Clean ∧ w'.device = v.device := by
  cases hacc : flushAccepted E v with
  | true =>
    rw [commit_accepted E hacc] at h
    obtain rfl := (Prod.mk.inj h).2
    exact ⟨⟨⟨rfl, rfl⟩, rfl⟩, rfl⟩
  | false =>
    rw [commit_refused E hacc] at h
    cases (Prod.mk.inj h).1

/-- A connection goes on with its own device. -/
theorem statusStep_connected {l : StatusLabel} (hs : statusStep E w l = some w')
    (h : Connected w) : Connected w' ∧ w'.device.id = w.device.id := by
  cases l with
  | wait t =>
    obtain rfl := Option.some.inj hs
    exact ⟨⟨⟨⟨h.clean.pending, h.clean.loaded⟩, h.clean.db⟩,
      ⟨rfl, h.tracked.maintenance, h.tracked.rows⟩⟩, rfl⟩
  | message message =>
    obtain ⟨-, v, hhandle, hcommit⟩ := statusStep_message hs
    have hwithin : Within (tracked w.device.id false) (process E message) :=
      Within.bind (tracked_handle _ _ message) fun _ => Within.bind (tracked_flush _ _) fun _ =>
        Within.modify fun _ hv => ⟨hv.id, hv.maintenance, hv.rows⟩
    have hprocess : process E message w = (.ok (), w') := (bind_of_ok hhandle).trans hcommit
    have htracked := hwithin w h.tracked
    rw [hprocess] at htracked
    refine ⟨⟨(commit_returned hcommit).1, ?_⟩, htracked.id⟩
    rw [htracked.id]
    exact htracked

/-- Between two messages the row has the status of the instance. -/
theorem Connected.hasStatus_iff (h : Connected w) (st : DeviceStatus) :
    HasStatus w st ↔ w.device.status = st := by
  refine ⟨And.left, fun hst => ⟨hst, fun r hr hid => ?_⟩⟩
  rw [← h.clean.db] at hr
  rw [h.tracked.rows r hr hid, h.clean.loaded, hst]

/-- What a telemetry message of the run leaves, committed. -/
theorem statusStep_telemetry {l : StatusLabel} {data : Json} (hl : l.telemetry = some data)
    (hs : statusStep E w l = some w') (h : Connected w) : Assessed E data w w' := by
  cases l with
  | wait t => cases hl
  | message message =>
    obtain ⟨-, v, hhandle, hcommit⟩ := statusStep_message hs
    have hd : dispatched message = some (.telemetry, data) := by
      unfold StatusLabel.telemetry at hl
      dsimp only at hl
      split at hl
      · rename_i hd
        rw [hd, Option.some.inj hl]
      · cases hl
    rw [handle_dispatched hd] at hhandle
    have hdone := handleTelemetry_done h.clean hhandle
    rw [commit_settled E hdone.settled] at hcommit
    obtain rfl := (Prod.mk.inj hcommit).2
    exact { hdone with settled := ⟨hdone.settled.pending, hdone.settled.loaded⟩ }

/-- An alert opens when one is asked for that is not open. -/
theorem opening_iff (hm : w.device.maintenanceMode = false) (asks : AlertType → Prop) :
    Opening asks w ↔ ∃ ty, asks ty ∧ openAlerts w ty = [] :=
  exists_congr fun _ => and_congr_right fun _ => and_iff_right hm

/-- The alerts that are open after the message. -/
theorem Assessed.metricOpen_iff {data : Json} (h : Assessed E data w w')
    (hm : w.device.maintenanceMode = false) :
    MetricOpen w' ↔ ∃ ty : AlertType, ty.metric.isSome = true ∧ ¬ Clears data ty ∧
      (openAlerts w ty ≠ [] ∨ Asks E data ty) := by
  refine exists_congr fun ty => and_congr_right fun _ => ?_
  rw [Ne, h.opened, not_or, and_comm, not_and_or, not_not, and_iff_left hm]

/-- **One telemetry message**: the status is right exactly when the message opens an alert or leaves
    none open. -/
theorem Assessed.reflects_iff {data : Json} (h : Assessed E data w w')
    (hw : w.device.maintenanceMode = false) (hw' : Connected w') :
    Reflects w' ↔ OpensOrNone E data w := by
  rw [Reflects, OpensOrNone, hw'.hasStatus_iff, hw'.hasStatus_iff, ← h.metricOpen_iff hw, ← opening_iff hw]
  by_cases hop : Opening (Asks E data) w
  · have hst := h.raised hop
    rw [hst]
    exact ⟨fun hr => iff_of_true hop (by_contra fun hnot => (nomatch hr.2 hnot)),
      fun hiff => ⟨fun _ => rfl, fun hnot => absurd (hiff.mp hop) hnot⟩⟩
  · have hst := h.online hop
    rw [hst]
    exact ⟨fun hr => iff_of_false hop (fun hopen => (nomatch hr.1 hopen)),
      fun hiff => ⟨fun hopen => absurd (hiff.mpr hopen) hop, fun _ => rfl⟩⟩

/-! ## The connect sequence leads to such a connection -/

/-- The session that enters the receive loop. -/
theorem connectSequence_connected (h : w.Settled) (hm : w.device.maintenanceMode = false)
    (ws : Socket) (ip : String) :
    Connected (connectSequence E w.device.id ws ip w).2 := by
  obtain ⟨w₁, hrun₁, hclean, hdevice, hcom⟩ :=
    goOnline_committed (E := E) h w.device.id ws ip w.clock
  have hrun : connectSequence E w.device.id ws ip w =
      (sendConfig E w.device.id >>= fun _ => resendSent E w.device.id) w₁ := Act.bind_of_ok hrun₁
  obtain ⟨hclean', hdb, hsame⟩ := handing_sends (E := E) w.device.id w₁ hclean
  rw [← hrun] at hclean' hdb hsame
  have htracked : Tracked w.device.id false w₁ := by
    refine ⟨by rw [hdevice], by rw [hdevice]; exact hm, fun r hr hid => ?_⟩
    rw [hclean.db, hcom] at hr
    obtain ⟨row, -, rfl⟩ := List.mem_map.mp hr
    rw [hclean.loaded, hdevice]
    have hrow : row.id = w.device.id := by
      rw [connectedRow] at hid
      split at hid
      · assumption
      · exact hid
    rw [connectedRow, if_pos hrow]
  refine ⟨hclean', ?_⟩
  rw [hsame, htracked.id]
  refine ⟨by rw [hsame, htracked.id], by rw [hsame, htracked.maintenance], ?_⟩
  rw [hdb, hclean'.loaded, hsame, ← hclean.loaded]
  exact htracked.rows

/-- **The status reflects the open alerts** after every telemetry message of a run exactly when each of
    these messages opens an alert or leaves none open.

    Every telemetry message sets `online`, and only an alert that is inserted sets `alert`.  So the two agree
    exactly when the message inserts one, or none is open afterwards. -/
theorem status_reflects_iff {ls : List StatusLabel} (h : Connected w)
    (hrun : Run.exec (statusStep E) w ls = some w') :
    Run.After (statusStep E) (fun l u => l.telemetry.isSome = true → Reflects u) w ls ↔
      Run.Guarded (statusStep E) (fun u l => ∀ data, l.telemetry = some data → OpensOrNone E data u)
        w ls := by
  refine Run.after_iff_guarded (I := Connected) (fun s l s' hs hI => (statusStep_connected hs hI).1)
    (fun s l s' hs hI => ?_) hrun h
  have hI' := (statusStep_connected hs hI).1
  have hone : ∀ data, l.telemetry = some data → (Reflects s' ↔ OpensOrNone E data s) :=
    fun data hl => (statusStep_telemetry hl hs hI).reflects_iff hI.tracked.maintenance hI'
  constructor
  · intro hreflects data hl
    exact (hone data hl).mp (hreflects (by rw [hl]; rfl))
  · intro hopens hl
    obtain ⟨data, hdata⟩ := Option.isSome_iff_exists.mp hl
    exact (hone data hdata).mpr (hopens data hdata)

/-- A telemetry message that reports the CPU. -/
def cpuMessage (percent : Int) : Json :=
  .obj [("type", .str "telemetry"), ("data", .obj [("cpu_percent", .int percent)])]

/-- A device that has just connected, without an open alert of a metric. -/
theorem alertOpen_connected : Connected (alertOpen .crash) :=
  ⟨alertOpen_clean .crash, rfl, rfl, fun r hr _ => by
    obtain rfl := List.mem_singleton.mp hr
    rfl⟩

theorem cpuMessage_asks {percent : Int} (h : 90 < percent) :
    Asks Env.sample (.obj [("cpu_percent", .int percent)]) .highCpu := by
  refine ⟨_, percent, rfl, ⟨_, rfl, by simp [Json.number]⟩, ?_⟩
  show (90 : Rat) < percent
  exact_mod_cast h

/-- The first message over the threshold. -/
theorem status_reflects_first :
    ∃ w', Run.exec (statusStep Env.sample) (alertOpen .crash) [.message (cpuMessage 95)] = some w' ∧
      Run.After (statusStep Env.sample) (fun l u => l.telemetry.isSome = true → Reflects u)
        (alertOpen .crash) [.message (cpuMessage 95)] := by
  obtain ⟨w', hrun⟩ := Option.isSome_iff_exists.mp (show (Run.exec (statusStep Env.sample)
    (alertOpen .crash) [.message (cpuMessage 95)]).isSome = true by decide +kernel)
  refine ⟨w', hrun, (status_reflects_iff alertOpen_connected hrun).mpr ⟨fun data hdata => ?_,
    fun _ _ => trivial⟩⟩
  obtain rfl := Option.some.inj hdata
  have hasks : Asks Env.sample (.obj [("cpu_percent", .int 95)]) .highCpu :=
    cpuMessage_asks (by decide)
  refine iff_of_true ⟨.highCpu, hasks, rfl⟩ ⟨.highCpu, rfl, fun hclears => ?_, .inr hasks⟩
  obtain ⟨key, bound, x, hclear, hx, hlt⟩ := hclears
  obtain ⟨rfl, rfl⟩ := Prod.mk.inj (Option.some.inj hclear)
  have h95 : x = 95 := reports_unique hx ⟨_, rfl, by simp [Json.number]⟩
  rw [h95] at hlt
  norm_num at hlt

/-- The second one finds the alert open, and leaves the status `online`. -/
theorem status_forgets :
    ∃ w', Run.exec (statusStep Env.sample) (alertOpen .crash)
        [.message (cpuMessage 95), .message (cpuMessage 95)] = some w' ∧
      ¬ Run.After (statusStep Env.sample) (fun l u => l.telemetry.isSome = true → Reflects u)
        (alertOpen .crash) [.message (cpuMessage 95), .message (cpuMessage 95)] := by
  have heval : ((Run.exec (statusStep Env.sample) (alertOpen .crash)
      [.message (cpuMessage 95), .message (cpuMessage 95)]).any fun u =>
        u.device.status == .online && !(openAlerts u .highCpu).isEmpty) = true := by
    decide +kernel
  obtain ⟨w', hrun, hend⟩ := (Option.any_eq_true _ _).mp heval
  rw [Bool.and_eq_true, beq_iff_eq, Bool.not_eq_true', List.isEmpty_eq_false_iff] at hend
  refine ⟨w', hrun, fun hafter => ?_⟩
  have hreflects := Run.After.last hafter hrun rfl rfl
  have halert := (hreflects.1 ⟨.highCpu, rfl, hend.2⟩).1
  rw [hend.1] at halert
  cases halert

end Server

end Dtsys
