/-
  TELEMETRY, EVENTS AND NTP REPORTS.

  These handlers write a row and THEN judge it: `create_alert` may raise, and does so exactly when
  the device has two unresolved alerts of the type (`Dtsys.Server.AlertRuns`).  The row is flushed by
  then, so the tear-down commits it.

  One exact condition per handler: `TornTelemetry`, `TornEvent`, `TornNtp`.

  1. `spoils_reported_iff` — the common shape: a row is flushed, and `create_alert` follows; the tear-down
     commits a torn message when the row was accepted and the alert raised.
  2. Events come through a limiter first, which writes in Redis alone (`eventRateLimited_run`).
  3. NTP reports judge twice, and the first alert may have been raised when the second one fails; so the
     drift is in the condition as well (`NewDrift`).

  An offset is read by `float(...)`, and the message of the alert divides it by a thousand; either may raise
  for a number that is too large.
-/
import Dtsys.Server.AlertRuns
import Dtsys.Server.Teardown
import Mathlib.Tactic.NormNum

namespace Dtsys

namespace Server

variable {E : Env} {w : World}

/-! ## A row flushed before the alert -/

/-- A telemetry message whose metrics were stored when a duplicated alert stopped it. -/
def TornTelemetry (E : Env) (w : World) (data : Json) : Prop :=
  ∃ m, metricOf (E.uuid4 w.drawn) w.clock w.device.id data = .ok m ∧
    E.driver.acceptsRow (.metric m) = true ∧ Overloaded E w m

/-- A `Float` column of an accepted row holds nothing or a number. -/
theorem stored_of_accepted {r : Row} {v : Json} (hrow : E.driver.acceptsRow r = true)
    (hv : (nullable .float, v) ∈ r.columns) : Stored v := by
  have h : E.driver.accepts (nullable .float) v = true := List.all_eq_true.mp hrow _ hv
  rw [Driver.accepts, nullable] at h
  split at h
  · rename_i hn
    exact .inl hn
  · exact .inr (E.driver.float_number v h)

/-- The world after the flush of a metric. -/
def measured (w : World) (m : DeviceMetric) : World :=
  { w with
    db := { w.db with
      devices := w.db.devices.map (World.syncDevice (seen w.clock w.device) w.device)
      metrics := w.db.metrics ++ [m] }
    device := seen w.clock w.device
    loaded := seen w.clock w.device
    drawn := w.drawn + 1 }

/-- `_handle_telemetry` up to its flush. -/
theorem handleTelemetry_run (hc : w.Clean) {data : Json} {m : DeviceMetric}
    (hm : metricOf (E.uuid4 w.drawn) w.clock w.device.id data = .ok m) :
    (E.driver.acceptsRow (.metric m) = false →
      ∃ w', handleTelemetry E data w = (.error .db, w') ∧ flushAccepted E w' = false ∧
        w'.db = w.db ∧ w'.device.id = w.device.id) ∧
    (E.driver.acceptsRow (.metric m) = true →
      handleTelemetry E data w =
        (evaluateMetrics E m >>= fun _ => autoResolveAlerts E w.device.id data) (measured w m)) := by
  let w₁ : World := { w with
    drawn := w.drawn + 1, pending := w.pending ++ [.metric m], device := seen w.clock w.device }
  have hrun : handleTelemetry E data w = (flush E >>= fun _ => evaluateMetrics E m >>= fun _ =>
      autoResolveAlerts E w.device.id data) w₁ := by
    rw [handleTelemetry, Act.read_bind, newId_bind]
    simp only [now, Act.read_bind, hm, Act.ofExcept_ok_bind]
    rfl
  have hacc : flushAccepted E w₁ = E.driver.acceptsRow (.metric m) := by
    simp [w₁, flushAccepted, deviceAccepted, hc.pending, hc.loaded, seen]
  constructor
  · intro hrow
    rw [hrow] at hacc
    exact ⟨w₁, hrun.trans (Act.bind_of_error (flush_refused E hacc)), hacc, rfl, rfl⟩
  · intro hrow
    rw [hrow] at hacc
    rw [hrun, Act.bind_of_ok (flush_accepted E hacc)]
    have hw₂ : ({ w₁ with db := w₁.view, pending := [], loaded := w₁.device } : World) =
        measured w m := by
      simp [w₁, measured, World.view, hc.pending, hc.loaded, Db.insertAll, Db.insert]
    rw [hw₂]

/-- A telemetry message that goes through has evaluated its metric and then resolved alerts. -/
theorem handleTelemetry_passed (hc : w.Clean) {data : Json} {m : DeviceMetric} {w' : World}
    (hm : metricOf (E.uuid4 w.drawn) w.clock w.device.id data = .ok m)
    (hrun : handleTelemetry E data w = (.ok (), w')) :
    ∃ w₁, evaluateMetrics E m (measured w m) = (.ok (), w₁) ∧
      autoResolveAlerts E w.device.id data w₁ = (.ok (), w') := by
  obtain ⟨hrefused, haccepted⟩ := handleTelemetry_run (E := E) hc hm
  cases hrow : E.driver.acceptsRow (.metric m) with
  | false =>
    obtain ⟨w₁, herr, -⟩ := hrefused hrow
    rw [hrun] at herr
    cases herr
  | true =>
    rw [haccepted hrow] at hrun
    obtain ⟨_, w₁, hev, hres⟩ := Act.ok_of_bind hrun
    exact ⟨w₁, hev, hres⟩

/-- The metric carries the payload's values, so what the flush accepted can be compared. -/
theorem metricOf_fields {id d : Uuid} {t : Nat} {data : Json} {m : DeviceMetric}
    (h : metricOf id t d data = .ok m) : m.id = id ∧ ∃ fields, data = .obj fields ∧
      m.cpuPercent = (fields.lookup "cpu_percent").getD .null ∧
      m.ramPercent = (fields.lookup "ram_percent").getD .null ∧
      m.diskPercent = (fields.lookup "disk_percent").getD .null := by
  cases data with
  | obj fields =>
    simp only [metricOf, Json.get, bind, Except.bind, pure, Except.pure, Except.ok.injEq] at h
    subst h
    exact ⟨rfl, fields, rfl, rfl, rfl, rfl⟩
  | _ => simp [metricOf, Json.get, bind, Except.bind] at h

/-- Telemetry leaves a torn session exactly when its own condition says so. -/
theorem spoils_handleTelemetry_iff (hc : w.Clean) (hf : Fresh E w) (data : Json) :
    Spoils E (handleTelemetry E data) w ↔ TornTelemetry E w data := by
  rw [TornTelemetry]
  cases hm : metricOf (E.uuid4 w.drawn) w.clock w.device.id data with
  | error e =>
    have hsame : handleTelemetry E data w = (.error e, { w with drawn := w.drawn + 1 }) := by
      rw [handleTelemetry, Act.read_bind, newId_bind]
      simp only [now, Act.read_bind, hm, Act.ofExcept_error_bind]
    constructor
    · intro hs
      exact absurd hs (not_spoils_of_same hc (by rw [hsame]; rfl))
    · rintro ⟨m, hm', -⟩
      cases hm'
  | ok m =>
    obtain ⟨hrefused, haccepted⟩ := handleTelemetry_run (E := E) hc hm
    obtain ⟨hid, fields, rfl, hcpu, hram, hdisk⟩ := metricOf_fields hm
    cases hrow : E.driver.acceptsRow (.metric m) with
    | false =>
      obtain ⟨w', hrun, hacc, -⟩ := hrefused hrow
      constructor
      · intro hs
        exact absurd hs (not_spoils_of_refused hrun hacc)
      · rintro ⟨m', hm', hrow', -⟩
        cases hm'
        rw [hrow] at hrow'
        cases hrow'
    | true =>
      have scpu : Stored m.cpuPercent := stored_of_accepted hrow (by simp [Row.columns])
      have sram : Stored m.ramPercent := stored_of_accepted hrow (by simp [Row.columns])
      have sdisk : Stored m.diskPercent := stored_of_accepted hrow (by simp [Row.columns])
      have stemp : Stored m.cpuTemp := stored_of_accepted hrow (by simp [Row.columns])
      have hset : (measured w m).Settled := ⟨hc.pending, rfl⟩
      -- the flush of a metric touches no alert
      have hsame : Overloaded E (measured w m) m ↔ Overloaded E w m := Iff.rfl
      have hrun := haccepted hrow
      cases evaluateMetrics_judged (E := E) hset scpu sram sdisk stemp with
      | raised hbad e w' hev hk =>
        -- the metric has been flushed and `create_alert` raised: the commit keeps it
        rw [Act.bind_of_error hev] at hrun
        refine ⟨fun _ => ⟨m, rfl, hrow, hsame.mp hbad⟩, fun _ => ?_⟩
        refine spoils_of_row (r := .metric m) hf hid hrun hk.settled ?_
        show m ∈ w'.db.metrics
        rw [hk.metrics]
        exact List.mem_append_right _ (List.mem_singleton.mpr rfl)
      | returned hgood w' hev hk =>
        rw [Act.bind_of_ok hev] at hrun
        obtain ⟨w'', hres, -⟩ := autoResolveAlerts_run (E := E) hk.settled w.device.id
          (by rw [← hcpu]; exact scpu) (by rw [← hram]; exact sram) (by rw [← hdisk]; exact sdisk)
        refine ⟨fun hs => absurd hs (not_spoils_of_returns (hrun.trans hres)), ?_⟩
        rintro ⟨m', hm', -, hbad⟩
        cases hm'
        exact absurd (hsame.mpr hbad) hgood

/-- The verdict of the event rate limit. -/
def eventLimited (w : World) : Bool :=
  match w.redis with
  | none => false
  | some r => decide (100 < (r.incr (.eventRate w.device.id) w.clock).1)

/-- The limiter of the events writes in Redis alone. -/
theorem eventRateLimited_run (w : World) : ∃ redis,
    eventRateLimited w.device.id w = (.ok (eventLimited w), { w with redis := redis }) := by
  rw [eventRateLimited, eventLimited]
  cases h : w.redis with
  | none => exact ⟨w.redis, rfl⟩
  | some r => exact ⟨_, rfl⟩

/-- A crash report whose event was stored when duplicated crash alerts stopped it. -/
def TornEvent (E : Env) (w : World) (data : Json) : Prop :=
  eventLimited w = false ∧
    (∃ ev, eventOf E (E.uuid4 w.drawn) w.clock w.device.id data = .ok ev ∧
      E.driver.acceptsRow (.event ev) = true) ∧
    (∃ v, data.get "event_type" = .ok v ∧ v.isStr "crash" = true) ∧ Duplicated w .crash

theorem eventOf_fields {id d : Uuid} {t : Nat} {data : Json} {ev : Event}
    (h : eventOf E id t d data = .ok ev) : ev.id = id ∧ ∃ fields, data = .obj fields := by
  cases data with
  | obj fields =>
    simp only [eventOf, Json.get, Json.getD, bind, Except.bind, pure, Except.pure,
      Except.ok.injEq] at h
    subst h
    exact ⟨rfl, fields, rfl⟩
  | _ => simp [eventOf, Json.getD, bind, Except.bind] at h

/-- The world after the event has been flushed and published. -/
def reported (w : World) (ev : Event) (effs : List Effect) : World :=
  { w with db := { w.db with events := w.db.events ++ [ev] }, drawn := w.drawn + 1, effects := effs }

/-- `_handle_event` past its rate limit, up to the alert. -/
theorem reportEvent_run (h : w.Settled) {fields : List (String × Json)} {ev : Event}
    (hev : eventOf E (E.uuid4 w.drawn) w.clock w.device.id (.obj fields) = .ok ev) :
    (E.driver.acceptsRow (.event ev) = false → reportEvent E w.device (.obj fields) w =
      (.error .db, { w with drawn := w.drawn + 1, pending := w.pending ++ [.event ev] })) ∧
    (E.driver.acceptsRow (.event ev) = true →
      ∃ effs, reportEvent E w.device (.obj fields) w =
        (if ((fields.lookup "event_type").getD .null).isStr "crash" then
          createAlert E .crash .critical ("Crash detected: " ++ ev.message)
        else pure () : Server Unit) (reported w ev effs)) := by
  rw [reportEvent, newId_bind]
  simp only [now, Act.read_bind, hev, Act.ofExcept_ok_bind, add, Act.modify_bind]
  constructor
  · intro hrow
    exact Act.bind_of_error (flush_add_refused h hrow _)
  · intro hrow
    rw [Act.bind_of_ok (flush_add h hrow _)]
    simp only [emit, Act.modify_bind, Json.get, Act.ofExcept_ok_bind]
    exact ⟨_, rfl⟩

/-- An event that has been flushed stays if the alert of its crash raises. -/
theorem spoils_reported_iff (hc : w.Clean) (hf : Fresh E w) {x : Server Unit} {crash : Bool}
    {ev : Event} {redis : Option Redis} {effs : List Effect} {text : String}
    (hid : ev.id = E.uuid4 w.drawn)
    (hrun : x w = (if crash then createAlert E .crash .critical text else pure () : Server Unit)
      (reported { w with redis := redis } ev effs)) :
    Spoils E x w ↔ crash = true ∧ Duplicated w .crash := by
  have hset : (reported { w with redis := redis } ev effs).Settled := ⟨hc.pending, hc.loaded⟩
  cases crash with
  | false =>
    refine ⟨fun hs => absurd hs (not_spoils_of_returns hrun), ?_⟩
    rintro ⟨hcrash, -⟩
    cases hcrash
  | true =>
    rw [if_pos rfl] at hrun
    cases createAlert_judged (E := E) hset .crash .critical text with
    | raised hbad e w' hal hk =>
      -- the event has been flushed and `create_alert` raised: the commit keeps it
      refine ⟨fun _ => ⟨rfl, hbad⟩, fun _ => ?_⟩
      refine spoils_of_row (r := .event ev) hf hid (hrun.trans hal) hk.settled ?_
      show ev ∈ w'.db.events
      rw [hk.events]
      exact List.mem_append_right _ (List.mem_singleton.mpr rfl)
    | returned hgood w' hal hk =>
      refine ⟨fun hs => absurd hs (not_spoils_of_returns (hrun.trans hal)), ?_⟩
      rintro ⟨-, hbad⟩
      exact absurd hbad hgood

/-- `_handle_event`: past the rate limit the session is as it was. -/
theorem handleEvent_eq (w : World) (data : Json) : ∃ redis, handleEvent E data w =
    (if eventLimited w then pure () else reportEvent E w.device data : Server Unit)
      { w with redis := redis } := by
  obtain ⟨redis, hlimit⟩ := eventRateLimited_run w
  refine ⟨redis, ?_⟩
  rw [handleEvent, Act.read_bind, Act.bind_of_ok hlimit]

theorem spoils_handleEvent_iff (hc : w.Clean) (hf : Fresh E w) (data : Json) :
    Spoils E (handleEvent E data) w ↔ TornEvent E w data := by
  obtain ⟨redis, hrun⟩ := handleEvent_eq (E := E) w data
  have hset : ({ w with redis := redis } : World).Settled := ⟨hc.pending, hc.loaded⟩
  cases hl : eventLimited w with
  | true =>
    rw [hl] at hrun
    refine ⟨fun hs => absurd hs (not_spoils_of_returns hrun), ?_⟩
    rintro ⟨hl', -⟩
    rw [hl] at hl'
    cases hl'
  | false =>
    rw [hl, if_neg (by simp)] at hrun
    cases hev : eventOf E (E.uuid4 w.drawn) w.clock w.device.id data with
    | error e =>
      have hsame : handleEvent E data w =
          (.error e, { w with redis := redis, drawn := w.drawn + 1 }) := by
        rw [hrun]
        rw [reportEvent, newId_bind]
        simp only [now, Act.read_bind, hev, Act.ofExcept_error_bind]
      constructor
      · intro hs
        exact absurd hs (not_spoils_of_same hc (by rw [hsame]; rfl))
      · rintro ⟨-, ⟨ev, hev', -⟩, -⟩
        rw [hev] at hev'
        cases hev'
    | ok ev =>
      obtain ⟨hid, fields, rfl⟩ := eventOf_fields hev
      obtain ⟨hrefused, haccepted⟩ := reportEvent_run (E := E) hset hev
      -- A row that the database refuses leaves nothing; one that it takes may be followed by an alert that
      -- raises.
      cases hrow : E.driver.acceptsRow (.event ev) with
      | false =>
        have hacc := (flushAccepted_add hset (.event ev) (w.drawn + 1)).trans hrow
        constructor
        · intro hs
          exact absurd hs (not_spoils_of_refused (hrun.trans (hrefused hrow)) hacc)
        · rintro ⟨-, ⟨ev', hev', hrow'⟩, -⟩
          rw [hev] at hev'
          cases hev'
          rw [hrow] at hrow'
          cases hrow'
      | true =>
        obtain ⟨effs, hw'⟩ := haccepted hrow
        rw [spoils_reported_iff hc hf hid (hrun.trans hw')]
        constructor
        · rintro ⟨hcrash, hdup⟩
          exact ⟨hl, ⟨ev, hev, hrow⟩, ⟨_, rfl, hcrash⟩, hdup⟩
        · rintro ⟨-, -, ⟨v, hv, hcrash⟩, hdup⟩
          cases hv
          exact ⟨hcrash, hdup⟩

/-! ## NTP reports: two alerts in one message -/

/-- `abs` returns a number. -/
theorem abs_number {v a : Json} (h : v.abs = .ok a) : ∃ x, a.number = some x := by
  cases v <;> cases h <;> exact ⟨_, rfl⟩

/-- An offset that is read is a number in an object. -/
theorem ntpOffset_fields {data offset : Json} (h : ntpOffset data = .ok offset) :
    (∃ x, offset.number = some x) ∧ ∃ fields, data = .obj fields := by
  cases data with
  | obj fields =>
    simp only [ntpOffset, Json.getD, bind, Except.bind] at h
    exact ⟨abs_number h, fields, rfl⟩
  | _ => simp [ntpOffset, Json.getD, bind, Except.bind] at h

theorem toFloat_int (n : Int) : (Json.int n).toFloat =
    if Json.floatLimit ≤ |(n : Rat)| then .error .overflowError else .ok (n : Rat) := by
  unfold Json.toFloat Json.number
  rfl

theorem thousandth_int (n : Int) : (Json.int n).thousandth =
    if Json.floatLimit ≤ |(n : Rat) / 1000| then .error .overflowError
    else .ok ((n : Rat) / 1000) := by
  unfold Json.thousandth Json.number
  rfl

/-- A number that fits a double still does when divided by 1000. -/
theorem thousandth_of_toFloat {v : Json} {x : Rat} (h : v.toFloat = .ok x) :
    ∃ y, v.thousandth = .ok y := by
  cases v with
  | int n =>
    rw [toFloat_int] at h
    have hlt : ¬ Json.floatLimit ≤ |(n : Rat)| := by
      intro hle
      rw [if_pos hle] at h
      cases h
    have hlt' : ¬ Json.floatLimit ≤ |(n : Rat) / 1000| := by
      intro hle
      apply hlt
      rw [abs_div] at hle
      refine hle.trans (div_le_self (abs_nonneg _) ?_)
      norm_num
    refine ⟨(n : Rat) / 1000, ?_⟩
    rw [thousandth_int, if_neg hlt']
  | bool b => exact ⟨_, rfl⟩
  | float y => exact ⟨_, rfl⟩
  | null => cases h
  | str s => cases h
  | arr xs => cases h
  | obj fields => cases h

/-- `create_alert` returns, or raises without having written anything. -/
theorem createAlert_raises_iff (h : w.Settled) (ty : AlertType) (severity : Severity)
    (message : String) :
    ((∃ w', createAlert E ty severity message w = (.ok (), w')) ∨
      ∃ e, createAlert E ty severity message w = (.error e, w)) ∧
    ((∃ e, createAlert E ty severity message w = (.error e, w)) ↔ Duplicated w ty) := by
  have hjudged := createAlert_judged (E := E) h ty severity message
  have hrun := createAlert_run (E := E) h ty severity message
  cases hjudged with
  | raised hd e w' hr hk =>
    rw [hr] at hrun ⊢
    cases hrun with
    | raised _ => exact ⟨.inr ⟨_, rfl⟩, ⟨fun _ => hd, fun _ => ⟨_, rfl⟩⟩⟩
  | returned hd w' hr hk =>
    rw [hr]
    refine ⟨.inl ⟨w', rfl⟩, ⟨?_, fun hd' => absurd hd' hd⟩⟩
    rintro ⟨e, he⟩
    cases he

/-- `checkClock` returns, or raises without having written anything; it does raise when the clock
    is unusable, the message can be printed and its alert is duplicated. -/
theorem checkClock_run (h : w.Settled) (d : Uuid) (fields : List (String × Json)) (offset : Json) :
    ((∃ w', checkClock E d (.obj fields) offset w = (.ok (), w')) ∨
      ∃ e, checkClock E d (.obj fields) offset w = (.error e, w)) ∧
    ∀ y, offset.thousandth = .ok y →
      ((∃ e, checkClock E d (.obj fields) offset w = (.error e, w)) ↔
        ((fields.lookup "clock_usable").getD (.bool true)).truthy = false ∧
          Duplicated w .clockSkew) := by
  rw [checkClock, Json.getD, Act.ofExcept_ok_bind]
  cases husable : ((fields.lookup "clock_usable").getD (.bool true)).truthy with
  | true =>
    rw [if_pos rfl, now, Act.read_bind, execute_settled h]
    refine ⟨.inl ⟨_, rfl⟩, fun _ _ => ⟨?_, ?_⟩⟩
    · rintro ⟨e, he⟩
      cases he
    · rintro ⟨hf, -⟩
      cases hf
  | false =>
    rw [if_neg (by simp)]
    cases hth : offset.thousandth with
    | error e =>
      refine ⟨.inr ⟨e, rfl⟩, fun y hy => ?_⟩
      cases hy
    | ok y =>
      rw [Act.ofExcept_ok_bind]
      obtain ⟨hout, hiff⟩ := createAlert_raises_iff (E := E) h .clockSkew .warning
        ("System clock is off by ~" ++ fixedText 0 y ++ "s — run Sync Time to fix")
      refine ⟨hout, fun _ _ => hiff.trans ⟨fun hd => ⟨rfl, hd⟩, And.right⟩⟩

/-- An offset that makes a new drift alert. -/
def NewDrift (E : Env) (w : World) (offset : Json) : Prop :=
  (∃ x, offset.toFloat = .ok x ∧ E.settings.alertNtpOffsetMs.value < x) ∧
    w.device.maintenanceMode = false ∧ openAlerts w .timeDrift = []

/-- An NTP report that raised a drift alert when duplicated skew alerts stopped it. -/
def TornNtp (E : Env) (w : World) (data : Json) : Prop :=
  (∃ offset, ntpOffset data = .ok offset ∧ NewDrift E w offset) ∧
    (∃ usable, data.getD "clock_usable" (.bool true) = .ok usable ∧ usable.truthy = false) ∧
    Duplicated w .clockSkew

/-- The runs of `checkDrift`: the drift alert is there, or nothing was written. -/
theorem checkDrift_run (h : w.Settled) {offset : Json} (hnum : ∃ x, offset.number = some x) :
    (¬ NewDrift E w offset ∧ (checkDrift E offset w).2 = w) ∨
      (NewDrift E w offset ∧ ∃ w', checkDrift E offset w = (.ok (), w') ∧
        Kept [.timeDrift] w w' ∧ NewAlert E w w') := by
  obtain ⟨x, hx⟩ := hnum
  have hgt : offset.gt E.settings.alertNtpOffsetMs.value =
      .ok (decide (E.settings.alertNtpOffsetMs.value < x)) := by
    rw [Json.gt, hx]
  have hsame : ∀ y, offset.toFloat = .ok y → x = y := by
    intro y hf
    have hy := number_of_toFloat hf
    rw [hx] at hy
    exact Option.some.inj hy
  rw [checkDrift, hgt, Act.ofExcept_ok_bind]
  by_cases hover : E.settings.alertNtpOffsetMs.value < x
  · rw [if_pos (decide_eq_true hover)]
    cases hf : offset.toFloat with
    | error e =>
      refine .inl ⟨?_, rfl⟩
      rintro ⟨⟨y, hy, -⟩, -⟩
      rw [hf] at hy
      cases hy
    | ok y =>
      obtain rfl := hsame y hf
      rw [Act.ofExcept_ok_bind]
      have hrun := createAlert_run (E := E) h .timeDrift .warning
        ("NTP offset is " ++ fixedText 1 x ++ "ms (threshold: " ++
          E.settings.alertNtpOffsetMs.text ++ "ms)")
      -- create_alert raises over duplicates, skips where it should, or inserts.
      generalize createAlert E .timeDrift .warning _ w = r at hrun ⊢
      cases hrun with
      | raised hd =>
        refine .inl ⟨?_, rfl⟩
        rintro ⟨-, -, h0⟩
        have htwo := hd.2
        rw [h0] at htwo
        exact absurd htwo (by decide)
      | skipped hs =>
        refine .inl ⟨?_, rfl⟩
        rintro ⟨-, hm, h0⟩
        rcases hs with hs | hone
        · rw [hm] at hs
          cases hs
        · rw [h0] at hone
          cases hone
      | created hm h0 hk hn => exact .inr ⟨⟨⟨x, hf, hover⟩, hm, h0⟩, _, rfl, hk, hn⟩
  · rw [if_neg (by simp [hover])]
    refine .inl ⟨?_, rfl⟩
    rintro ⟨⟨y, hy, hlt⟩, -⟩
    rw [← hsame y hy] at hlt
    exact hover hlt

/-- A report without a new drift alert writes nothing that it does not finish. -/
theorem not_spoils_no_drift (hc : w.Clean) {x : Server Unit} {fields : List (String × Json)}
    {offset : Json} (hdrift : (checkDrift E offset w).2 = w)
    (hrun : x w = (checkDrift E offset >>= fun _ =>
      checkClock E w.device.id (.obj fields) offset) w) : ¬ Spoils E x w := by
  rcases hd : checkDrift E offset w with ⟨e | u, w₁⟩
  · rw [hd] at hdrift
    exact not_spoils_of_same hc (by rw [hrun, Act.bind_of_error hd]; exact congrArg _ hdrift)
  · rw [hd] at hdrift
    rw [show w₁ = w from hdrift] at hd
    rw [Act.bind_of_ok hd] at hrun
    rcases (checkClock_run (E := E) hc.toSettled w.device.id fields offset).1 with
      ⟨w₂, hret⟩ | ⟨e, hret⟩
    · exact not_spoils_of_returns (hrun.trans hret)
    · exact not_spoils_of_same hc (by rw [hrun, hret])

theorem spoils_handleNtp_iff (hc : w.Clean) (hf : Fresh E w) (data : Json) :
    Spoils E (handleNtp E data) w ↔ TornNtp E w data := by
  have hrun : handleNtp E data w = (Act.ofExcept (ntpOffset data) >>= fun offset =>
      checkDrift E offset >>= fun _ => checkClock E w.device.id data offset) w := rfl
  cases hoff : ntpOffset data with
  | error e =>
    rw [hoff] at hrun
    constructor
    · intro hs
      exact absurd hs (not_spoils_of_same hc (by rw [hrun]; rfl))
    · rintro ⟨⟨offset, hoff', -⟩, -⟩
      rw [hoff] at hoff'
      cases hoff'
  | ok offset =>
    obtain ⟨hnum, fields, rfl⟩ := ntpOffset_fields hoff
    rw [hoff, Act.ofExcept_ok_bind] at hrun
    rcases checkDrift_run (E := E) hc.toSettled hnum with ⟨hnot, hw⟩ | ⟨hnew, w', hdrift, hk, a, ha, hid⟩
    · -- nothing was written by the first half, and the second half writes nothing if it raises
      constructor
      · intro hs
        exact absurd hs (not_spoils_no_drift hc hw hrun)
      · rintro ⟨⟨offset', hoff', hnew⟩, -⟩
        rw [hoff] at hoff'
        cases hoff'
        exact absurd hnew hnot
    · rw [Act.bind_of_ok hdrift] at hrun
      obtain ⟨⟨x, hx, hlt⟩, hm, h0⟩ := hnew
      -- the drift alert was printed, so the offset divided by 1000 can be printed too
      obtain ⟨y, hy⟩ := thousandth_of_toFloat hx
      obtain ⟨hout, hiff⟩ := checkClock_run (E := E) hk.settled w.device.id fields offset
      have hdup : Duplicated w' .clockSkew ↔ Duplicated w .clockSkew := hk.duplicated_iff (by decide)
      constructor
      · rintro hs
        have hraised : ∃ e, checkClock E w.device.id (.obj fields) offset w' = (.error e, w') := by
          refine hout.resolve_left ?_
          rintro ⟨w₂, hret⟩
          exact not_spoils_of_returns (hrun.trans hret) hs
        obtain ⟨husable, hd⟩ := (hiff y hy).mp hraised
        exact ⟨⟨offset, hoff, ⟨x, hx, hlt⟩, hm, h0⟩, ⟨_, rfl, husable⟩, hdup.mp hd⟩
      · rintro ⟨-, ⟨usable, hu, hfalsy⟩, hd⟩
        cases hu
        obtain ⟨e, hret⟩ := (hiff y hy).mpr ⟨hfalsy, hdup.mpr hd⟩
        exact spoils_of_row (r := .alert a) hf hid (hrun.trans hret) hk.settled ha

end Server

end Dtsys
