/-
  WHAT A TELEMETRY MESSAGE MAKES OF THE ALERTS — raised by `evaluate_metrics`, cleared by
  `auto_resolve_alerts`, in this order, on the same message.

  The two functions do not share a table.  `evaluate_metrics` raises four types at the thresholds of
  the settings; `auto_resolve_alerts` clears three types at constants of its own, and its third type is
  `high_disk`, which nobody raises.  Nothing clears `high_temp`.

  Nor does every message come to its end.  The database may refuse the row of the metric, and
  `create_alert` raises where two alerts of a type are open already: then the checks that come later
  are not made, and `auto_resolve_alerts` is not called at all.

  1. `Asks`, `Clears` — what a message asks for, and what it clears;
  2. the session, one check after the other: `CheckDone` for `create_alert` that returns, `CheckVerdict`
     for one that may raise, `Swept` for one clause of `auto_resolve_alerts`;
  3. `handleTelemetry_done` — the open alerts and the status after a message that is handled;
  4. `handleTelemetry_open` — the open alerts after any message, handled or not;
  5. `alerts_clear_iff` — when no alert is left whose metric is below its level again.
-/
import Dtsys.Server.Offline
import Dtsys.Server.Raising

namespace Dtsys

/-- The message reports the number `x` under the key. -/
def Json.Reports (data : Json) (key : String) (x : Rat) : Prop :=
  ∃ v, data.get key = .ok v ∧ v.number = some x

/-- The metric an alert of `evaluate_metrics` is about. -/
def AlertType.metric : AlertType → Option String
  | .highCpu => some "cpu_percent"
  | .highRam => some "ram_percent"
  | .diskFull => some "disk_percent"
  | .highTemp => some "cpu_temp"
  | _ => none

/-- The threshold `evaluate_metrics` raises it at. -/
def Settings.threshold (s : Settings) : AlertType → Rat
  | .highCpu => s.alertCpuPercent.value
  | .highRam => s.alertRamPercent.value
  | .diskFull => s.alertDiskPercent.value
  | _ => s.alertCpuTempCelsius.value

/-- The level below which a metric alert is to be cleared. -/
def Settings.clearingLevel (s : Settings) : AlertType → Rat
  | .highCpu => 80
  | .highRam => 85
  | .diskFull => 90
  | _ => s.alertCpuTempCelsius.value

/-- The metric and the bound of the clause of `auto_resolve_alerts` for a type. -/
def AlertType.clearing : AlertType → Option (String × Rat)
  | .highCpu => some ("cpu_percent", 80)
  | .highRam => some ("ram_percent", 85)
  | .highDisk => some ("disk_percent", 90)
  | _ => none

namespace Server

variable {E : Env} {w w' w'' : World}

/-- `evaluate_metrics` requires an alert of the type for the message. -/
def Asks (E : Env) (data : Json) (ty : AlertType) : Prop :=
  ∃ key x, ty.metric = some key ∧ data.Reports key x ∧ E.settings.threshold ty < x

/-- `auto_resolve_alerts` resolves the alerts of the type. -/
def Clears (data : Json) (ty : AlertType) : Prop :=
  ∃ key bound x, ty.clearing = some (key, bound) ∧ data.Reports key x ∧ x < bound

/-! ## Checks -/

/-- One of the alerts asked for is a new one. -/
def Opening (asks : AlertType → Prop) (w : World) : Prop :=
  ∃ ty, asks ty ∧ w.device.maintenanceMode = false ∧ openAlerts w ty = []

/-- From `w` to `w'` the alerts asked for have been opened, unless the device is in maintenance; the
    status says whether one of them is new. -/
structure CheckDone (asks : AlertType → Prop) (w w' : World) : Prop where
  settled : w'.Settled
  id : w'.device.id = w.device.id
  maintenance : w'.device.maintenanceMode = w.device.maintenanceMode
  opened : ∀ ty, openAlerts w' ty = [] ↔
    openAlerts w ty = [] ∧ ¬ (asks ty ∧ w.device.maintenanceMode = false)
  raised : Opening asks w → w'.device.status = .alert
  kept : ¬ Opening asks w → w'.device.status = w.device.status

/-- No alert is asked for. -/
theorem CheckDone.none (h : w.Settled) {asks : AlertType → Prop} (hnot : ∀ ty, ¬ asks ty) :
    CheckDone asks w w where
  settled := h
  id := rfl
  maintenance := rfl
  opened ty := (and_iff_left fun hasks => hnot ty hasks.1).symm
  raised := fun ⟨ty, hasks, _⟩ => absurd hasks (hnot ty)
  kept _ := rfl

/-- One check after the other. -/
theorem CheckDone.trans {a b : AlertType → Prop} (h : CheckDone a w w')
    (h' : CheckDone b w' w'') : CheckDone (fun ty => a ty ∨ b ty) w w'' where
  settled := h'.settled
  id := h'.id.trans h.id
  maintenance := h'.maintenance.trans h.maintenance
  opened ty := by
    rw [h'.opened, h.opened, h.maintenance, or_and_right, not_or, and_assoc]
  raised := by
    rintro ⟨ty, hasks, hm, h0⟩
    by_cases ha : a ty
    · -- the second check leaves the status, or sets it again
      have hst := h.raised ⟨ty, ha, hm, h0⟩
      by_cases hb : Opening b w'
      · exact h'.raised hb
      · rw [h'.kept hb]
        exact hst
    · exact h'.raised ⟨ty, hasks.resolve_left ha, h.maintenance.trans hm,
        (h.opened ty).mpr ⟨h0, fun hc => ha hc.1⟩⟩
  kept hnot := by
    have ha : ¬ Opening a w := fun ⟨ty, hasks, hrest⟩ => hnot ⟨ty, .inl hasks, hrest⟩
    have hb : ¬ Opening b w' := fun ⟨ty, hasks, hm, h0⟩ =>
      hnot ⟨ty, .inr hasks, h.maintenance.symm.trans hm, ((h.opened ty).mp h0).1⟩
    rw [h'.kept hb, h.kept ha]

/-- The same alerts are asked for. -/
theorem CheckDone.congr {a b : AlertType → Prop} (h : CheckDone a w w') (hab : ∀ ty, a ty ↔ b ty) :
    CheckDone b w w' := by
  obtain rfl : a = b := funext fun ty => propext (hab ty)
  exact h

theorem openAlerts_inserted (ty : AlertType) (severity : Severity) (message : String)
    (ts : List PushToken) (effs : List Effect) :
    openAlerts (notified (inserted w (newAlert E w ty severity message)) ts effs) ty =
      openAlerts w ty ++ [newAlert E w ty severity message] := by
  have hun : unresolved w.device.id ty (newAlert E w ty severity message) = true := by
    simp [unresolved, newAlert]
  show (w.db.alerts ++ [newAlert E w ty severity message]).filter (unresolved w.device.id ty) = _
  rw [List.filter_append, List.filter_cons_of_pos hun]
  rfl

/-- `create_alert`, when it is called. -/
theorem createAlert_check (h : w.Settled) {ty : AlertType} {severity : Severity} {message : String}
    (hrun : createAlert E ty severity message w = (.ok (), w')) : CheckDone (· = ty) w w' := by
  rcases createAlert_returned h hrun with ⟨hm, h0, ts, effs, rfl⟩ | ⟨hfree, rfl⟩
  · have hkept : Kept [ty] w (inserted w (newAlert E w ty severity message)) :=
      inserted_kept (a := newAlert E w ty severity message) h
    refine ⟨notified_settled hkept.settled ts effs, rfl, rfl, fun ty' => ?_, fun _ => rfl,
      fun hnot => absurd ⟨ty, rfl, hm, h0⟩ hnot⟩
    by_cases hty : ty' = ty
    · subst hty
      rw [openAlerts_inserted, h0]
      exact ⟨fun hnil => (nomatch hnil), fun hnil => absurd ⟨rfl, hm⟩ hnil.2⟩
    · show openAlerts (inserted w (newAlert E w ty severity message)) ty' = [] ↔ _
      rw [hkept.alerts ty' (by simpa using hty)]
      exact (and_iff_left fun hc => hty hc.1).symm
  · refine ⟨h, rfl, rfl, fun ty' => ?_, ?_, fun _ => rfl⟩
    · refine ⟨fun h0 => ⟨h0, ?_⟩, And.left⟩
      rintro ⟨rfl, hm⟩
      exact hfree ⟨hm, h0⟩
    · rintro ⟨ty', rfl, hm, h0⟩
      exact absurd ⟨hm, h0⟩ hfree

/-- One clause of `evaluate_metrics`. -/
theorem checkThreshold_check (h : w.Settled) {v : Json} {bound : Threshold} {ty : AlertType}
    {severity : Severity} {text : String → String}
    (hrun : checkThreshold E v bound ty severity text w = (.ok (), w')) :
    CheckDone (fun ty' => ty' = ty ∧ Exceeds v bound.value) w w' := by
  rcases checkThreshold_returned hrun with ⟨hover, message, hrun⟩ | ⟨hnot, rfl⟩
  · exact (createAlert_check h hrun).congr fun ty' => (and_iff_left hover).symm
  · exact .none h fun ty' hc => hnot hc.2

/-- `evaluate_metrics`. -/
theorem evaluateMetrics_check (h : w.Settled) {m : DeviceMetric}
    (hrun : evaluateMetrics E m w = (.ok (), w')) : CheckDone (Over E m) w w' := by
  obtain ⟨_, w₁, hcpu, hrun⟩ := Act.ok_of_bind hrun
  obtain ⟨_, w₂, hram, hrun⟩ := Act.ok_of_bind hrun
  obtain ⟨_, w₃, hdisk, htemp⟩ := Act.ok_of_bind hrun
  have h₁ := checkThreshold_check h hcpu
  have h₂ := checkThreshold_check h₁.settled hram
  have h₃ := checkThreshold_check h₂.settled hdisk
  have h₄ := checkThreshold_check h₃.settled htemp
  refine (((h₁.trans h₂).trans h₃).trans h₄).congr fun ty => ?_
  cases ty <;> simp [Over]

/-! ## Checks that may raise -/

/-- One check of a type: it raises where two alerts of the type are open, and has then done nothing;
    else it returns, and other types are left alone. -/
inductive CheckVerdict (asks : AlertType → Prop) (ty : AlertType) (x : Server Unit) (w : World) : Prop
  | raised (hasks : asks ty) (hdup : Duplicated w ty) (e : PyErr) (hrun : x w = (.error e, w))
  | returned (hnot : ¬ (asks ty ∧ Duplicated w ty)) (w' : World) (hrun : x w = (.ok (), w'))
      (hkept : Kept [ty] w w') (hdone : CheckDone (fun ty' => ty' = ty ∧ asks ty) w w')

/-- A check that raises leaves everything as it was. -/
theorem checkThreshold_raised (h : w.Settled) {v : Json} {bound : Threshold} {ty : AlertType}
    {severity : Severity} {text : String → String} {e : PyErr}
    (hrun : checkThreshold E v bound ty severity text w = (.error e, w')) : w' = w := by
  rw [checkThreshold] at hrun
  split at hrun
  · cases hrun
  · cases hgt : v.gt bound.value with
    | error e =>
      rw [hgt, Act.ofExcept_error_bind] at hrun
      exact (Prod.mk.inj hrun).2.symm
    | ok exceeded =>
      rw [hgt, Act.ofExcept_ok_bind] at hrun
      split at hrun
      · cases hfloat : v.toFloat with
        | error e =>
          rw [hfloat, Act.ofExcept_error_bind] at hrun
          exact (Prod.mk.inj hrun).2.symm
        | ok x =>
          rw [hfloat, Act.ofExcept_ok_bind] at hrun
          have hcases := createAlert_run (E := E) h ty severity (text (fixedText 1 x))
          rw [hrun] at hcases
          cases hcases
          rfl
      · cases hrun

/-- **A check**, whether it raises or not. -/
theorem checkThreshold_verdict (h : w.Settled) {asks : AlertType → Prop} {v : Json}
    {bound : Threshold} {ty : AlertType} (hasks : asks ty ↔ Exceeds v bound.value) (hv : Stored v)
    (severity : Severity) (text : String → String) :
    CheckVerdict asks ty (checkThreshold E v bound ty severity text) w := by
  cases checkThreshold_judged (E := E) h hv bound ty severity text with
  | raised hbad e w' hrun hk =>
    obtain rfl := checkThreshold_raised h hrun
    exact .raised (hasks.mpr hbad.1) hbad.2 e hrun
  | returned hgood w' hrun hk =>
    refine .returned (fun hbad => hgood ⟨hasks.mp hbad.1, hbad.2⟩) w' hrun hk ?_
    exact (checkThreshold_check h hrun).congr fun ty' => and_congr_right fun _ => hasks.symm

/-- The checks are made in order, and the check of `ty` is come to. -/
def ComesTo (asks : AlertType → Prop) (w : World) : List AlertType → AlertType → Prop
  | [], _ => False
  | first :: rest, ty => ty = first ∨ (¬ (asks first ∧ Duplicated w first) ∧ ComesTo asks w rest ty)

/-- What several checks in order leave of the alerts, and whether one of them raises. -/
structure ChecksRun (asks : AlertType → Prop) (tys : List AlertType) (w : World)
    (r : Except PyErr Unit × World) : Prop where
  settled : r.2.Settled
  id : r.2.device.id = w.device.id
  opened : ∀ ty, openAlerts r.2 ty = [] ↔ openAlerts w ty = [] ∧
    ¬ (ComesTo asks w tys ty ∧ asks ty ∧ w.device.maintenanceMode = false)
  raised : (∃ ty ∈ tys, asks ty ∧ Duplicated w ty) ↔ r.1.isOk = false

theorem Duplicated.opened {ty : AlertType} (h : Duplicated w ty) : openAlerts w ty ≠ [] := by
  intro h0
  have htwo := h.2
  rw [h0] at htwo
  exact absurd htwo (by decide)

/-- What a check leaves of other types decides whether the next ones are come to. -/
theorem ComesTo.of_kept {asks : AlertType → Prop} {first : AlertType} (hk : Kept [first] w w') :
    ∀ {tys : List AlertType} {ty : AlertType}, first ∉ tys →
      (ComesTo asks w' tys ty ↔ ComesTo asks w tys ty) := by
  intro tys
  induction tys with
  | nil => exact fun _ => Iff.rfl
  | cons t ts ih =>
    intro ty hfirst
    have ht : t ∉ [first] := fun h => hfirst (List.mem_singleton.mp h ▸ List.mem_cons_self)
    rw [ComesTo, ComesTo, hk.duplicated_iff ht, ih fun h => hfirst (List.mem_cons_of_mem _ h)]

/-- The first check has raised: no other is made. -/
theorem ChecksRun.of_raised (h : w.Settled) {asks : AlertType → Prop} {first : AlertType}
    {rest : List AlertType} (hasks : asks first) (hdup : Duplicated w first) (e : PyErr) :
    ChecksRun asks (first :: rest) w (.error e, w) where
  settled := h
  id := rfl
  opened ty := by
    refine (and_iff_left_of_imp ?_).symm
    rintro h0 ⟨rfl | hreached, -⟩
    · exact hdup.opened h0
    · exact hreached.1 ⟨hasks, hdup⟩
  raised := iff_of_true ⟨first, List.mem_cons_self, hasks, hdup⟩ rfl

/-- The first check has returned, and the rest have been made from there. -/
theorem ChecksRun.of_returned {asks : AlertType → Prop} {first : AlertType} {rest : List AlertType}
    {r : Except PyErr Unit × World} (hfirst : first ∉ rest) (hnot : ¬ (asks first ∧ Duplicated w first))
    (hk : Kept [first] w w') (hdone : CheckDone (fun ty => ty = first ∧ asks first) w w')
    (hrest : ChecksRun asks rest w' r) : ChecksRun asks (first :: rest) w r where
  settled := hrest.settled
  id := hrest.id.trans hdone.id
  opened ty := by
    rw [hrest.opened, hdone.opened, ComesTo.of_kept hk hfirst, hdone.maintenance, ComesTo, and_assoc,
      ← not_or]
    refine and_congr_right fun _ => not_congr ?_
    constructor
    · rintro (⟨⟨rfl, hasks⟩, hm⟩ | ⟨hreached, hasks, hm⟩)
      · exact ⟨.inl rfl, hasks, hm⟩
      · exact ⟨.inr ⟨hnot, hreached⟩, hasks, hm⟩
    · rintro ⟨rfl | ⟨-, hreached⟩, hasks, hm⟩
      · exact .inl ⟨⟨rfl, hasks⟩, hm⟩
      · exact .inr ⟨hreached, hasks, hm⟩
  raised := by
    rw [← hrest.raised, List.exists_mem_cons_iff, or_iff_right hnot]
    have hne : ∀ ty ∈ rest, ty ∉ [first] := fun ty hty h => hfirst (List.mem_singleton.mp h ▸ hty)
    constructor
    · rintro ⟨ty, hty, hasks, hdup⟩
      exact ⟨ty, hty, hasks, (hk.duplicated_iff (hne ty hty)).mpr hdup⟩
    · rintro ⟨ty, hty, hasks, hdup⟩
      exact ⟨ty, hty, hasks, (hk.duplicated_iff (hne ty hty)).mp hdup⟩

/-- One check, and then the others. -/
theorem CheckVerdict.bind (h : w.Settled) {asks : AlertType → Prop} {first : AlertType}
    {rest : List AlertType} {x y : Server Unit} (hx : CheckVerdict asks first x w) (hfirst : first ∉ rest)
    (hy : ∀ w', w'.Settled → ChecksRun asks rest w' (y w')) :
    ChecksRun asks (first :: rest) w ((x >>= fun _ => y) w) := by
  cases hx with
  | raised hasks hdup e hrun =>
    rw [Act.bind_of_error hrun]
    exact .of_raised h hasks hdup e
  | returned hnot w' hrun hk hdone =>
    rw [Act.bind_of_ok hrun]
    exact .of_returned hfirst hnot hk hdone (hy w' hk.settled)

/-- The last check. -/
theorem CheckVerdict.last (h : w.Settled) {asks : AlertType → Prop} {ty : AlertType} {x : Server Unit}
    (hx : CheckVerdict asks ty x w) : ChecksRun asks [ty] w (x w) := by
  have hnone : ∀ w' : World, w'.Settled → ChecksRun asks [] w' (.ok (), w') := fun w' h' =>
    ⟨h', rfl, fun ty => (and_iff_left fun hc => hc.1).symm,
      iff_of_false (fun ⟨_, hty, _⟩ => absurd hty List.not_mem_nil) Bool.true_eq_false_eq_False⟩
  cases hx with
  | raised hasks hdup e hrun =>
    rw [hrun]
    exact .of_raised h hasks hdup e
  | returned hnot w' hrun hk hdone =>
    rw [hrun]
    exact .of_returned List.not_mem_nil hnot hk hdone (hnone w' hk.settled)

/-- The types of `evaluate_metrics`, in its order. -/
def metricTypes : List AlertType := [.highCpu, .highRam, .diskFull, .highTemp]

/-- `evaluate_metrics`, whether it returns or not. -/
theorem evaluateMetrics_checked (h : w.Settled) {m : DeviceMetric} (hcpu : Stored m.cpuPercent)
    (hram : Stored m.ramPercent) (hdisk : Stored m.diskPercent) (htemp : Stored m.cpuTemp) :
    ChecksRun (Over E m) metricTypes w (evaluateMetrics E m w) := by
  rw [evaluateMetrics]
  refine (checkThreshold_verdict h Iff.rfl hcpu _ _).bind h (by decide) fun w₁ h₁ => ?_
  refine (checkThreshold_verdict h₁ Iff.rfl hram _ _).bind h₁ (by decide) fun w₂ h₂ => ?_
  refine (checkThreshold_verdict h₂ Iff.rfl hdisk _ _).bind h₂ (by decide) fun w₃ h₃ => ?_
  exact (checkThreshold_verdict h₃ Iff.rfl htemp _ _).last h₃

/-! ## Sweeps -/

/-- From `w` to `w'` the alerts of some types have been resolved. -/
structure Swept (clears : AlertType → Prop) (w w' : World) : Prop where
  settled : w'.Settled
  device : w'.device = w.device
  opened : ∀ ty, openAlerts w' ty = [] ↔ openAlerts w ty = [] ∨ clears ty

theorem Swept.none (h : w.Settled) {clears : AlertType → Prop} (hnot : ∀ ty, ¬ clears ty) :
    Swept clears w w :=
  ⟨h, rfl, fun ty => (or_iff_left (hnot ty)).symm⟩

theorem Swept.trans {a b : AlertType → Prop} (h : Swept a w w') (h' : Swept b w' w'') :
    Swept (fun ty => a ty ∨ b ty) w w'' where
  settled := h'.settled
  device := h'.device.trans h.device
  opened ty := by rw [h'.opened, h.opened, or_assoc]

theorem Swept.congr {a b : AlertType → Prop} (h : Swept a w w') (hab : ∀ ty, a ty ↔ b ty) :
    Swept b w w' := by
  obtain rfl : a = b := funext fun ty => propext (hab ty)
  exact h

/-- What is left open when the alerts of one type are resolved. -/
theorem openAlerts_resolve (w : World) (ty ty' : AlertType) (t : Nat) :
    openAlerts { w with db := resolveAlerts w.device.id ty t w.db } ty' = [] ↔
      openAlerts w ty' = [] ∨ ty' = ty := by
  let resolve := fun a : Alert =>
    if unresolved w.device.id ty a then { a with isResolved := true, resolvedAt := some t } else a
  have hresolve : ∀ a, unresolved w.device.id ty' (resolve a) = true ↔
      unresolved w.device.id ty' a = true ∧ ty' ≠ ty := by
    intro a
    by_cases ha : unresolved w.device.id ty a = true
    · simp only [resolve, if_pos ha]
      simp only [unresolved, Bool.and_eq_true, beq_iff_eq] at ha ⊢
      refine ⟨fun hun => absurd hun.2 Bool.false_ne_true, fun hun => absurd ?_ hun.2⟩
      exact hun.1.1.2.symm.trans ha.1.2
    · simp only [resolve, if_neg ha]
      refine ⟨fun hun => ⟨hun, ?_⟩, And.left⟩
      rintro rfl
      exact ha hun
  show (w.db.alerts.map resolve).filter (unresolved w.device.id ty') = [] ↔ _
  rw [openAlerts, List.filter_eq_nil_iff, List.filter_eq_nil_iff]
  constructor
  · intro hnone
    by_cases hty : ty' = ty
    · exact .inr hty
    · exact .inl fun a ha hun => hnone _ (List.mem_map_of_mem ha) ((hresolve a).mpr ⟨hun, hty⟩)
  · intro hnone b hb
    obtain ⟨a, ha, rfl⟩ := List.mem_map.mp hb
    rw [hresolve]
    rintro ⟨hun, hty⟩
    exact hnone.elim (fun hall => hall a ha hun) hty

/-- A number below the bound. -/
def Below (v : Json) (bound : Rat) : Prop := ∃ x, v.number = some x ∧ x < bound

/-- One clause of `auto_resolve_alerts`. -/
theorem autoResolve_sweep (h : w.Settled) {v : Json} {bound : Rat} {ty : AlertType} {t : Nat}
    (hrun : autoResolve E w.device.id v bound ty t w = (.ok (), w')) :
    Swept (fun ty' => ty' = ty ∧ Below v bound) w w' := by
  rw [autoResolve] at hrun
  by_cases hnone : v.isNone = true
  · rw [if_pos hnone] at hrun
    obtain rfl : w = w' := (Prod.mk.inj hrun).2
    refine .none h fun ty' => ?_
    rintro ⟨-, x, hx, -⟩
    cases v <;> simp_all [Json.isNone, Json.number]
  · rw [if_neg hnone] at hrun
    obtain ⟨below, hlt, hrun⟩ := Act.ok_of_ofExcept hrun
    rw [Json.lt] at hlt
    cases hnum : v.number with
    | none =>
      rw [hnum] at hlt
      cases hlt
    | some x =>
      rw [hnum] at hlt
      obtain rfl : decide (x < bound) = below := Except.ok.inj hlt
      by_cases hbelow : x < bound
      · rw [if_pos (decide_eq_true hbelow), execute_settled h] at hrun
        obtain rfl : _ = w' := (Prod.mk.inj hrun).2
        refine ⟨⟨h.pending, h.loaded⟩, rfl, fun ty' => ?_⟩
        rw [openAlerts_resolve]
        exact or_congr_right (and_iff_left ⟨x, hnum, hbelow⟩).symm
      · rw [if_neg (by simp [hbelow])] at hrun
        obtain rfl : w = w' := (Prod.mk.inj hrun).2
        refine .none h fun ty' => ?_
        rintro ⟨-, y, hy, hlt⟩
        rw [hnum] at hy
        obtain rfl := Option.some.inj hy
        exact hbelow hlt

/-- A message reports the number that it has under the key. -/
theorem reports_iff {data v : Json} {key : String} (h : data.get key = .ok v) (x : Rat) :
    data.Reports key x ↔ v.number = some x := by
  constructor
  · rintro ⟨v', hv', hx⟩
    rw [h] at hv'
    obtain rfl := Except.ok.inj hv'
    exact hx
  · exact fun hx => ⟨v, h, hx⟩

/-- `auto_resolve_alerts`. -/
theorem autoResolveAlerts_sweep (h : w.Settled) {data : Json}
    (hrun : autoResolveAlerts E w.device.id data w = (.ok (), w')) : Swept (Clears data) w w' := by
  rw [autoResolveAlerts, now, Act.read_bind] at hrun
  obtain ⟨cpu, hgetCpu, hrun⟩ := Act.ok_of_ofExcept hrun
  obtain ⟨_, w₁, hcpu, hrun⟩ := Act.ok_of_bind hrun
  obtain ⟨ram, hgetRam, hrun⟩ := Act.ok_of_ofExcept hrun
  obtain ⟨_, w₂, hram, hrun⟩ := Act.ok_of_bind hrun
  obtain ⟨disk, hgetDisk, hdisk⟩ := Act.ok_of_ofExcept hrun
  have h₁ := autoResolve_sweep h hcpu
  rw [← h₁.device] at hram
  have h₂ := autoResolve_sweep h₁.settled hram
  rw [← h₁.device, ← h₂.device] at hdisk
  refine ((h₁.trans h₂).trans (autoResolve_sweep h₂.settled hdisk)).congr fun ty => ?_
  unfold Clears Below
  cases ty <;> simp [AlertType.clearing, reports_iff hgetCpu, reports_iff hgetRam, reports_iff hgetDisk]

/-! ## The message -/

/-- From `w` to `w'` a telemetry message has been handled. -/
structure Assessed (E : Env) (data : Json) (w w' : World) : Prop where
  settled : w'.Settled
  id : w'.device.id = w.device.id
  maintenance : w'.device.maintenanceMode = w.device.maintenanceMode
  opened : ∀ ty, openAlerts w' ty = [] ↔
    (openAlerts w ty = [] ∧ ¬ (Asks E data ty ∧ w.device.maintenanceMode = false)) ∨ Clears data ty
  raised : Opening (Asks E data) w → w'.device.status = .alert
  online : ¬ Opening (Asks E data) w → w'.device.status = .online

/-- The metrics that are over their thresholds are those that the message reports so. -/
theorem over_iff_asks {m : DeviceMetric} {id d : Uuid} {t : Nat} {data : Json}
    (hm : metricOf id t d data = .ok m) (ty : AlertType) : Over E m ty ↔ Asks E data ty := by
  obtain ⟨-, fields, rfl, -⟩ := metricOf_fields hm
  obtain ⟨m', hm', hcpu, hram, hdisk, htemp⟩ := metricOf_obj id t d fields
  rw [hm] at hm'
  obtain rfl := Except.ok.inj hm'
  have hget : ∀ key, (Json.obj fields).get key = .ok (field fields key) := fun _ => rfl
  rw [Asks]
  cases ty <;> simp [Over, Exceeds, AlertType.metric, Settings.threshold, reports_iff (hget _), *]

/-- **What a telemetry message makes of the alerts and the status**, when it is handled to its end. -/
theorem handleTelemetry_done (hc : w.Clean) {data : Json}
    (hrun : handleTelemetry E data w = (.ok (), w')) : Assessed E data w w' := by
  cases hm : metricOf (E.uuid4 w.drawn) w.clock w.device.id data with
  | error e =>
    have herr : handleTelemetry E data w = (.error e, { w with drawn := w.drawn + 1 }) := by
      rw [handleTelemetry, Act.read_bind, newId_bind]
      simp only [now, Act.read_bind, hm, Act.ofExcept_error_bind]
    rw [hrun] at herr
    cases herr
  | ok m =>
    obtain ⟨w₁, hev, hres⟩ := handleTelemetry_passed hc hm hrun
    have hset : (measured w m).Settled := ⟨hc.pending, rfl⟩
    have hcheck := (evaluateMetrics_check hset hev).congr (over_iff_asks hm)
    rw [show w.device.id = w₁.device.id from hcheck.id.symm] at hres
    have hsweep := autoResolveAlerts_sweep hcheck.settled hres
    refine ⟨hsweep.settled, ?_, ?_, fun ty => ?_, fun hop => ?_, fun hop => ?_⟩
    · rw [hsweep.device]
      exact hcheck.id
    · rw [hsweep.device]
      exact hcheck.maintenance
    · rw [hsweep.opened, hcheck.opened]
      rfl
    · rw [hsweep.device]
      exact hcheck.raised hop
    · rw [hsweep.device]
      exact hcheck.kept hop

/-! ## Any message -/

/-- The database takes the row of the metric. -/
def RowTaken (E : Env) (data : Json) (w : World) : Prop :=
  ∃ m, metricOf (E.uuid4 w.drawn) w.clock w.device.id data = .ok m ∧
    E.driver.acceptsRow (.metric m) = true

/-- The message opens an alert of the type itself: its metric is over the threshold, outside of
    maintenance, and no check before has raised. -/
def Raised (E : Env) (data : Json) (w : World) (ty : AlertType) : Prop :=
  RowTaken E data w ∧ ComesTo (Asks E data) w metricTypes ty ∧ Asks E data ty ∧
    w.device.maintenanceMode = false

/-- The handler comes to `auto_resolve_alerts`: no metric is over its threshold with two alerts of
    its type open. -/
def ComesToClearing (E : Env) (data : Json) (w : World) : Prop :=
  RowTaken E data w ∧ ¬ ∃ ty ∈ metricTypes, Asks E data ty ∧ Duplicated w ty

/-- **The open alerts after a telemetry message**, whether it has been handled to its end or not. -/
theorem handleTelemetry_open (hc : w.Clean) (data : Json) (ty : AlertType) :
    openAlerts (handleTelemetry E data w).2 ty = [] ↔
      (openAlerts w ty = [] ∧ ¬ Raised E data w ty) ∨ (ComesToClearing E data w ∧ Clears data ty) := by
  cases hm : metricOf (E.uuid4 w.drawn) w.clock w.device.id data with
  | error e =>
    have hrun : handleTelemetry E data w = (.error e, { w with drawn := w.drawn + 1 }) := by
      rw [handleTelemetry, Act.read_bind, newId_bind]
      simp only [now, Act.read_bind, hm, Act.ofExcept_error_bind]
    have hnot : ¬ RowTaken E data w := by
      rintro ⟨m, hm', -⟩
      rw [hm] at hm'
      cases hm'
    rw [hrun, or_iff_left fun h => hnot h.1.1, and_iff_left fun h => hnot h.1]
    rfl
  | ok m =>
    obtain ⟨hrefused, haccepted⟩ := handleTelemetry_run (E := E) hc hm
    cases hrow : E.driver.acceptsRow (.metric m) with
    | false =>
      obtain ⟨w₁, hrun, -, hdb, hid⟩ := hrefused hrow
      have hnot : ¬ RowTaken E data w := by
        rintro ⟨m', hm', hrow'⟩
        rw [hm] at hm'
        cases hm'
        rw [hrow] at hrow'
        cases hrow'
      have hsame : openAlerts w₁ ty = openAlerts w ty := by
        rw [openAlerts, openAlerts, hdb, hid]
      rw [hrun, or_iff_left fun h => hnot h.1.1, and_iff_left fun h => hnot h.1, hsame]
    | true =>
      have htaken : RowTaken E data w := ⟨m, hm, hrow⟩
      have scpu : Stored m.cpuPercent := stored_of_accepted hrow (by simp [Row.columns])
      have sram : Stored m.ramPercent := stored_of_accepted hrow (by simp [Row.columns])
      have sdisk : Stored m.diskPercent := stored_of_accepted hrow (by simp [Row.columns])
      have stemp : Stored m.cpuTemp := stored_of_accepted hrow (by simp [Row.columns])
      have hset : (measured w m).Settled := ⟨hc.pending, rfl⟩
      have hover : Over E m = Asks E data := funext fun ty => propext (over_iff_asks hm ty)
      have hchecks := evaluateMetrics_checked (E := E) hset scpu sram sdisk stemp
      rw [hover] at hchecks
      rw [haccepted hrow]
      have hopened : openAlerts (evaluateMetrics E m (measured w m)).2 ty = [] ↔
          openAlerts w ty = [] ∧ ¬ Raised E data w ty := by
        rw [hchecks.opened]
        exact and_congr_right fun _ => not_congr (and_iff_right htaken).symm
      have hclearing : ComesToClearing E data w ↔
          ¬ (evaluateMetrics E m (measured w m)).1.isOk = false := by
        rw [← hchecks.raised]
        exact and_iff_right htaken
      rcases hev : evaluateMetrics E m (measured w m) with ⟨e | ⟨⟩, w₁⟩
      · -- a check has raised: what is open is what was opened before
        rw [hev] at hopened hclearing
        rw [Act.bind_of_error hev, or_iff_left fun h => hclearing.mp h.1 rfl]
        exact hopened
      · rw [hev] at hchecks hopened hclearing
        have hcomes : ComesToClearing E data w := hclearing.mpr Bool.true_eq_false_eq_False
        obtain ⟨-, fields, rfl, hcpu, hram, hdisk⟩ := metricOf_fields hm
        obtain ⟨w₂, hres, -⟩ := autoResolveAlerts_run (E := E) hchecks.settled w.device.id
          (hcpu ▸ scpu) (hram ▸ sram) (hdisk ▸ sdisk)
        have hid : w₁.device.id = w.device.id := hchecks.id
        have hsweep := autoResolveAlerts_sweep hchecks.settled (hid ▸ hres)
        rw [Act.bind_of_ok hev, hres]
        exact (hsweep.opened ty).trans (or_congr hopened (and_iff_right hcomes).symm)

/-! ## Alerts clear when their condition clears -/

/-- No alert is open whose metric the message reports below its clearing level. -/
def Cleared (E : Env) (data : Json) (w : World) : Prop :=
  ∀ ty key x, ty.metric = some key → data.Reports key x → x < E.settings.clearingLevel ty →
    openAlerts w ty = []

/-- No alert of the device is open that says it is offline. -/
def ReportedBack (d : Uuid) (db : Db) : Prop :=
  ∀ a ∈ db.alerts, unresolved d .offline a = false

/-- Nothing is in the way of a type whose metric is below its level: no alert of it is open and the
    message opens none, or it is one of the two types that are cleared and the handler comes to that. -/
def NothingStuck (E : Env) (data : Json) (w : World) : Prop :=
  ∀ ty key x, ty.metric = some key → data.Reports key x → x < E.settings.clearingLevel ty →
    (openAlerts w ty = [] ∧ ¬ Raised E data w ty) ∨
      ((ty = .highCpu ∨ ty = .highRam) ∧ ComesToClearing E data w)

/-- A message reports one number under a key. -/
theorem reports_unique {data : Json} {key : String} {x y : Rat} (hx : data.Reports key x)
    (hy : data.Reports key y) : x = y := by
  obtain ⟨v, hv, hvx⟩ := hx
  exact Option.some.inj (hvx.symm.trans ((reports_iff hv y).mp hy))

/-- The connect sequence looks at no alert. -/
theorem connectSequence_alerts (h : w.Settled) (d : Uuid) (ws : Socket) (ip : String) :
    (connectSequence E d ws ip w).2.committed.alerts = w.db.alerts := by
  show (connectSince E d ws ip w.clock w).2.committed.alerts = _
  rw [connectSince_committed h]

/-- Of the types with a metric below its level, the message clears two. -/
theorem clears_iff {data : Json} {ty : AlertType} {key : String} {x : Rat} (hty : ty.metric = some key)
    (hx : data.Reports key x) (hlt : x < E.settings.clearingLevel ty) :
    Clears data ty ↔ ty = .highCpu ∨ ty = .highRam := by
  constructor
  · rintro ⟨key', bound, y, hclear, -⟩
    cases ty with
    | highCpu => exact .inl rfl
    | highRam => exact .inr rfl
    | highDisk => cases hty
    | _ => cases hclear
  · rintro (rfl | rfl)
    · obtain rfl := Option.some.inj hty
      exact ⟨_, 80, x, rfl, hx, hlt⟩
    · obtain rfl := Option.some.inj hty
      exact ⟨_, 85, x, rfl, hx, hlt⟩

/-- **Alerts clear when their condition clears** only if nothing is in the way of any of them; a
    device that connects leaves its offline alert open.

    The condition asks, for each type the message should clear, that none was open and none is opened, or that the
    handler comes to the one function that resolves it.  The connect sequence resolves nothing, so it has to find
    nothing. -/
theorem alerts_clear_iff (E : Env) :
    (∀ (w : World) (data : Json), w.Clean →
      (Cleared E data (handleTelemetry E data w).2 ↔ NothingStuck E data w)) ∧
    ∀ (w : World) (d : Uuid) (ws : Socket) (ip : String), w.Settled →
      (ReportedBack d (connectSequence E d ws ip w).2.committed ↔ ReportedBack d w.db) := by
  refine ⟨fun w data hc => ?_, fun w d ws ip h => ?_⟩
  · have hopen := handleTelemetry_open (E := E) hc data
    constructor
    · intro hclear ty key x hty hx hlt
      rcases (hopen ty).mp (hclear ty key x hty hx hlt) with hfree | ⟨hcomes, hclears⟩
      · exact .inl hfree
      · exact .inr ⟨(clears_iff hty hx hlt).mp hclears, hcomes⟩
    · intro hstuck ty key x hty hx hlt
      refine (hopen ty).mpr ?_
      rcases hstuck ty key x hty hx hlt with hfree | ⟨htype, hcomes⟩
      · exact .inl hfree
      · exact .inr ⟨hcomes, (clears_iff hty hx hlt).mpr htype⟩
  · unfold ReportedBack
    rw [connectSequence_alerts h]

/-- A device with an open alert of one type. -/
def alertOpen (ty : AlertType) : World :=
  World.start { Db.empty with
    devices := [.sample 1]
    alerts := [⟨10, 1, ty, .warning, "", false, 0, none⟩] } (.sample 1)

theorem alertOpen_clean (ty : AlertType) : (alertOpen ty).Clean := World.start_clean _ _

/-- A computation that does not raise. -/
theorem returned_of_isOk {x : Server Unit} (h : (x w).1.isOk = true) :
    x w = (.ok (), (x w).2) := by
  rcases hx : x w with ⟨_ | _, w'⟩
  · rw [hx] at h
    cases h
  · rfl

/-- A message with one metric reports no other. -/
theorem not_reports {key key' : String} {v : Json} (hkey : key' ≠ key) (x : Rat) :
    ¬ (Json.obj [(key, v)]).Reports key' x := by
  have hget : (Json.obj [(key, v)]).get key' = .ok .null := by
    simp only [Json.get, List.lookup_cons, List.lookup_nil, beq_false_of_ne hkey]
    rfl
  rw [reports_iff hget]
  intro hnumber
  cases hnumber

/-- An alert of one type and two temperature alerts. -/
def twiceHot (ty : AlertType) : World :=
  World.start { Db.empty with
    devices := [.sample 1]
    alerts := [⟨10, 1, ty, .warning, "", false, 0, none⟩,
      ⟨11, 1, .highTemp, .warning, "", false, 0, none⟩,
      ⟨12, 1, .highTemp, .warning, "", false, 0, none⟩] } (.sample 1)

/-- An idle processor that is too hot. -/
def heat : Json := .obj [("cpu_percent", .int 40), ("cpu_temp", .int 99)]

/-- What the message reports. -/
theorem heat_reports {key : String} {x : Rat} (h : heat.Reports key x) :
    (key = "cpu_percent" ∧ x = 40) ∨ (key = "cpu_temp" ∧ x = 99) := by
  by_cases hcpu : key = "cpu_percent"
  · subst hcpu
    exact .inl ⟨rfl, reports_unique h ⟨.int 40, rfl, rfl⟩⟩
  · by_cases htemp : key = "cpu_temp"
    · subst htemp
      exact .inr ⟨rfl, reports_unique h ⟨.int 99, rfl, rfl⟩⟩
    · have hget : heat.get key = .ok .null := by
        simp only [heat, Json.get, List.lookup_cons, List.lookup_nil, beq_false_of_ne hcpu,
          beq_false_of_ne htemp]
        rfl
      rw [reports_iff hget] at h
      cases h

theorem type_of_cpu {ty : AlertType} (h : ty.metric = some "cpu_percent") : ty = .highCpu := by
  cases ty <;> simp [AlertType.metric] at h ⊢

theorem type_of_temp {ty : AlertType} (h : ty.metric = some "cpu_temp") : ty = .highTemp := by
  cases ty <;> simp [AlertType.metric] at h ⊢

/-- An open CPU alert and a message of an idle device; a message that raises, where no alert stands
    against it; a device without an offline alert. -/
theorem alerts_clear_cpu :
    Cleared Env.sample (.obj [("cpu_percent", .int 40)])
        (handleTelemetry Env.sample (.obj [("cpu_percent", .int 40)]) (alertOpen .highCpu)).2 ∧
      Cleared Env.sample heat (handleTelemetry Env.sample heat (twiceHot .crash)).2 ∧
      ReportedBack 1 (connectSequence Env.sample 1 7 "10.0.0.5" (alertOpen .highCpu)).2.committed := by
  refine ⟨?_, ?_, ?_⟩
  · refine ((alerts_clear_iff Env.sample).1 _ _ (alertOpen_clean .highCpu)).mpr
      fun ty key x hty hx _ => .inr ?_
    have hkey : key = "cpu_percent" := by
      by_contra hne
      exact not_reports hne x hx
    subst hkey
    refine ⟨.inl (type_of_cpu hty), ⟨_, rfl, by decide +kernel⟩, ?_⟩
    rintro ⟨ty', -, -, hdup⟩
    have hfew : (openAlerts (alertOpen .highCpu) ty').length ≤ 1 :=
      (List.length_filter_le _ _).trans (by decide)
    exact absurd hdup.2 (by omega)
  · refine ((alerts_clear_iff Env.sample).1 _ _ (World.start_clean _ _)).mpr
      fun ty key x hty hx hlt => .inl ?_
    rcases heat_reports hx with ⟨rfl, rfl⟩ | ⟨rfl, rfl⟩
    · obtain rfl := type_of_cpu hty
      refine ⟨rfl, ?_⟩
      rintro ⟨-, -, ⟨key, y, hkey, hy, hover⟩, -⟩
      obtain rfl := Option.some.inj hkey
      obtain rfl : y = 40 := reports_unique hy ⟨.int 40, rfl, rfl⟩
      exact absurd hover (by decide +kernel)
    · obtain rfl := type_of_temp hty
      exact absurd hlt (by decide +kernel)
  · refine ((alerts_clear_iff Env.sample).2 _ _ _ _ (alertOpen_clean .highCpu).toSettled).mpr ?_
    intro a ha
    obtain rfl := List.mem_singleton.mp ha
    decide

/-- A message that reports a metric below its level leaves an open alert of a type that it does not
    clear. -/
theorem stays_open {ty : AlertType} {data : Json} {key : String} {x : Rat} (hty : ty.clearing = none)
    (hmetric : ty.metric = some key) (hx : data.Reports key x)
    (hlt : x < E.settings.clearingLevel ty)
    (hrun : handleTelemetry E data (alertOpen ty) = (.ok (), w')) : ¬ Cleared E data w' := by
  intro hclear
  have hnil := hclear ty key x hmetric hx hlt
  rcases ((handleTelemetry_done (alertOpen_clean ty) hrun).opened ty).mp hnil with
    ⟨h0, -⟩ | ⟨key, bound, x, hclears, -⟩
  · have hopen : openAlerts (alertOpen ty) ty ≠ [] := by
      cases ty <;> exact List.cons_ne_nil _ _
    exact hopen h0
  · rw [hty] at hclears
    cases hclears

/-- A disk that has room again, a processor that has cooled down, a device that is back: the alerts
    stay.  So does a CPU alert, when the check of the temperature raises before it is cleared. -/
theorem alerts_stay_open :
    (∃ w', handleTelemetry Env.sample (.obj [("disk_percent", .int 40)]) (alertOpen .diskFull) =
        (.ok (), w') ∧ ¬ Cleared Env.sample (.obj [("disk_percent", .int 40)]) w') ∧
      (∃ w', handleTelemetry Env.sample (.obj [("cpu_temp", .int 40)]) (alertOpen .highTemp) =
        (.ok (), w') ∧ ¬ Cleared Env.sample (.obj [("cpu_temp", .int 40)]) w') ∧
      ¬ ReportedBack 1
        (connectSequence Env.sample 1 7 "10.0.0.5" (alertOpen .offline)).2.committed ∧
      ¬ Cleared Env.sample heat (handleTelemetry Env.sample heat (twiceHot .highCpu)).2 := by
  have hdisk := returned_of_isOk (w := alertOpen .diskFull)
    (x := handleTelemetry Env.sample (.obj [("disk_percent", .int 40)])) (by decide +kernel)
  have htemp := returned_of_isOk (w := alertOpen .highTemp)
    (x := handleTelemetry Env.sample (.obj [("cpu_temp", .int 40)])) (by decide +kernel)
  refine ⟨⟨_, hdisk, ?_⟩, ⟨_, htemp, ?_⟩, fun hback => ?_, fun hclear => ?_⟩
  · refine stays_open (x := 40) rfl rfl ⟨_, rfl, by simp [Json.number]⟩ ?_ hdisk
    show (40 : Rat) < 90
    norm_num
  · refine stays_open (x := 40) rfl rfl ⟨_, rfl, by simp [Json.number]⟩ ?_ htemp
    show (40 : Rat) < 85
    norm_num
  · have hfalse := hback ⟨10, 1, .offline, .warning, "", false, 0, none⟩ (by
      rw [connectSequence_alerts (alertOpen_clean .offline).toSettled]
      exact List.mem_singleton.mpr rfl)
    exact absurd hfalse (by decide)
  · have hnil := hclear .highCpu "cpu_percent" 40 rfl ⟨.int 40, rfl, rfl⟩ (by decide +kernel)
    have hone : (openAlerts (handleTelemetry Env.sample heat (twiceHot .highCpu)).2 .highCpu).isEmpty =
        false := by decide +kernel
    rw [hnil] at hone
    cases hone

/-! ## A fresh alert survives its own message -/

/-- Every alert the message requires is open. -/
def Survives (E : Env) (data : Json) (w : World) : Prop :=
  ∀ ty, Asks E data ty → openAlerts w ty ≠ []

/-- The message reports no metric over its threshold that is below the constant it is cleared at. -/
def OverClearing (E : Env) (data : Json) : Prop :=
  (∀ x, data.Reports "cpu_percent" x → E.settings.alertCpuPercent.value < x → 80 ≤ x) ∧
  ∀ x, data.Reports "ram_percent" x → E.settings.alertRamPercent.value < x → 85 ≤ x

/-- A type that a message asks for and clears at once. -/
theorem clears_of_asks {data : Json} {ty : AlertType} (hasks : Asks E data ty) :
    Clears data ty ↔ ∃ key bound x, ty.metric = some key ∧ ty.clearing = some (key, bound) ∧
      data.Reports key x ∧ E.settings.threshold ty < x ∧ x < bound := by
  obtain ⟨key, x, hkey, hx, hlt⟩ := hasks
  constructor
  · rintro ⟨key', bound, y, hclear, hy, hbound⟩
    obtain rfl : key = key' := by
      cases ty <;> simp_all [AlertType.metric, AlertType.clearing]
    obtain rfl := reports_unique hx hy
    exact ⟨key, bound, x, hkey, hclear, hx, hlt, hbound⟩
  · rintro ⟨key', bound, y, -, hclear, hy, -, hbound⟩
    exact ⟨key', bound, y, hclear, hy, hbound⟩

/-- **A fresh alert survives its own message** exactly when none of the two thresholds with a
    clearing constant is crossed below it.

    The two functions see the same values.  A type that is raised above its threshold and cleared below a constant
    is cleared at once if the threshold is below the constant. -/
theorem fresh_alert_survives_iff (hc : w.Clean) (hm : w.device.maintenanceMode = false)
    {data : Json} (hrun : handleTelemetry E data w = (.ok (), w')) :
    Survives E data w' ↔ OverClearing E data := by
  have hdone := handleTelemetry_done hc hrun
  have hopen : ∀ ty, Asks E data ty → (openAlerts w' ty ≠ [] ↔ ¬ Clears data ty) := by
    intro ty hasks
    rw [Ne, hdone.opened, or_iff_right fun h => h.2 ⟨hasks, hm⟩]
  constructor
  · intro hsurvive
    refine ⟨fun x hx hlt => le_of_not_gt fun hbelow => ?_,
      fun x hx hlt => le_of_not_gt fun hbelow => ?_⟩
    · have hasks : Asks E data .highCpu := ⟨_, x, rfl, hx, hlt⟩
      exact (hopen _ hasks).mp (hsurvive _ hasks) ⟨_, 80, x, rfl, hx, hbelow⟩
    · have hasks : Asks E data .highRam := ⟨_, x, rfl, hx, hlt⟩
      exact (hopen _ hasks).mp (hsurvive _ hasks) ⟨_, 85, x, rfl, hx, hbelow⟩
  · rintro ⟨hcpu, hram⟩ ty hasks
    rw [hopen ty hasks, clears_of_asks hasks]
    rintro ⟨key, bound, x, hkey, hclear, hx, hlt, hbelow⟩
    cases ty with
    | highCpu =>
      obtain ⟨rfl, rfl⟩ := Prod.mk.inj (Option.some.inj hclear)
      exact absurd (hcpu x hx hlt) (not_le_of_gt hbelow)
    | highRam =>
      obtain ⟨rfl, rfl⟩ := Prod.mk.inj (Option.some.inj hclear)
      exact absurd (hram x hx hlt) (not_le_of_gt hbelow)
    | highDisk => cases hkey
    | _ => cases hclear

/-- The sample parameters with another CPU threshold. -/
def cpuThreshold (t : Threshold) : Env :=
  { Env.sample with settings := { alertCpuPercent := t } }

/-- At the default threshold an alert at 95 percent stays. -/
theorem fresh_alert_survives_default : ∃ w', handleTelemetry Env.sample
      (.obj [("cpu_percent", .int 95)]) (alertOpen .crash) = (.ok (), w') ∧
    Survives Env.sample (.obj [("cpu_percent", .int 95)]) w' := by
  have hrun := returned_of_isOk (w := alertOpen .crash)
    (x := handleTelemetry Env.sample (.obj [("cpu_percent", .int 95)])) (by decide +kernel)
  refine ⟨_, hrun, (fresh_alert_survives_iff (alertOpen_clean .crash) rfl hrun).mpr
    ⟨fun x hx _ => ?_, fun x hx _ => absurd hx (not_reports (by decide) x)⟩⟩
  have h95 : x = 95 := reports_unique hx ⟨_, rfl, by simp [Json.number]⟩
  rw [h95]
  norm_num

/-- At a threshold of 60 percent an alert at 70 percent is resolved by the message that raises it. -/
theorem fresh_alert_resolved : ∃ w', handleTelemetry (cpuThreshold ⟨60, "60.0"⟩)
      (.obj [("cpu_percent", .int 70)]) (alertOpen .crash) = (.ok (), w') ∧
    ¬ Survives (cpuThreshold ⟨60, "60.0"⟩) (.obj [("cpu_percent", .int 70)]) w' := by
  have hrun := returned_of_isOk (w := alertOpen .crash)
    (x := handleTelemetry (cpuThreshold ⟨60, "60.0"⟩) (.obj [("cpu_percent", .int 70)]))
    (by decide +kernel)
  refine ⟨_, hrun, fun hsurvive => ?_⟩
  have h70 : (Json.obj [("cpu_percent", .int 70)]).Reports "cpu_percent" 70 :=
    ⟨_, rfl, by simp [Json.number]⟩
  refine hsurvive .highCpu ⟨_, 70, rfl, h70, ?_⟩
    (((handleTelemetry_done (alertOpen_clean .crash) hrun).opened .highCpu).mpr
      (.inr ⟨_, 80, 70, rfl, h70, by norm_num⟩))
  show (60 : Rat) < 70
  norm_num

end Server

end Dtsys
