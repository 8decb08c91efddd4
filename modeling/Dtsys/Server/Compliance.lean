/-
  COMPLIANCE, `app/services/compliance_service.py`: the rules of a policy, and the result that is kept for
  every device and policy.

  `evaluate_device` asks for the newest metric by `DeviceMetric.timestamp`.  The class has no such
  attribute, its column is `time`: the method raises before its first statement.  `evaluate_org` catches
  what it raises and goes on to the next pair, so it returns, and nothing has changed.

  The arithmetic and the texts of floats, `str` and `lower` are parameters, nothing is assumed of them.
  The results are kept beside the tables of `Db`; no other modelled function reads them.

  1. `evaluateRules` — `_evaluate_rules`, which returns if the numeric rule values parse;
  2. `evaluateDevice`, `evaluateOrg` — the service;
  3. `results_current_iff` — which results are current afterwards;
  4. `keepResult_current` — what follows the query keeps one current result.
-/
import Dtsys.Lib.Act
import Dtsys.Lib.AddUp
import Dtsys.Server.Session
import Mathlib.Data.List.Infix
import Mathlib.Data.List.MinMax

namespace Dtsys

/-! ## Rows -/

/-- `app/models/compliance.py`. -/
structure CompliancePolicy where
  id : Uuid
  orgId : Uuid
  isActive : Bool
  rules : Json

/-- `app/models/compliance.py`. -/
structure ComplianceResult where
  id : Uuid
  deviceId : Uuid
  policyId : Uuid
  isCompliant : Bool
  details : List Json
  violations : Nat
  evaluatedAt : Nat

namespace Compliance

/-- What Python does with floats and texts: the value a column gives back, `float`, `str`, `lower`,
    `f"\x7bx:.kf\x7d"`, and the seconds of a `timedelta` divided by 3600. -/
structure Texts (F : Type) where
  column : Json → F
  name : Json → String
  float : Json → Except PyErr F
  sub : F → F → F
  lt : F → F → Bool
  fixed : Nat → F → String
  hours : Int → F
  str : Json → String
  lower : String → String

variable {F : Type} (T : Texts F)

/-! ## Rules -/

/-- `case "max_offline_hours"`. -/
def maxOfflineHours (now : Nat) (device : Device) (value : Json) : Except PyErr (Bool × String) :=
  match device.lastSeen with
  | none => .ok (false, "Device has never reported")
  | some lastSeen => do
    let hoursOffline := T.hours ((now : Int) - lastSeen)
    if T.lt (← T.float value) hoursOffline then
      return (false, "Last seen " ++ T.fixed 1 hoursOffline ++ "h ago (max " ++ T.str value ++ "h)")
    else return (true, "Last seen " ++ T.fixed 1 hoursOffline ++ "h ago")

/-- `case "disk_free_min_gb"`. -/
def diskFreeMinGb (metric : Option DeviceMetric) (value : Json) : Except PyErr (Bool × String) :=
  match metric with
  | none => .ok (false, "No metric data available")
  | some metric =>
    if metric.diskTotalGb.isNone || metric.diskUsedGb.isNone then
      .ok (false, "Disk metrics unavailable")
    else do
      let freeGb := T.sub (T.column metric.diskTotalGb) (T.column metric.diskUsedGb)
      if T.lt freeGb (← T.float value) then
        return (false, "Only " ++ T.fixed 1 freeGb ++ " GB free (min " ++ T.str value ++ " GB)")
      else return (true, T.fixed 1 freeGb ++ " GB free")

/-- `case "max_disk_percent"`. -/
def maxDiskPercent (metric : Option DeviceMetric) (value : Json) : Except PyErr (Bool × String) :=
  match metric.map DeviceMetric.diskPercent with
  | none | some .null => .ok (false, "Disk metrics unavailable")
  | some stored => do
    let diskPercent := T.column stored
    if T.lt (← T.float value) diskPercent then
      return (false, "Disk usage " ++ T.fixed 0 diskPercent ++ "% (max " ++ T.str value ++ "%)")
    else return (true, "Disk usage " ++ T.fixed 0 diskPercent ++ "%")

/-- `any(needle in pkg.lower() for pkg in packages)`. -/
def found (packages : List String) (value : Json) : Bool :=
  packages.any fun pkg => decide ((T.lower (T.str value)).toList <:+: (T.lower pkg).toList)

/-- `case "required_software"`. -/
def requiredSoftware (packages : List String) (value : Json) : Bool × String :=
  if !found T packages value then (false, "Required software not found: " ++ T.str value)
  else (true, "Found: " ++ T.str value)

/-- `case "forbidden_software"`. -/
def forbiddenSoftware (packages : List String) (value : Json) : Bool × String :=
  if found T packages value then (false, "Forbidden software detected: " ++ T.str value)
  else (true, "Not installed: " ++ T.str value)

/-- `case "os_type"`. -/
def osType (device : Device) (value : Json) : Bool × String :=
  if T.lower device.osType ≠ T.lower (T.str value) then
    (false, "OS is " ++ device.osType ++ " (expected " ++ T.str value ++ ")")
  else (true, "OS: " ++ device.osType)

/-- The `match` of the loop; a type that is no string is none of the cases. -/
def evaluateRule (now : Nat) (device : Device) (metric : Option DeviceMetric) (packages : List String)
    (ruleType value : Json) : Except PyErr (Bool × String) :=
  match ruleType with
  | .str "max_offline_hours" => maxOfflineHours T now device value
  | .str "disk_free_min_gb" => diskFreeMinGb T metric value
  | .str "max_disk_percent" => maxDiskPercent T metric value
  | .str "required_software" => .ok (requiredSoftware T packages value)
  | .str "forbidden_software" => .ok (forbiddenSoftware T packages value)
  | .str "os_type" => .ok (osType T device value)
  | _ => .ok (true, "Unknown rule type: " ++ T.str ruleType)

/-- One round of the loop: the rule's entry in `details`, and whether it passed. -/
def evaluateEntry (now : Nat) (device : Device) (metric : Option DeviceMetric) (packages : List String)
    (rule : Json) : Except PyErr (Json × Bool) := do
  let ruleType ← rule.getD "type" (.str "")
  let value ← rule.get "value"
  let (passed, detail) ← evaluateRule T now device metric packages ruleType value
  return (.obj [("type", ruleType), ("passed", .bool passed), ("detail", .str detail)], passed)

/-- `_evaluate_rules`. -/
def evaluateRules (rules : List Json) (now : Nat) (device : Device) (metric : Option DeviceMetric)
    (packages : List String) : Except PyErr (Bool × List Json × Nat) := do
  let entries ← rules.mapM (evaluateEntry T now device metric packages)
  let violations := entries.countP fun entry => !entry.2
  return (violations == 0, entries.map Prod.fst, violations)

/-- `rules or []`. -/
def rulesOf (policy : CompliancePolicy) : Except PyErr (List Json) :=
  (if policy.rules.truthy then policy.rules else .arr []).iter

/-- The types whose value is a number. -/
def numericTypes : List String := ["max_offline_hours", "disk_free_min_gb", "max_disk_percent"]

/-- A rule is an object, and the value of a numeric one parses. -/
def RuleParses (rule : Json) : Prop :=
  ∃ fields, rule = .obj fields ∧ ∀ ty ∈ numericTypes, (fields.lookup "type") = some (.str ty) →
    ∃ x, T.float ((fields.lookup "value").getD .null) = .ok x

/-- Every numeric rule value parses. -/
def Parses (policy : CompliancePolicy) : Prop :=
  ∃ rules, rulesOf policy = .ok rules ∧ ∀ rule ∈ rules, RuleParses T rule

section

variable {T}

/-- With a number, `max_offline_hours` returns. -/
theorem maxOfflineHours_ok {x : F} {value : Json} (h : T.float value = .ok x) (now : Nat)
    (device : Device) : ∃ out, maxOfflineHours T now device value = .ok out := by
  rw [maxOfflineHours]
  split
  · exact ⟨_, rfl⟩
  · rw [h]
    dsimp only [bind, Except.bind]
    split <;> exact ⟨_, rfl⟩

/-- So does `disk_free_min_gb`. -/
theorem diskFreeMinGb_ok {x : F} {value : Json} (h : T.float value = .ok x)
    (metric : Option DeviceMetric) : ∃ out, diskFreeMinGb T metric value = .ok out := by
  unfold diskFreeMinGb
  split
  · exact ⟨_, rfl⟩
  · split
    · exact ⟨_, rfl⟩
    · rw [h]
      dsimp only [bind, Except.bind]
      split <;> exact ⟨_, rfl⟩

/-- And `max_disk_percent`. -/
theorem maxDiskPercent_ok {x : F} {value : Json} (h : T.float value = .ok x)
    (metric : Option DeviceMetric) : ∃ out, maxDiskPercent T metric value = .ok out := by
  rw [maxDiskPercent]
  split
  · exact ⟨_, rfl⟩
  · exact ⟨_, rfl⟩
  · rw [h]
    dsimp only [bind, Except.bind]
    split <;> exact ⟨_, rfl⟩

variable {now : Nat} {device : Device} {metric : Option DeviceMetric} {packages : List String}

/-- A rule that parses is evaluated. -/
theorem evaluateRule_ok {ruleType value : Json}
    (h : ∀ ty ∈ numericTypes, ruleType = .str ty → ∃ x, T.float value = .ok x) :
    ∃ out, evaluateRule T now device metric packages ruleType value = .ok out := by
  unfold evaluateRule
  split
  · obtain ⟨x, hx⟩ := h "max_offline_hours" (by decide) rfl
    exact maxOfflineHours_ok hx now device
  · obtain ⟨x, hx⟩ := h "disk_free_min_gb" (by decide) rfl
    exact diskFreeMinGb_ok hx metric
  · obtain ⟨x, hx⟩ := h "max_disk_percent" (by decide) rfl
    exact maxDiskPercent_ok hx metric
  · exact ⟨_, rfl⟩
  · exact ⟨_, rfl⟩
  · exact ⟨_, rfl⟩
  · exact ⟨_, rfl⟩

/-- A rule with a value that can be read has its entry. -/
theorem evaluateEntry_ok {rule : Json} (h : RuleParses T rule) :
    ∃ entry, evaluateEntry T now device metric packages rule = .ok entry := by
  obtain ⟨fields, rfl, hnumeric⟩ := h
  have hrule : ∃ out, evaluateRule T now device metric packages
      ((fields.lookup "type").getD (.str "")) ((fields.lookup "value").getD .null) = .ok out := by
    refine evaluateRule_ok fun ty hty htype => hnumeric ty hty ?_
    cases hlookup : fields.lookup "type" with
    | some t =>
      rw [hlookup] at htype
      exact congrArg some htype
    | none =>
      -- without a type the rule is none of the cases
      rw [hlookup] at htype
      obtain rfl : "" = ty := Json.str.inj htype
      exact absurd hty (by decide)
  obtain ⟨⟨passed, detail⟩, hout⟩ := hrule
  rw [evaluateEntry]
  dsimp only [Json.getD, Json.get, bind, Except.bind]
  rw [hout]
  exact ⟨_, rfl⟩

/-- `_evaluate_rules` returns if every rule parses. -/
theorem evaluateRules_ok {rules : List Json} (h : ∀ rule ∈ rules, RuleParses T rule) :
    ∃ out, evaluateRules T rules now device metric packages = .ok out := by
  obtain ⟨entries, hentries⟩ : ∃ entries,
      AddUp.Items (evaluateEntry T now device metric packages) rules entries :=
    AddUp.exists_items fun rule hrule => evaluateEntry_ok (h rule hrule)
  rw [evaluateRules, hentries.mapM]
  exact ⟨_, rfl⟩

end

/-! ## The service -/

/-- The tables of `Db`, the policies, the results in the session and committed. -/
structure Books where
  db : Db
  policies : List CompliancePolicy
  results : List ComplianceResult
  committed : List ComplianceResult
  clock : Nat
  drawn : Nat

/-- `DeviceMetric.<name>`, where the name is to be that of a time; the class has one. -/
def timeAttribute : String → Except PyErr (DeviceMetric → Nat)
  | "time" => .ok DeviceMetric.time
  | _ => .error .attributeError

/-- The names in the device's inventory. -/
def packagesOf (d : Uuid) (db : Db) : List String :=
  (db.software.filter fun row => row.deviceId == d).map fun row => T.name row.name

/-- The result belongs to the device and the policy. -/
def isFor (d p : Uuid) (r : ComplianceResult) : Bool := r.deviceId == d && r.policyId == p

/-- What `evaluate_device` writes into a result that is there. -/
def assign (now : Nat) (out : Bool × List Json × Nat) (r : ComplianceResult) : ComplianceResult :=
  { r with isCompliant := out.1, details := out.2.1, violations := out.2.2, evaluatedAt := now }

/-- The upsert, and the flush. -/
def upsert (uuid4 : Nat → Uuid) (device : Device) (policy : CompliancePolicy) (now : Nat)
    (out : Bool × List Json × Nat) : Act Books PyErr ComplianceResult := do
  let existing ← .read fun w => w.results.filter (isFor device.id policy.id)
  match existing with
  | [] => do
    let id ← .read fun w => uuid4 w.drawn
    let result : ComplianceResult := ⟨id, device.id, policy.id, out.1, out.2.1, out.2.2, now⟩
    .modify fun w => { w with drawn := w.drawn + 1, results := w.results ++ [result] }
    return result
  | [result] => do
    .modify fun w =>
      { w with results := w.results.map fun r => if r.id = result.id then assign now out r else r }
    return assign now out result
  | _ => .raise .multipleResultsFound

/-- `evaluate_device` from the query for the packages on. -/
def keepResult (uuid4 : Nat → Uuid) (device : Device) (policy : CompliancePolicy)
    (metric : Option DeviceMetric) : Act Books PyErr ComplianceResult := do
  let packages ← .read fun w => packagesOf T device.id w.db
  let now ← .read Books.clock
  let rules ← .ofExcept (rulesOf policy)
  let out ← .ofExcept (evaluateRules T rules now device metric packages)
  upsert uuid4 device policy now out

/-- `evaluate_device`. -/
def evaluateDevice (uuid4 : Nat → Uuid) (device : Device) (policy : CompliancePolicy) :
    Act Books PyErr ComplianceResult := do
  let timestamp ← .ofExcept (timeAttribute "timestamp")
  let metric ← .read fun w => (w.db.metrics.filter fun m => m.deviceId == device.id).argmax timestamp
  keepResult T uuid4 device policy metric

/-- The policies `evaluate_org` selects. -/
def activePolicies (orgId : Uuid) (w : Books) : List CompliancePolicy :=
  w.policies.filter fun p => p.orgId == orgId && p.isActive

/-- The devices `evaluate_org` selects. -/
def devicesOf (orgId : Uuid) (w : Books) : List Device :=
  w.db.devices.filter fun d => d.orgId == some orgId && !d.isRevoked

/-- `evaluate_org`. -/
def evaluateOrg (uuid4 : Nat → Uuid) (orgId : Uuid) : Act Books PyErr Unit := do
  let policies ← .read (activePolicies orgId)
  if policies.isEmpty then return
  let devices ← .read (devicesOf orgId)
  Act.forEach devices fun device => Act.forEach policies fun policy =>
    -- `except Exception` logs
    Act.attempt (evaluateDevice T uuid4 device policy >>= fun _ => pure ()) fun _ => pure ()
  .modify fun w => { w with committed := w.results }

/-! ## Current results -/

/-- The device's most recent metric. -/
def mostRecent (d : Uuid) (db : Db) : Option DeviceMetric :=
  (db.metrics.filter fun m => m.deviceId == d).argmax DeviceMetric.time

/-- There is one result for the device and the policy, and it is what the rules give now. -/
def Current (w : Books) (device : Device) (policy : CompliancePolicy) : Prop :=
  ∃ result rules, w.results.filter (isFor device.id policy.id) = [result] ∧
    rulesOf policy = .ok rules ∧
    evaluateRules T rules w.clock device (mostRecent device.id w.db) (packagesOf T device.id w.db) =
      .ok (result.isCompliant, result.details, result.violations)

/-- What `evaluate_device` is to do. -/
def Evaluates (uuid4 : Nat → Uuid) (device : Device) (policy : CompliancePolicy) (w : Books) : Prop :=
  Parses T policy → ∃ result w', evaluateDevice T uuid4 device policy w = (.ok result, w') ∧
    Current T w' device policy

/-- What `evaluate_org` is to do. -/
def EvaluatesAll (uuid4 : Nat → Uuid) (orgId : Uuid) (w : Books) : Prop :=
  ∀ device ∈ devicesOf orgId w, ∀ policy ∈ activePolicies orgId w, Parses T policy →
    Current T (evaluateOrg T uuid4 orgId w).2 device policy

section

variable {T} {uuid4 : Nat → Uuid} {device : Device} {policy : CompliancePolicy} {w : Books}

/-- `DeviceMetric.timestamp` is evaluated before anything is asked of the database. -/
theorem evaluateDevice_raises (device : Device) (policy : CompliancePolicy) (w : Books) :
    evaluateDevice T uuid4 device policy w = (.error .attributeError, w) := rfl

/-- `evaluate_device` raises exactly where a value cannot be read. -/
theorem evaluates_iff : Evaluates T uuid4 device policy w ↔ ¬ Parses T policy := by
  constructor
  · intro h hparses
    obtain ⟨result, w', hrun, -⟩ := h hparses
    rw [evaluateDevice_raises] at hrun
    cases hrun
  · exact fun hnot hparses => absurd hparses hnot

/-- A loop whose rounds change nothing. -/
theorem forEach_idle {σ ε α : Type} {f : α → Act σ ε Unit} {s : σ} (h : ∀ a, f a s = (.ok (), s)) :
    ∀ as : List α, Act.forEach as f s = (.ok (), s) := by
  intro as
  induction as with
  | nil => rfl
  | cons a as ih =>
    rw [Act.forEach_cons, Act.bind_of_ok (h a)]
    exact ih

variable (T uuid4) in
/-- `evaluate_org` returns, and no result has changed. -/
theorem evaluateOrg_run (orgId : Uuid) (w : Books) :
    ∃ committed, evaluateOrg T uuid4 orgId w = (.ok (), { w with committed := committed }) := by
  have hround : ∀ device policy, Act.attempt
      (evaluateDevice T uuid4 device policy >>= fun _ => (pure () : Act Books PyErr Unit))
      (fun _ => pure ()) w = (.ok (), w) := fun device policy =>
    Act.attempt_of_error (Act.bind_of_error (evaluateDevice_raises device policy w))
  have hloop := forEach_idle (fun device => forEach_idle (hround device) (activePolicies orgId w))
    (devicesOf orgId w)
  rw [evaluateOrg, Act.read_bind]
  split
  · exact ⟨w.committed, rfl⟩
  · rw [Act.read_bind, Act.bind_of_ok hloop]
    exact ⟨w.results, rfl⟩

end

/-- **The results of compliance**: `evaluate_device` keeps a current result for no policy that parses, and
    `evaluate_org` leaves current exactly what was current before.

    `DeviceMetric` has no attribute `timestamp`, so `evaluate_device` raises on its first statement; `evaluate_org`
    catches it for each pair and commits what was there before. -/
theorem results_current_iff (uuid4 : Nat → Uuid) (w : Books) :
    (∀ device policy, Evaluates T uuid4 device policy w ↔ ¬ Parses T policy) ∧
      ∀ orgId, EvaluatesAll T uuid4 orgId w ↔
        ∀ device ∈ devicesOf orgId w, ∀ policy ∈ activePolicies orgId w, Parses T policy →
          Current T w device policy := by
  refine ⟨fun device policy => evaluates_iff, fun orgId => ?_⟩
  obtain ⟨committed, hrun⟩ := evaluateOrg_run T uuid4 orgId w
  rw [EvaluatesAll, hrun]
  exact Iff.rfl

/-! ## What follows the query -/

section

variable {T} {uuid4 : Nat → Uuid} {device : Device} {policy : CompliancePolicy} {w : Books}

/-- An update changes the row of no other pair. -/
theorem filter_assign {d p : Uuid} (id : Uuid) (now : Nat) (out : Bool × List Json × Nat)
    (results : List ComplianceResult) :
    (results.map fun r => if r.id = id then assign now out r else r).filter (isFor d p) =
      (results.filter (isFor d p)).map fun r => if r.id = id then assign now out r else r := by
  rw [List.filter_map]
  congr 1
  refine List.filter_congr fun r _ => ?_
  show isFor d p (if r.id = id then _ else r) = _
  split <;> rfl

/-- With the most recent metric, one current result is kept. -/
theorem keepResult_current (hparses : Parses T policy)
    (hunique : (w.results.filter (isFor device.id policy.id)).length ≤ 1) :
    ∃ result w', keepResult T uuid4 device policy (mostRecent device.id w.db) w = (.ok result, w') ∧
      Current T w' device policy := by
  obtain ⟨rules, hrules, hall⟩ := hparses
  obtain ⟨out, hout⟩ : ∃ out, evaluateRules T rules w.clock device (mostRecent device.id w.db)
      (packagesOf T device.id w.db) = .ok out := evaluateRules_ok hall
  rw [keepResult, Act.read_bind, Act.read_bind, hrules, Act.ofExcept_ok_bind, hout, Act.ofExcept_ok_bind]
  rw [upsert, Act.read_bind]
  cases hexisting : w.results.filter (isFor device.id policy.id) with
  | nil =>
    refine ⟨_, _, rfl, ⟨uuid4 w.drawn, device.id, policy.id, out.1, out.2.1, out.2.2, w.clock⟩, rules, ?_,
      hrules, hout⟩
    show (w.results ++ [_]).filter _ = [_]
    rw [List.filter_append, hexisting]
    exact List.filter_cons_of_pos (by simp [isFor])
  | cons result rest =>
    have hrest : rest = [] := by
      rw [hexisting] at hunique
      exact List.length_eq_zero_iff.mp (Nat.le_zero.mp (Nat.le_of_succ_le_succ hunique))
    subst hrest
    refine ⟨_, _, rfl, assign w.clock out result, rules, ?_, hrules, hout⟩
    show List.filter _ (w.results.map _) = _
    rw [filter_assign, hexisting]
    exact congrArg (fun r => [r]) (if_pos rfl)

end

/-! ## A policy that is not evaluated -/

/-- Python's floats without their rounding and range, to run the model with. -/
def Texts.sample : Texts Rat where
  column v := v.number.getD 0
  name v := match v with
    | .str s => s
    | _ => ""
  float v := match v.number with
    | some x => .ok x
    | none => .error .valueError
  sub x y := x - y
  lt x y := decide (x < y)
  fixed := fixedText
  hours us := us / 3600000000
  str v := match v with
    | .str s => s
    | _ => ""
  lower s := s.toLower

/-- Disks may be 90% full. -/
def diskPolicy : CompliancePolicy :=
  ⟨2, 3, true, .arr [.obj [("type", .str "max_disk_percent"), ("value", .int 90)]]⟩

/-- A device of the organization. -/
def managed : Device := { Device.sample 1 with orgId := some 3 }

/-- This device, and nothing else. -/
def oneDevice : Books :=
  { db := { Db.empty with devices := [managed] }
    policies := [diskPolicy]
    results := []
    committed := []
    clock := 0
    drawn := 0 }

theorem diskPolicy_parses : Parses Texts.sample diskPolicy := by
  refine ⟨_, rfl, fun rule hrule => ?_⟩
  obtain rfl := List.mem_singleton.mp hrule
  exact ⟨_, rfl, fun _ _ _ => ⟨90, rfl⟩⟩

/-- Neither method leaves a result. -/
theorem policy_not_evaluated :
    ¬ Evaluates Texts.sample Env.sample.uuid4 managed diskPolicy oneDevice ∧
      ¬ EvaluatesAll Texts.sample Env.sample.uuid4 3 oneDevice := by
  refine ⟨fun h => evaluates_iff.mp h diskPolicy_parses, fun h => ?_⟩
  have hdevice : managed ∈ devicesOf 3 oneDevice := List.mem_cons_self
  have hpolicy : diskPolicy ∈ activePolicies 3 oneDevice := List.mem_cons_self
  obtain ⟨result, -, hresult, -⟩ := h managed hdevice diskPolicy hpolicy diskPolicy_parses
  obtain ⟨committed, hrun⟩ := evaluateOrg_run Texts.sample Env.sample.uuid4 3 oneDevice
  rw [hrun] at hresult
  cases hresult

end Compliance

end Dtsys
