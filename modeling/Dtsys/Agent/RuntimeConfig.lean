/-
  The RUNTIME CONFIGURATION of the agent (`config/config.go`, `config/runtime.go`).

  An update carries three intervals; the positive ones replace what is in memory, the file is
  written, and three durations are computed from what is then in memory.  Numbers are `int`s of 64
  bits and so are durations, in nanoseconds: a product wraps.

  The three intervals are treated alike throughout, so they are given by an index (`Interval`).

  1. `wrap64` — the product of an interval and its unit, as Go computes it; `wrap64_pos_iff` says when
     what comes out is positive.
  2. `CollectConfig.apply` — the positive fields of an update win, the others keep what was there
     (`get_apply`), so an update that changes nothing is one whose fields are what is in memory
     (`apply_eq_self_iff`).
  3. `durationOf` — `maxInt(1, n)` times the unit: a non-positive interval counts as one unit.
  4. `decode_modelDump` — an update that the server dumps is decoded as it was, so that the intervals
     of the two sides can be compared.
-/
import Dtsys.Agent.Messages
import Mathlib.Logic.Function.Basic

namespace Dtsys

namespace Agent

/-! ## 64 bits -/

/-- The `int64` that is congruent to `x`. -/
def wrap64 (x : Int) : Int :=
  (x + 9223372036854775808) % 18446744073709551616 - 9223372036854775808

theorem wrap64_of_small {x : Int} (hlo : 0 ≤ x) (hhi : x < 9223372036854775808) : wrap64 x = x := by
  rw [wrap64]
  omega

/-- Positive after wrapping: in the lower half of a period of `2 ^ 64`. -/
theorem wrap64_pos_iff (x : Int) :
    0 < wrap64 x ↔ 0 < x % 18446744073709551616 ∧ x % 18446744073709551616 < 9223372036854775808 := by
  rw [wrap64]
  omega

/-! ## Configurations -/

/-- The intervals an update may set. -/
inductive Interval
  | telemetry
  | software
  | event
  deriving DecidableEq, Repr

/-- `time.Second`, `time.Minute`: what the number of an interval counts. -/
def Interval.unit : Interval → Int
  | .telemetry => 1000000000
  | .software => 60000000000
  | .event => 1000000000

/-- `CollectConfig`. -/
structure CollectConfig where
  telemetryIntervalSecs : Int
  softwareScanIntervalM : Int
  eventPollIntervalSecs : Int
  deriving DecidableEq, Repr

/-- The number that is configured for an interval. -/
def CollectConfig.get (c : CollectConfig) : Interval → Int
  | .telemetry => c.telemetryIntervalSecs
  | .software => c.softwareScanIntervalM
  | .event => c.eventPollIntervalSecs

/-- The number an update has for an interval. -/
def ConfigUpdateData.get (u : ConfigUpdateData) : Interval → Int
  | .telemetry => u.telemetryIntervalSecs
  | .software => u.softwareScanIntervalM
  | .event => u.eventPollIntervalSecs

/-- `Config`. -/
structure Config where
  serverUrl : String
  enrollmentToken : String
  deviceId : String
  apiKey : String
  collect : CollectConfig
  dedupMaxEntries : Int
  excludePatterns : List String
  rateLimitMax : Int
  rateLimitWindowS : Int
  skipTimeCheck : Bool
  autoUpdate : Bool
  checkIntervalHours : Int
  deriving DecidableEq, Repr

/-- The first statements of `Apply`: the positive fields replace what is there. -/
def CollectConfig.apply (c : CollectConfig) (u : ConfigUpdateData) : CollectConfig where
  telemetryIntervalSecs :=
    if 0 < u.telemetryIntervalSecs then u.telemetryIntervalSecs else c.telemetryIntervalSecs
  softwareScanIntervalM :=
    if 0 < u.softwareScanIntervalM then u.softwareScanIntervalM else c.softwareScanIntervalM
  eventPollIntervalSecs :=
    if 0 < u.eventPollIntervalSecs then u.eventPollIntervalSecs else c.eventPollIntervalSecs

/-- `Apply`, on the whole configuration. -/
def Config.apply (c : Config) (u : ConfigUpdateData) : Config :=
  { c with collect := c.collect.apply u }

/-- `maxInt`. -/
def maxInt (value minimum : Int) : Int := if value < minimum then minimum else value

/-- `time.Duration(maxInt(value, 1)) * unit`. -/
def durationOf (i : Interval) (value : Int) : Int := wrap64 (maxInt value 1 * i.unit)

/-- `TelemetryInterval`, `SoftwareInterval`, `EventInterval`, and what `Apply` computes. -/
def CollectConfig.interval (c : CollectConfig) (i : Interval) : Int := durationOf i (c.get i)

/-- One field at a time, an update puts its number in place if it is positive. -/
theorem get_apply (c : CollectConfig) (u : ConfigUpdateData) (i : Interval) :
    (c.apply u).get i = if 0 < u.get i then u.get i else c.get i := by
  cases i <;> rfl

/-- A configuration is its three numbers. -/
theorem CollectConfig.ext_get {c d : CollectConfig} (h : ∀ i, c.get i = d.get i) : c = d := by
  obtain ⟨t, s, e⟩ := c
  obtain ⟨t', s', e'⟩ := d
  obtain rfl : t = t' := h .telemetry
  obtain rfl : s = s' := h .software
  obtain rfl : e = e' := h .event
  rfl

/-- An update changes nothing exactly if its positive fields are already in place. -/
theorem apply_eq_self_iff (c : CollectConfig) (u : ConfigUpdateData) :
    c.apply u = c ↔ ∀ i, 0 < u.get i → u.get i = c.get i := by
  constructor
  · intro h i hpos
    have := get_apply c u i
    rw [h, if_pos hpos] at this
    exact this.symm
  · intro h
    refine CollectConfig.ext_get fun i => ?_
    rw [get_apply]
    split
    · rename_i hpos
      exact h i hpos
    · rfl

/-! ## Durations -/

theorem maxInt_one_of_pos {v : Int} (h : 0 < v) : maxInt v 1 = v := if_neg (by omega)

theorem unit_pos (i : Interval) : 0 < i.unit := by
  cases i <;> decide

/-- A number that is positive and small enough is exactly its duration. -/
theorem durationOf_of_small {i : Interval} {v : Int} (hpos : 0 < v)
    (hsmall : v * i.unit < 9223372036854775808) : durationOf i v = v * i.unit := by
  rw [durationOf, maxInt_one_of_pos hpos]
  exact wrap64_of_small (Int.mul_nonneg (by omega) (Int.le_of_lt (unit_pos i))) hsmall

/-! ## Updates from the server -/

/-- `DeviceConfigRequest` (`api/v1/devices.py`): three integers, of any size. -/
structure DeviceConfigRequest where
  telemetryIntervalSecs : Int
  softwareScanIntervalM : Int
  eventPollIntervalSecs : Int

/-- `body.model_dump()`: the data of the message, and of the stored configuration. -/
def DeviceConfigRequest.modelDump (r : DeviceConfigRequest) : Json :=
  .obj [("telemetry_interval_secs", .int r.telemetryIntervalSecs),
    ("software_scan_interval_m", .int r.softwareScanIntervalM),
    ("event_poll_interval_secs", .int r.eventPollIntervalSecs)]

/-- Which integers `json.Unmarshal` takes for an `int`. -/
theorem decodeInt_int {n m : Int} :
    decodeInt (.int n) = some m ↔ m = n ∧ -2 ^ 63 ≤ n ∧ n < 2 ^ 63 := by
  show (if _ then _ else _) = _ ↔ _
  split
  · rename_i h
    rw [Option.some.injEq]
    exact ⟨fun he => ⟨he.symm, h⟩, fun he => he.1.symm⟩
  · rename_i h
    exact ⟨fun he => (by cases he), fun he => absurd he.2 h⟩

/-- A request arrives, as it was made, if its three integers have 64 bits. -/
theorem decode_modelDump (r : DeviceConfigRequest) (u : ConfigUpdateData) :
    decodeConfigUpdate r.modelDump = some u ↔
      (u = ⟨r.telemetryIntervalSecs, r.softwareScanIntervalM, r.eventPollIntervalSecs⟩ ∧
        ∀ i, -2 ^ 63 ≤ u.get i ∧ u.get i < 2 ^ 63) := by
  have hfields : decodeConfigUpdate r.modelDump = (do
      let telemetry ← decodeInt (.int r.telemetryIntervalSecs)
      let software ← decodeInt (.int r.softwareScanIntervalM)
      let events ← decodeInt (.int r.eventPollIntervalSecs)
      pure ⟨telemetry, software, events⟩) := rfl
  rw [hfields]
  simp only [Option.bind_eq_bind, Option.bind_eq_some_iff, decodeInt_int, Option.pure_def,
    Option.some.injEq]
  constructor
  · rintro ⟨t, ⟨rfl, ht⟩, s, ⟨rfl, hs⟩, e, ⟨rfl, he⟩, rfl⟩
    refine ⟨rfl, fun i => ?_⟩
    cases i with
    | telemetry => exact ht
    | software => exact hs
    | event => exact he
  · rintro ⟨rfl, h⟩
    exact ⟨_, ⟨rfl, h .telemetry⟩, _, ⟨rfl, h .software⟩, _, ⟨rfl, h .event⟩, rfl⟩

end Agent

end Dtsys
