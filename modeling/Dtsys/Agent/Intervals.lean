/-
  POSITIVE INTERVALS (`Apply` of `config/runtime.go`, the loops of `cmd/agent/main.go`).

  `time.NewTicker` and `Ticker.Reset` panic on a duration that is not positive.  The code clamps the
  NUMBER of an interval from below, at one; the duration is a product in 64 bits, which wraps for a
  number that is too large — and the number is in the file by then.

  * `Sane` — a number whose duration is positive.
  * `configStep` — an update that arrives, or a restart that loads the saved file.
  * `run_sane` — what is in memory and in the file stays sane if the updates are.
  * `intervals_positive_iff` — all durations of a run are positive exactly if its numbers are sane.
-/
import Dtsys.Agent.RuntimeConfig
import Dtsys.Lib.Run

namespace Dtsys

namespace Agent

/-! ## Sane numbers -/

/-- The duration of `v` is positive: clamped to one and multiplied by the unit it is, modulo
    `2 ^ 64`, in the lower half. -/
def Sane (i : Interval) (v : Int) : Prop :=
  0 < maxInt v 1 * i.unit % 18446744073709551616 ∧
    maxInt v 1 * i.unit % 18446744073709551616 < 9223372036854775808

instance (i : Interval) (v : Int) : Decidable (Sane i v) := by
  rw [Sane]
  infer_instance

/-- What a sane number is: one whose duration is positive. -/
theorem durationOf_pos_iff (i : Interval) (v : Int) : 0 < durationOf i v ↔ Sane i v :=
  wrap64_pos_iff _

/-- The numbers up to some 292 years are sane. -/
theorem sane_of_small {i : Interval} {v : Int} (h : v * i.unit < 9223372036854775808) :
    Sane i v := by
  have hunit := unit_pos i
  rw [← durationOf_pos_iff]
  rw [durationOf, maxInt]
  split
  · rw [wrap64_of_small (by omega) (by cases i <;> decide)]
    omega
  · have hpos : 0 < v * i.unit := Int.mul_pos (by omega) hunit
    rw [wrap64_of_small (by omega) h]
    exact hpos

/-! ## Runs -/

/-- The configuration in memory, and in the file if the last `Save` succeeded. -/
structure Configured where
  memory : CollectConfig
  file : Option CollectConfig

/-- The agent has loaded its file. -/
def Configured.loaded (c : CollectConfig) : Configured := ⟨c, some c⟩

/-- What happens to the configuration: a message arrives, with the outcome of `Save`, or the agent is
    restarted. -/
inductive ConfigEvent
  | received (data : Json) (saved : Bool)
  | restart

/-- One event.  A message that does not decode is ignored; a file that was not saved whole is not
    what a restart goes on from. -/
def configStep (s : Configured) : ConfigEvent → Option Configured
  | .received data saved =>
    match decodeConfigUpdate data with
    | some u => some ⟨s.memory.apply u, if saved then some (s.memory.apply u) else none⟩
    | none => some s
  | .restart => s.file.map .loaded

/-- No ticker made or reset now would panic. -/
def AllPositive (s : Configured) : Prop := ∀ i, 0 < s.memory.interval i

/-- The numbers of the update are sane where they are used. -/
def SaneUpdate (e : ConfigEvent) : Prop :=
  ∀ data saved, e = .received data saved → ∀ u, decodeConfigUpdate data = some u →
    ∀ i, 0 < u.get i → Sane i (u.get i)

/-- Memory and file hold sane numbers. -/
structure SaneState (s : Configured) : Prop where
  memory : ∀ i, Sane i (s.memory.get i)
  file : ∀ c, s.file = some c → ∀ i, Sane i (c.get i)

/-- A file of sane numbers is loaded. -/
theorem sane_loaded {c : CollectConfig} (h : ∀ i, Sane i (c.get i)) :
    SaneState (.loaded c) where
  memory := h
  file := fun d hd => by
    obtain rfl := Option.some.inj hd
    exact h

/-- A step with a sane update. -/
theorem step_sane {s s' : Configured} {e : ConfigEvent} (h : SaneState s) (he : SaneUpdate e)
    (hs : configStep s e = some s') : SaneState s' := by
  cases e with
  | received data saved =>
    rw [configStep] at hs
    rcases hdecode : decodeConfigUpdate data with _ | u <;> simp only [hdecode] at hs
    · obtain rfl := Option.some.inj hs
      exact h
    · obtain rfl := Option.some.inj hs
      have hmemory : ∀ i, Sane i ((s.memory.apply u).get i) := by
        intro i
        rw [get_apply]
        split
        · rename_i hpos
          exact he data saved rfl u hdecode i hpos
        · exact h.memory i
      refine ⟨hmemory, fun c hc => ?_⟩
      cases saved with
      | true =>
        obtain rfl := Option.some.inj hc
        exact hmemory
      | false => cases hc
  | restart =>
    obtain ⟨c, hc, rfl⟩ := Option.map_eq_some_iff.mp hs
    exact sane_loaded (h.file c hc)

/-- What is in memory and in the file stays sane. -/
theorem run_sane {c : CollectConfig} (hc : ∀ i, Sane i (c.get i)) {es : List ConfigEvent}
    (he : ∀ e ∈ es, SaneUpdate e) {t : Configured}
    (ht : Run.exec configStep (.loaded c) es = some t) : SaneState t :=
  Run.exec_inv (C := fun _ e => SaneUpdate e) (I := SaneState)
    (fun _ _ _ he hs h => step_sane h he hs) (Run.guarded_of_forall _ he) ht (sane_loaded hc)

/-- All tickers can be made exactly if all numbers in memory are sane. -/
theorem allPositive_iff (s : Configured) : AllPositive s ↔ ∀ i, Sane i (s.memory.get i) :=
  forall_congr' fun i => durationOf_pos_iff i _

/-- **Intervals are always positive** exactly if the numbers are sane that the agent was started
    with, and the positive ones of every update that decodes.

    The clamp is before the multiplication, which wraps.  `Sane` says of a number that its product does not; the run
    lemma keeps it for the numbers in memory and in the file. -/
theorem intervals_positive_iff {c : CollectConfig} {es : List ConfigEvent} {t : Configured}
    (ht : Run.exec configStep (.loaded c) es = some t) :
    (∀ es₁ es₂, es = es₁ ++ es₂ → ∀ s, Run.exec configStep (.loaded c) es₁ = some s →
      AllPositive s) ↔ (∀ i, Sane i (c.get i)) ∧ ∀ e ∈ es, SaneUpdate e := by
  constructor
  · intro h
    have hstart : AllPositive (.loaded c) := h [] es rfl (.loaded c) rfl
    refine ⟨(allPositive_iff (.loaded c)).mp hstart, fun e hmem data saved he u hdecode i hpos => ?_⟩
    subst he
    obtain ⟨pre, post, rfl⟩ := List.append_of_mem hmem
    obtain ⟨s, hpre, hrest⟩ := Run.exec_append_eq ht
    obtain ⟨s', hstep, -⟩ := Run.exec_cons_eq.mp hrest
    have hone : Run.exec configStep s [.received data saved] = some s' :=
      Run.exec_cons_eq.mpr ⟨s', hstep, rfl⟩
    have hpositive := h (pre ++ [.received data saved]) post (by simp) s'
      (Run.exec_append hpre hone)
    -- the number is in memory after the update
    have hmemory : s'.memory.get i = u.get i := by
      simp only [configStep, hdecode] at hstep
      obtain rfl := Option.some.inj hstep
      show (s.memory.apply u).get i = _
      rw [get_apply, if_pos hpos]
    have hsane := (allPositive_iff s').mp hpositive i
    rwa [hmemory] at hsane
  · rintro ⟨hc, he⟩ es₁ es₂ rfl s hs
    exact (allPositive_iff s).mpr
      (run_sane hc (fun e hmem => he e (List.mem_append_left _ hmem)) hs).memory

/-- What that means for a request: its positive numbers, if all three have 64 bits. -/
theorem saneUpdate_request (r : DeviceConfigRequest) (saved : Bool) :
    SaneUpdate (.received r.modelDump saved) ↔
      ∀ u, decodeConfigUpdate r.modelDump = some u → ∀ i, 0 < u.get i → Sane i (u.get i) := by
  constructor
  · exact fun h => h _ _ rfl
  · intro h data saved' he
    obtain ⟨rfl, rfl⟩ := ConfigEvent.received.inj he
    exact h

/-! ## Three hundred years -/

/-- The defaults of `Load`. -/
def defaultCollect : CollectConfig := ⟨60, 60, 120⟩

/-- A reasonable request, and one that is not. -/
def everyMinute : DeviceConfigRequest := ⟨60, 60, 60⟩
/-- A telemetry interval of 9,223,372,037 s, which in nanoseconds is beyond 64 bits. -/
def everyThreeCenturies : DeviceConfigRequest := ⟨9223372037, 60, 60⟩

/-- An update to one minute, and a restart. -/
theorem intervals_positive_minute :
    ∃ t, Run.exec configStep (.loaded defaultCollect)
        [.received everyMinute.modelDump true, .restart] = some t ∧
      ((∀ es₁ es₂, [.received everyMinute.modelDump true, .restart] = es₁ ++ es₂ →
          ∀ s, Run.exec configStep (.loaded defaultCollect) es₁ = some s → AllPositive s) ↔
        (∀ i, Sane i (defaultCollect.get i)) ∧
          ∀ e ∈ [.received everyMinute.modelDump true, .restart], SaneUpdate e) :=
  ⟨.loaded ⟨60, 60, 60⟩, rfl, intervals_positive_iff rfl⟩

/-- The server accepts the second one, the agent applies and saves it, and starts with it again: the
    ticker of the telemetry loop is made with a negative duration. -/
theorem three_centuries_negative :
    ∃ t, Run.exec configStep (.loaded defaultCollect)
        [.received everyThreeCenturies.modelDump true, .restart] = some t ∧
      t.memory.interval .telemetry < 0 :=
  ⟨.loaded ⟨9223372037, 60, 60⟩, rfl, by decide⟩

end Agent

end Dtsys
