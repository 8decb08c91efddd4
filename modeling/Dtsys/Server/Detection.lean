/-
  WHICH DEVICES A PASS TAKES OFFLINE.

  `_check_offline_devices_async` asks for the devices in status `online`.  A device that has gone silent
  while its status was `alert` is not among them: nobody notices that it is gone.

  1. `Silent` — what the pass is there to find;
  2. `checkOfflineDevices_committed` — the rows a committed pass leaves;
  3. `detection_complete_iff` — it finds every silent device exactly when none of them is in `alert`.

  The pass itself is `Dtsys.Server.Offline`: one UPDATE for each stale device, an event, an alert.  What
  is added here is the comparison with the devices that should have been found (`Noticed`), and the
  exact condition under which none is missed.
-/
import Dtsys.Server.Offline

namespace Dtsys

namespace Server

variable {E : Env} {w w' : World}

/-- The last sign of life is older than the threshold. -/
def Overdue (E : Env) (t : Nat) (r : Device) : Prop :=
  ∃ s, r.lastSeen = some s ∧ s + E.settings.deviceOfflineThresholdSeconds * second < t

/-- A device that should be `offline`. -/
structure Silent (E : Env) (t : Nat) (r : Device) : Prop where
  overdue : Overdue E t r
  revoked : r.isRevoked = false
  maintenance : r.maintenanceMode = false

/-- The query finds the silent devices among those in status `online`. -/
theorem staleDevice_iff (t : Nat) (r : Device) :
    staleDevice E t r = true ↔ r.status = .online ∧ Silent E t r := by
  rw [staleDevice]
  cases hseen : r.lastSeen with
  | none =>
    refine iff_of_false (by simp) fun h => ?_
    obtain ⟨s, hs, -⟩ := h.2.overdue
    rw [hseen] at hs
    cases hs
  | some s =>
    simp only [Bool.and_eq_true, beq_iff_eq, decide_eq_true_eq, Bool.not_eq_true']
    constructor
    · rintro ⟨⟨⟨hst, hlt⟩, hrev⟩, hm⟩
      exact ⟨hst, ⟨s, hseen, hlt⟩, hrev, hm⟩
    · rintro ⟨hst, ⟨s', hs', hlt⟩, hrev, hm⟩
      obtain rfl : s = s' := Option.some.inj (hseen.symm.trans hs')
      exact ⟨⟨⟨hst, hlt⟩, hrev⟩, hm⟩

/-- The row of a device after the pass. -/
def passedRow (E : Env) (t : Nat) (r : Device) : Device :=
  if staleDevice E t r then { r with status := .offline } else r

/-- A pass that returned has committed the status of the devices it found, and of no other. -/
theorem checkOfflineDevices_committed (hc : w.Clean)
    (hkey : (w.committed.devices.map Device.id).Nodup)
    (hrun : checkOfflineDevices E w = (.ok (), w')) :
    w'.committed.devices = w.committed.devices.map (passedRow E w.clock) := by
  rw [checkOfflineDevices, Act.bind_of_ok (findStale_run hc.toSettled)] at hrun
  rw [markStale] at hrun
  rcases markAll_run w.clock (w.db.devices.filter (staleDevice E w.clock)) w
    (flushable_of_settled hc.toSettled) with ⟨e, v, hmark, -⟩ | ⟨v, hmark, hv, hpassed⟩
  · rw [Act.bind_of_error hmark] at hrun
    cases (Prod.mk.inj hrun).1
  · rw [Act.bind_of_ok hmark, commit_accepted E hv.accepted] at hrun
    obtain rfl := (Prod.mk.inj hrun).2
    have hdevices := hpassed.devices
    rw [hc.toSettled.view_eq, hc.db] at hdevices
    refine hdevices.trans (List.map_congr_left fun r hr => ?_)
    -- the ids of the rows that were found are found in no other row
    have hfound : r.id ∈ (w.committed.devices.filter (staleDevice E w.clock)).map Device.id ↔
        staleDevice E w.clock r = true := by
      constructor
      · intro hin
        obtain ⟨x, hx, hid⟩ := List.mem_map.mp hin
        obtain ⟨hmem, hstale⟩ := List.mem_filter.mp hx
        obtain rfl : x = r := List.inj_on_of_nodup_map hkey hmem hr hid
        exact hstale
      · exact fun hstale => List.mem_map.mpr ⟨r, List.mem_filter.mpr ⟨hr, hstale⟩, rfl⟩
    rw [passedRow]
    simp only [hfound]

/-- A pass does not change who is silent. -/
theorem passedRow_silent (t : Nat) (r : Device) : Silent E t (passedRow E t r) ↔ Silent E t r := by
  rw [passedRow]
  split
  · exact ⟨fun h => ⟨h.overdue, h.revoked, h.maintenance⟩,
      fun h => ⟨h.overdue, h.revoked, h.maintenance⟩⟩
  · exact Iff.rfl

/-- A silent device is offline after the pass, unless its status was `alert`. -/
theorem passedRow_offline {t : Nat} {r : Device} (h : Silent E t r) :
    (passedRow E t r).status = .offline ↔ r.status ≠ .alert := by
  rw [passedRow]
  by_cases hstale : staleDevice E t r = true
  · have honline := ((staleDevice_iff t r).mp hstale).1
    rw [if_pos hstale, honline]
    exact iff_of_true rfl (by decide)
  · rw [if_neg hstale]
    have hnot : r.status ≠ .online := fun hon => hstale ((staleDevice_iff t r).mpr ⟨hon, h⟩)
    cases hst : r.status with
    | online => exact absurd hst hnot
    | offline => decide
    | alert => decide

/-- After the pass every silent device is offline, and a device seen since the threshold has the row
    it had. -/
structure Noticed (E : Env) (t : Nat) (before after : Db) : Prop where
  offline : ∀ r ∈ after.devices, Silent E t r → r.status = .offline
  recent : ∀ r ∈ after.devices, ¬ Overdue E t r → r ∈ before.devices
  kept : ∀ r ∈ before.devices, ¬ Overdue E t r → r ∈ after.devices

/-- **Offline detection is complete** exactly when no silent device is in status `alert`.

    The SELECT of the pass has `status == "online"`.  From left to right a silent device in `alert` is one that the
    pass leaves as it was. -/
theorem detection_complete_iff (hc : w.Clean) (hkey : (w.committed.devices.map Device.id).Nodup)
    (hrun : checkOfflineDevices E w = (.ok (), w')) :
    Noticed E w.clock w.committed w'.committed ↔
      ∀ r ∈ w.committed.devices, Silent E w.clock r → r.status ≠ .alert := by
  have hrows := checkOfflineDevices_committed hc hkey hrun
  have hrecent : ∀ r, ¬ Overdue E w.clock r → passedRow E w.clock r = r := fun r hr =>
    if_neg fun hstale => hr ((staleDevice_iff _ r).mp hstale).2.overdue
  constructor
  · intro hnoticed r hr hsilent
    refine (passedRow_offline hsilent).mp (hnoticed.offline _ ?_ ((passedRow_silent _ r).mpr hsilent))
    rw [hrows]
    exact List.mem_map_of_mem hr
  · intro hnone
    refine ⟨fun r hr hsilent => ?_, fun r hr hlate => ?_, fun r hr hlate => ?_⟩
    · rw [hrows] at hr
      obtain ⟨row, hrow, rfl⟩ := List.mem_map.mp hr
      have hsilent' := (passedRow_silent _ row).mp hsilent
      exact (passedRow_offline hsilent').mpr (hnone row hrow hsilent')
    · rw [hrows] at hr
      obtain ⟨row, hrow, rfl⟩ := List.mem_map.mp hr
      have hlate' : ¬ Overdue E w.clock row := fun h => hlate (by
        rw [passedRow]
        split
        · exact h
        · exact h)
      rw [hrecent row hlate']
      exact hrow
    · rw [hrows]
      exact List.mem_map.mpr ⟨r, hr, hrecent r hlate⟩

/-- A device with the given status, last seen ten minutes ago. -/
def gone (st : DeviceStatus) : World :=
  { World.start { Db.empty with devices := [{ Device.sample 1 with status := st, lastSeen := some 0 }] }
      (.sample 1) with clock := 600 * second }

theorem gone_clean (st : DeviceStatus) : (gone st).Clean := ⟨⟨rfl, rfl⟩, rfl⟩

/-- The one that was online is noticed. -/
theorem detection_complete_online : ∃ w', checkOfflineDevices Env.sample (gone .online) = (.ok (), w') ∧
    Noticed Env.sample (gone .online).clock (gone .online).committed w'.committed := by
  have hrun : checkOfflineDevices Env.sample (gone .online) =
    (.ok (), (checkOfflineDevices Env.sample (gone .online)).2) := rfl
  refine ⟨_, hrun, (detection_complete_iff (gone_clean .online) (by decide) hrun).mpr ?_⟩
  intro r hr _
  obtain rfl := List.mem_singleton.mp hr
  decide

/-- The one that was in `alert` is not. -/
theorem detection_misses_alert : ∃ w', checkOfflineDevices Env.sample (gone .alert) = (.ok (), w') ∧
    ¬ Noticed Env.sample (gone .alert).clock (gone .alert).committed w'.committed := by
  refine ⟨(checkOfflineDevices Env.sample (gone .alert)).2, rfl, fun hnoticed => ?_⟩
  have hoff := hnoticed.offline { Device.sample 1 with status := .alert, lastSeen := some 0 }
    List.mem_cons_self ⟨⟨0, rfl, by decide⟩, rfl, rfl⟩
  cases hoff

end Server

end Dtsys
