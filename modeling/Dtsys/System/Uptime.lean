/-
  THE ACCOUNT OF THE OUTAGES: when what the `online` events of a device are charged is what its outages
  last.

  An outage is an interval of the event log: from an `offline` event to the first `online` event after
  it.  A connection charges its event the time since the NEWEST `offline` event, whether or not an
  `online` event has already been charged for it.  So the account is right as long as

  * a connection finds an outage that nothing has ended, or the last one is less than a second old;
  * an outage begins with one `offline` event;
  * an event is not older than those before it: its timestamp is when its transaction began.

  `Kept` is the invariant: the log is a `Booked` account of the library, and its newest event says
  whether an outage is open.
-/
import Dtsys.Lib.Spans
import Dtsys.System.Freshness
import Mathlib.Data.List.Sort

namespace Dtsys

open Server

/-- `event_type == "offline"`. -/
def UptimeEvent.down (e : UptimeEvent) : Bool := e.eventType == .offline

/-- `duration_secs or 0`. -/
def UptimeEvent.charge (e : UptimeEvent) : Nat := e.durationSecs.getD 0

/-- The events of a device by their timestamps. -/
def Db.uptimeLog (d : Uuid) (db : Db) : List UptimeEvent :=
  (db.eventsOf d).insertionSort fun a b => a.timestamp ≤ b.timestamp

/-- The outages of a device that are over. -/
def Db.outages (d : Uuid) (db : Db) : List (Nat × Nat) :=
  spans UptimeEvent.down UptimeEvent.timestamp (db.uptimeLog d)

/-- The durations of all its `online` events. -/
def Db.onlineSecs (d : Uuid) (db : Db) : Nat :=
  (((db.eventsOf d).filter fun e => e.eventType == .online).map UptimeEvent.charge).sum

namespace Hub

variable {E : Env} {s t : Hub} {d : Uuid}

/-- The beginning of the period of a history. -/
def periodStart (days t : Nat) : Nat := t - days * 86400 * second

/-- An outage inside the period from `since` on. -/
def inside (since : Nat) (o : Nat × Nat) : Bool := decide (since ≤ o.2) && decide (since ≤ o.1)

/-- An outage that was open when the period began. -/
def across (since : Nat) (o : Nat × Nat) : Bool := decide (since ≤ o.2) && !decide (since ≤ o.1)

/-- Every outage is counted once. -/
structure Counted (d : Uuid) (s : Hub) : Prop where
  /-- all charges together are what the outages last -/
  sum : s.db.onlineSecs d = total second (fun _ => true) (s.db.outages d)
  /-- an `online` event right after another one is charged nothing -/
  repeated : ∀ pre post a b, s.db.uptimeLog d = pre ++ a :: b :: post → a.eventType = .online →
    b.eventType = .online → b.charge = 0
  /-- a history counts the outages that end in its period -/
  history : ∀ days, totalDowntimeSecs d days s.clock s.db =
    total second (inside (periodStart days s.clock)) (s.db.outages d) +
      total second (across (periodStart days s.clock)) (s.db.outages d)
  /-- and those inside the period are together no longer than it -/
  bounded : ∀ days, total second (inside (periodStart days s.clock)) (s.db.outages d) ≤ days * 86400

/-! ## The invariant -/

/-- What is open is what the newest event says. -/
def openSince : Option UptimeEvent → Option Nat
  | some e => if e.down then some e.timestamp else none
  | none => none

/-- The events of a device are in order, and are the books of its outages. -/
structure Kept (d : Uuid) (s : Hub) : Prop where
  sorted : (s.db.eventsOf d).Pairwise fun a b => a.timestamp ≤ b.timestamp
  past : ∀ e ∈ s.db.eventsOf d, e.timestamp ≤ s.clock
  booked : Booked UptimeEvent.down UptimeEvent.timestamp second UptimeEvent.charge .empty
    (s.db.eventsOf d)
  opened : (ledger UptimeEvent.down UptimeEvent.timestamp (s.db.eventsOf d)).opened =
    openSince (s.db.eventsOf d).getLast?

theorem kept_start {w : World} (hnone : w.committed.eventsOf d = []) : Kept d (start w) := by
  have hev : (start w).db.eventsOf d = [] := hnone
  constructor
  · rw [hev]
    exact .nil
  · rw [hev]
    exact fun e he => nomatch he
  · rw [hev]
    trivial
  · rw [hev]
    rfl

/-- A step that writes no event of the device. -/
theorem Kept.same (hk : Kept d s) (hclock : s.clock ≤ t.clock)
    (hev : t.db.eventsOf d = s.db.eventsOf d) : Kept d t := by
  constructor
  · rw [hev]
    exact hk.sorted
  · rw [hev]
    exact fun e he => Nat.le_trans (hk.past e he) hclock
  · rw [hev]
    exact hk.booked
  · rw [hev]
    exact hk.opened

/-- One more event keeps the account if it is the newest one, is charged what it costs, and opens
    nothing that is open. -/
theorem Kept.concat (hk : Kept d s) (hclock : s.clock ≤ t.clock) {e : UptimeEvent}
    (hev : t.db.eventsOf d = s.db.eventsOf d ++ [e])
    (hlast : ∀ x ∈ s.db.eventsOf d, x.timestamp ≤ e.timestamp) (hpast : e.timestamp ≤ s.clock)
    (hup : e.down = false → e.charge =
      (ledger UptimeEvent.down UptimeEvent.timestamp (s.db.eventsOf d)).cost second e.timestamp)
    (hdown : e.down = true → openSince (s.db.eventsOf d).getLast? = none) : Kept d t := by
  constructor
  · rw [hev, List.pairwise_append]
    refine ⟨hk.sorted, List.pairwise_singleton _ _, fun x hx y hy => ?_⟩
    rw [List.mem_singleton] at hy
    subst hy
    exact hlast x hx
  · intro x hx
    rw [hev] at hx
    rcases List.mem_append.mp hx with hx | hx
    · exact Nat.le_trans (hk.past x hx) hclock
    · rw [List.mem_singleton] at hx
      subst hx
      exact Nat.le_trans hpast hclock
  · rw [hev]
    exact hk.booked.concat hup
  · rw [hev, ledger_concat, List.getLast?_concat]
    show _ = if e.down then some e.timestamp else none
    cases hd : e.down with
    | true => exact record_down hd (hk.opened.trans (hdown hd))
    | false => exact record_up hd _

/-! ## From the invariant to the account -/

theorem Kept.uptimeLog_eq (hk : Kept d s) : s.db.uptimeLog d = s.db.eventsOf d :=
  hk.sorted.insertionSort_eq

theorem up_iff (e : UptimeEvent) : (e.eventType == .online) = !e.down := by
  rw [UptimeEvent.down]
  cases e.eventType <;> rfl

/-- What is charged in a period is what the outages that end in it last. -/
theorem Kept.charged (hk : Kept d s) (p : Nat → Bool) :
    (((s.db.eventsOf d).filter fun e => !e.down && p e.timestamp).map UptimeEvent.charge).sum =
      total second (fun o => p o.2) (s.db.outages d) := by
  have hsum := hk.booked.sum_eq p
  have hzero : total second (fun o => p o.2) Ledger.empty.closed = 0 := rfl
  rw [hzero, Nat.zero_add] at hsum
  rw [Db.outages, spans, hk.uptimeLog_eq]
  exact hsum.symm

/-- What the invariant is for. -/
theorem Kept.counted (hk : Kept d s) : Counted d s where
  sum := by
    have hall := hk.charged fun _ => true
    rw [← hall]
    rw [Db.onlineSecs]
    simp only [up_iff, Bool.and_true]
  repeated pre post a b hlog ha hb := by
    rw [hk.uptimeLog_eq] at hlog
    have hbooked := hk.booked
    rw [hlog] at hbooked
    have hup : ∀ e : UptimeEvent, e.eventType = .online → e.down = false := by
      intro e he
      rw [UptimeEvent.down, he]
      rfl
    exact hbooked.repeated (hup a ha) (hup b hb)
  -- An outage of the period begins inside it or lies across its start.
  history days := by
    have hend := hk.charged fun t => decide (periodStart days s.clock ≤ t)
    have hsplit : total second (fun o => decide (periodStart days s.clock ≤ o.2)) (s.db.outages d) =
        total second (inside (periodStart days s.clock)) (s.db.outages d) +
          total second (across (periodStart days s.clock)) (s.db.outages d) := total_split _ _ _
    rw [← hsplit, ← hend]
    rw [totalDowntimeSecs]
    simp only [List.filter_filter, up_iff]
    rfl
  bounded days := by
    have hspans : s.db.outages d = spans UptimeEvent.down UptimeEvent.timestamp (s.db.eventsOf d) := by
      rw [Db.outages, hk.uptimeLog_eq]
    rw [hspans]
    have hle : total second (inside (periodStart days s.clock))
        (spans UptimeEvent.down UptimeEvent.timestamp (s.db.eventsOf d)) ≤
          (s.clock - periodStart days s.clock) / second :=
      total_le hk.sorted hk.past fun o _ ho => of_decide_eq_true (Bool.and_eq_true_iff.mp ho).2
    have hlen : (s.clock - periodStart days s.clock) / second ≤ days * 86400 := by
      refine Nat.div_le_of_le_mul ?_
      rw [periodStart, Nat.mul_comm second]
      omega
    exact Nat.le_trans hle hlen

/-! ## What keeps it -/

/-- The time a connection charges is that of the outage it ends: nothing, if none is open. -/
def Due (newest : Option UptimeEvent) (last : Option Nat) (began t : Nat) : Prop :=
  match newest with
  | none => True
  | some e =>
    if e.down then (t - e.timestamp) / second = (began - e.timestamp) / second
    else ∀ o ∈ last, t < o + second

/-- No event is younger than the transaction that adds the next one; a connection is due; a pass marks
    a device whose newest event is not `offline`. -/
def Accountable (d : Uuid) (s : Hub) : Label → Prop
  | .connect n _ ip => isLoopback ip = false → ∀ hs, s.handshakes n = some hs → hs.device.id = d →
    (∀ e ∈ s.db.eventsOf d, e.timestamp ≤ hs.began) ∧
      Due (s.db.eventsOf d).getLast? (lastOffline d s.db) hs.began s.clock
  | .checkEnd n => ∀ p, s.passes n = some p → d ∈ p.stale.map Device.id →
    (∀ e ∈ s.db.eventsOf d, e.timestamp ≤ p.began) ∧
      ∀ e ∈ (s.db.eventsOf d).getLast?, e.down = false
  | _ => True

theorem lastOffline_eq (db : Db) :
    lastOffline d db = (((db.eventsOf d).filter UptimeEvent.down).map UptimeEvent.timestamp).max? := by
  rw [lastOffline, Db.eventsOf, List.filter_filter]
  refine congrArg (fun es => (es.map UptimeEvent.timestamp).max?) (List.filter_congr fun e _ => ?_)
  exact Bool.and_comm _ _

/-- When the newest event is `offline`, it is the newest of these. -/
theorem Kept.lastOffline_eq (hk : Kept d s) {e : UptimeEvent}
    (he : (s.db.eventsOf d).getLast? = some e) (hd : e.down = true) :
    lastOffline d s.db = some e.timestamp := by
  obtain ⟨es, hes⟩ := List.getLast?_eq_some_iff.mp he
  have hsorted := hk.sorted
  rw [hes, List.pairwise_append] at hsorted
  rw [Hub.lastOffline_eq, hes, List.max?_eq_some_iff]
  constructor
  · refine List.mem_map_of_mem (List.mem_filter.mpr ⟨?_, hd⟩)
    exact List.mem_append_right _ (List.mem_singleton.mpr rfl)
  · intro o ho
    obtain ⟨x, hx, rfl⟩ := List.mem_map.mp ho
    rcases List.mem_append.mp (List.mem_filter.mp hx).1 with hx | hx
    · exact hsorted.2.2 x hx e (List.mem_singleton.mpr rfl)
    · rw [List.mem_singleton] at hx
      rw [hx]

/-- **A due connection is charged what it costs.** -/
theorem Kept.due (hk : Kept d s) {began : Nat} (id : Uuid)
    (hdue : Due (s.db.eventsOf d).getLast? (lastOffline d s.db) began s.clock) :
    (onlineEvent id d began s.clock s.db).charge =
      (ledger UptimeEvent.down UptimeEvent.timestamp (s.db.eventsOf d)).cost second began := by
  show ((lastOffline d s.db).map fun o => (s.clock - o) / second).getD 0 = _
  rw [Ledger.cost, hk.opened]
  cases hlast : (s.db.eventsOf d).getLast? with
  | none =>
    have hnone : s.db.eventsOf d = [] := List.getLast?_eq_none_iff.mp hlast
    rw [Hub.lastOffline_eq, hnone]
    rfl
  | some e =>
    rw [hlast] at hdue
    cases hd : e.down with
    | true =>
      have hsame : (s.clock - e.timestamp) / second = (began - e.timestamp) / second := by
        simpa [Due, hd] using hdue
      rw [hk.lastOffline_eq hlast hd]
      show (s.clock - e.timestamp) / second = _
      rw [hsame]
      simp [openSince, hd]
    | false =>
      have hfresh : ∀ o ∈ lastOffline d s.db, s.clock < o + second := by
        simpa [Due, hd] using hdue
      have hclosed : openSince (some e) = none := by simp [openSince, hd]
      rw [hclosed]
      cases ho : lastOffline d s.db with
      | none => rfl
      | some o =>
        have hlt : s.clock < o + second := hfresh o ho
        show (s.clock - o) / second = 0
        exact Nat.div_eq_of_lt (by unfold second at hlt ⊢; omega)

/-- A handshake from the loopback interface ends in front of the connect sequence. -/
theorem connect_loopback {n : Nat} {ws : Socket} {ip : String} (hip : isLoopback ip = true)
    (h : step E s (.connect n ws ip) = some t) : t.db = s.db := by
  obtain ⟨hs, hhs, rfl⟩ := Option.map_eq_some_iff.mp h
  rw [connectDevice, clearAttempts]
  simp only [hip, if_true]
  rfl

/-- A connection keeps the account if it is due. -/
theorem Kept.connected (hk : Kept d s) (hclock : s.clock ≤ t.clock) {hs : Handshake} (id : Uuid)
    (huptime : t.db.uptimeEvents =
      s.db.uptimeEvents ++ [onlineEvent id hs.device.id hs.began s.clock s.db])
    (hbegan : hs.began ≤ s.clock)
    (hacc : hs.device.id = d → (∀ e ∈ s.db.eventsOf d, e.timestamp ≤ hs.began) ∧
      Due (s.db.eventsOf d).getLast? (lastOffline d s.db) hs.began s.clock) : Kept d t := by
  have hev : t.db.eventsOf d = s.db.eventsOf d ++
      [onlineEvent id hs.device.id hs.began s.clock s.db].filter fun e => e.deviceId == d := by
    unfold Db.eventsOf
    rw [huptime, List.filter_append]
  by_cases hd : hs.device.id = d
  · obtain ⟨hlast, hdue⟩ := hacc hd
    subst hd
    rw [List.filter_cons, if_pos (by simp [onlineEvent])] at hev
    exact hk.concat hclock hev hlast hbegan (fun _ => hk.due id hdue) fun hdown => nomatch hdown
  · rw [List.filter_cons, if_neg (by simpa [onlineEvent] using hd), List.filter_nil,
      List.append_nil] at hev
    exact hk.same hclock hev

/-- A pass keeps it if the newest event of a device it marks is not `offline`. -/
theorem Kept.passed (hk : Kept d s) (hclock : s.clock ≤ t.clock) {p : OfflinePass}
    (hdone : Passed p.began p.stale s.db t.db) (hbegan : p.began ≤ s.clock)
    (hkeys : (p.stale.map Device.id).Nodup)
    (hacc : d ∈ p.stale.map Device.id → (∀ e ∈ s.db.eventsOf d, e.timestamp ≤ p.began) ∧
      ∀ e ∈ (s.db.eventsOf d).getLast?, e.down = false) : Kept d t := by
  rcases hdone.eventsOf hkeys d with ⟨-, hev⟩ | ⟨hin, e, hev, htype, hts, -⟩
  · exact hk.same hclock hev
  · obtain ⟨hlast, hup⟩ := hacc hin
    have hdown : e.down = true := by
      rw [UptimeEvent.down, htype]
      rfl
    have hclosed : openSince (s.db.eventsOf d).getLast? = none := by
      cases hnew : (s.db.eventsOf d).getLast? with
      | none => rfl
      | some x => simp [openSince, hup x hnew]
    rw [← hts] at hlast hbegan
    exact hk.concat hclock hev hlast hbegan (fun hno => by rw [hdown] at hno; cases hno)
      fun _ => hclosed

/-- **One step keeps the account.** -/
theorem Kept.step (hk : Kept d s) (ht : Timed s) {l : Label} (hacc : Accountable d s l)
    (h : Hub.step E s l = some t) : Kept d t := by
  have hclock : s.clock ≤ t.clock := (step_moved h).clock
  rcases step_change h with hsame | hchange
  · exact hk.same hclock (by rw [hsame])
  · by_cases hc : ∃ n ws ip, l = .connect n ws ip
    · obtain ⟨n, ws, ip, rfl⟩ := hc
      cases hip : isLoopback ip with
      | true => exact hk.same hclock (by rw [connect_loopback hip h])
      | false =>
        generalize hdb : t.db = a at hchange
        cases hchange with
        | @connected _ _ _ hs hhs id =>
          exact hk.connected hclock id (by rw [hdb]) (ht.handshakes n hs hhs) (hacc hip hs hhs)
    · by_cases hp : ∃ n, l = .checkEnd n
      · obtain ⟨n, rfl⟩ := hp
        generalize hdb : t.db = a at hchange
        cases hchange with
        | @passed _ p hpass _ hdone =>
          obtain ⟨hbegan, hkeys⟩ := ht.passes n p hpass
          exact hk.passed hclock (by rw [hdb]; exact hdone) hbegan hkeys (hacc p hpass)
      · have huptime : t.db.uptimeEvents = s.db.uptimeEvents :=
          hchange.uptime_eq (fun n ws ip he => hc ⟨n, ws, ip, he⟩) fun n he => hp ⟨n, he⟩
        refine hk.same hclock ?_
        unfold Db.eventsOf
        rw [huptime]

/-- **Every outage is counted once** in every run of accountable steps.

    The second online event in a row charges the outage once more.  `Kept` says that the events of the device are in
    order and the charges are the books of its outages; each step adds the length of the outage that it ends, or
    nothing. -/
theorem outages_counted {w : World} {ls : List Label}
    (hkeys : (w.committed.devices.map Device.id).Nodup) (hnone : w.committed.eventsOf d = [])
    (hacc : Run.Guarded (Hub.step E) (Accountable d) (start w) ls)
    (h : Run.exec (Hub.step E) (start w) ls = some s) : Counted d s := by
  have hinv : Timed s ∧ Kept d s :=
    Run.exec_inv (I := fun s => Timed s ∧ Kept d s)
      (fun _ _ _ hl hs hI => ⟨step_timed hs hI.1, hI.2.step hI.1 hl hs⟩) hacc h
      ⟨timed_start hkeys, kept_start hnone⟩
  exact hinv.2.counted

/-! ## Runs -/

instance (newest : Option UptimeEvent) (last : Option Nat) (began t : Nat) :
    Decidable (Due newest last began t) :=
  match newest with
  | none => isTrue trivial
  | some e =>
    inferInstanceAs (Decidable (if e.down then (t - e.timestamp) / second = (began - e.timestamp) / second
      else ∀ o ∈ last, t < o + second))

instance (d : Uuid) (s : Hub) : ∀ l, Decidable (Accountable d s l)
  | .connect n _ ip =>
    match hh : s.handshakes n with
    | none => isTrue fun _ hs h => by
      rw [hh] at h
      cases h
    | some hs =>
      decidable_of_iff (isLoopback ip = false → hs.device.id = d →
          (∀ e ∈ s.db.eventsOf d, e.timestamp ≤ hs.began) ∧
            Due (s.db.eventsOf d).getLast? (lastOffline d s.db) hs.began s.clock)
        ⟨fun hall hip hs' h => by
          rw [hh] at h
          cases h
          exact hall hip,
        fun hacc hip => hacc hip hs hh⟩
  | .checkEnd n =>
    match hp : s.passes n with
    | none => isTrue fun p h => by
      rw [hp] at h
      cases h
    | some p =>
      decidable_of_iff (d ∈ p.stale.map Device.id → (∀ e ∈ s.db.eventsOf d, e.timestamp ≤ p.began) ∧
          ∀ e ∈ (s.db.eventsOf d).getLast?, e.down = false)
        ⟨fun hall p' h => by
          rw [hp] at h
          cases h
          exact hall,
        fun hacc => hacc p hp⟩
  | .wait _ | .authenticate .. | .message .. | .close _ | .offlineTask _ | .checkBegin _
  | .setMaintenance .. | .revoke .. => isTrue trivial

/-- A pass marks the device, and it comes back 100 seconds later. -/
def outage : List Label := goesSilent ++ [.close 0, .wait (100 * second)] ++ comesUp

/-- Two outages of 100 seconds. -/
theorem outages_counted_twice :
    ∃ s, Run.exec (Hub.step Env.sample) (start oneDevice) (comesUp ++ outage ++ outage) = some s ∧
      Counted 1 s ∧ s.db.onlineSecs 1 = 200 := by
  have hobs : (Run.exec (Hub.step Env.sample) (start oneDevice)
      (comesUp ++ outage ++ outage)).map (fun s => s.db.onlineSecs 1) = some 200 := by
    decide +kernel
  obtain ⟨s, hs, hsecs⟩ := Option.map_eq_some_iff.mp hobs
  have hcounted : Counted 1 s :=
    outages_counted (by decide +kernel) (by decide +kernel) (by decide +kernel) hs
  exact ⟨s, hs, hcounted, hsecs⟩

/-- After its outage the device drops its connection and connects once more, 100 seconds later: the
    outage of 100 seconds is charged again, with 200. -/
def flapping : List Label :=
  comesUp ++ outage ++ [.close 0, .wait (100 * second)] ++ comesUp

/-- The account of one outage is 300 seconds. -/
theorem outage_counted_again :
    ∃ s, Run.exec (Hub.step Env.sample) (start oneDevice) flapping = some s ∧ ¬ Counted 1 s := by
  have hobs : (Run.exec (Hub.step Env.sample) (start oneDevice) flapping).map
      (fun s => (s.db.onlineSecs 1, total second (fun _ => true) (s.db.outages 1))) =
        some (300, 100) := by decide +kernel
  obtain ⟨s, hs, hpair⟩ := Option.map_eq_some_iff.mp hobs
  obtain ⟨hsecs, hlen⟩ := Prod.mk.inj hpair
  refine ⟨s, hs, fun hcounted => ?_⟩
  have hsum := hcounted.sum
  rw [hsecs, hlen] at hsum
  omega

end Hub

end Dtsys
