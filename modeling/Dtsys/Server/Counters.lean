/-
  RATE COUNTERS: `check_rate_limit`, and its two copies in `_handle_event` and `device_websocket`.

  All three INCR a key, and EXPIRE it when it was new.  A key is a `Slot`; a call has the time of its
  INCR, how much later its EXPIRE comes, and where it fails, if it does (`Fault`).

  `Ledger` is what a rate limit counts: the calls since the key was created, until its window closes.
  The key agrees with it as long as every key gets its EXPIRE.  A call that creates the key and stops
  before the EXPIRE leaves a counter that never starts again; and `check_rate_limit` compares with `<`
  where the others let the limit through.  These two are the only ways to miss the limit
  (`counters_exact_iff`).
-/
import Dtsys.Server.Router
import Dtsys.Lib.Run

namespace Dtsys

/-! ## One key of Redis -/

/-- A key, when it is there. -/
abbrev Slot := Option Counter

namespace Slot

/-- An expired key does not exist. -/
def live (s : Slot) (t : Nat) : Slot :=
  s.filter fun c => match c.expiresAt with
    | some e => decide (t < e)
    | none => true

/-- INCR: the new value, and the key. -/
def incr (s : Slot) (t : Nat) : Nat × Slot :=
  let c := (s.live t).getD ⟨0, none⟩
  (c.count + 1, some ⟨c.count + 1, c.expiresAt⟩)

/-- EXPIRE. -/
def expire (s : Slot) (t secs : Nat) : Slot :=
  (s.live t).map fun c => ⟨c.count, some (t + secs * second)⟩

end Slot

namespace Counters

/-! ## The counters -/

/-- Where a call fails. -/
inductive Fault
  | none
  /-- Redis does not execute the INCR -/
  | beforeIncr
  /-- the INCR is executed, and nothing after it -/
  | beforeExpire
  /-- all of it is executed, and the caller does not get the result -/
  | afterExpire
  deriving DecidableEq

/-- When the limiter is called, how long its EXPIRE takes, and what fails in between. -/
structure Call where
  time : Nat
  delay : Nat
  fault : Fault

/-- INCR, and EXPIRE for a new key: whether the call is admitted, if it gets that far. -/
def counted (admits : Nat → Bool) (windowSecs : Nat) (c : Call) (s : Slot) : Option Bool × Slot :=
  if c.fault = .beforeIncr then (none, s)
  else
    let (current, s) := s.incr c.time
    let s :=
      if current = 1 ∧ c.fault ≠ .beforeExpire then s.expire (c.time + c.delay) windowSecs else s
    (if c.fault = .none then some (admits current) else none, s)

/-- `check_rate_limit` -/
def checkRateLimit (limit windowSecs : Nat) : Call → Slot → Option Bool × Slot :=
  counted (fun current => decide (current < limit)) windowSecs

/-- `event_rate` in `_handle_event`: over a hundred, the event is dropped. -/
def eventRate : Call → Slot → Option Bool × Slot := counted (fun count => !decide (count > 100)) 30

/-- `ws_attempts` in `device_websocket`: over thirty, the socket is closed. -/
def wsAttempts : Call → Slot → Option Bool × Slot :=
  counted (fun attempts => !decide (attempts > 30)) 60

/-- The three counters. -/
inductive Limiter
  | rateLimit (limit windowSecs : Nat)
  | eventRate
  | wsAttempts
  deriving DecidableEq

namespace Limiter

/-- How many calls a window allows. -/
def limit : Limiter → Nat
  | .rateLimit limit _ => limit
  | .eventRate => 100
  | .wsAttempts => 30

/-- How long a window is. -/
def windowSecs : Limiter → Nat
  | .rateLimit _ windowSecs => windowSecs
  | .eventRate => 30
  | .wsAttempts => 60

/-- The code of the limiter. -/
def run : Limiter → Call → Slot → Option Bool × Slot
  | .rateLimit limit windowSecs => checkRateLimit limit windowSecs
  | .eventRate => Counters.eventRate
  | .wsAttempts => Counters.wsAttempts

end Limiter

/-! ## The counters of the server's state -/

/-- The store with another value for a key. -/
def withSlot (r : Redis) (k : CounterKey) (s : Slot) : Redis :=
  { r with counters := Function.update r.counters k s }

theorem incr_slot (r : Redis) (k : CounterKey) (t : Nat) :
    r.incr k t = ((Slot.incr (r.counters k) t).1, withSlot r k (Slot.incr (r.counters k) t).2) := rfl

theorem expire_slot (r : Redis) (k : CounterKey) (s : Slot) (t secs : Nat) :
    (withSlot r k s).expire k t secs = withSlot r k (s.expire t secs) := by
  have hlive : (withSlot r k s).live k t = s.live t := by
    show Slot.live (Function.update r.counters k s k) t = s.live t
    rw [Function.update_self]
  rw [Redis.expire, Slot.expire, hlive]
  simp only [withSlot, Function.update_idem]

/-- INCR and EXPIRE on the store. -/
theorem counted_slot (r : Redis) (k : CounterKey) (t secs : Nat) (admits : Nat → Bool) :
    counted admits secs ⟨t, 0, .none⟩ (r.counters k) =
        (some (admits (r.incr k t).1), (counted admits secs ⟨t, 0, .none⟩ (r.counters k)).2) ∧
      (if (r.incr k t).1 = 1 then (r.incr k t).2.expire k t secs else (r.incr k t).2) =
        withSlot r k (counted admits secs ⟨t, 0, .none⟩ (r.counters k)).2 := by
  refine ⟨rfl, ?_⟩
  rw [incr_slot, expire_slot]
  by_cases hnew : (Slot.incr (r.counters k) t).1 = 1
  · simp [counted, hnew]
  · simp [counted, hnew]

/-- `connectRateLimited` is `wsAttempts` on its key. -/
theorem connectRateLimited_counts {w : World} {r : Redis} (hredis : w.redis = some r) (ip : String) :
    ∃ refused s, wsAttempts ⟨w.clock, 0, .none⟩ (r.counters (.wsAttempts ip)) = (some (!refused), s) ∧
      Server.connectRateLimited ip w =
        (.ok refused, { w with redis := some (withSlot r (.wsAttempts ip) s) }) := by
  obtain ⟨hverdict, hslot⟩ := counted_slot r (.wsAttempts ip) w.clock 60
    (fun attempts => !decide (attempts > 30))
  refine ⟨_, _, hverdict, ?_⟩
  rw [Server.connectRateLimited, hredis, ← hslot]

/-- `eventRateLimited` is `eventRate` on its key. -/
theorem eventRateLimited_counts {w : World} {r : Redis} (hredis : w.redis = some r) (d : Uuid) :
    ∃ refused s, eventRate ⟨w.clock, 0, .none⟩ (r.counters (.eventRate d)) = (some (!refused), s) ∧
      Server.eventRateLimited d w =
        (.ok refused, { w with redis := some (withSlot r (.eventRate d) s) }) := by
  obtain ⟨hverdict, hslot⟩ := counted_slot r (.eventRate d) w.clock 30
    (fun count => !decide (count > 100))
  refine ⟨_, _, hverdict, ?_⟩
  rw [Server.eventRateLimited, hredis, ← hslot]

/-! ## What a rate limit counts -/

/-- The calls since the key was created, and when its window closes. -/
structure Ledger where
  calls : Nat
  closes : Nat

/-- One more call: it belongs to the open window, or opens one. -/
def Ledger.next (windowSecs : Nat) (c : Call) : Option Ledger → Ledger
  | some v =>
    if c.time < v.closes then ⟨v.calls + 1, v.closes⟩
    else ⟨1, c.time + c.delay + windowSecs * second⟩
  | none => ⟨1, c.time + c.delay + windowSecs * second⟩

/-- The key, what it should count, and what the last call was told. -/
structure State where
  slot : Slot
  ledger : Option Ledger
  verdict : Option Bool

/-- Nothing has been counted. -/
def State.init : State := ⟨none, none, none⟩

/-- What happens to a key. -/
inductive Event
  | call (c : Call)
  /-- `redis.delete(attempts_key)` of a socket that has been let in -/
  | delete

/-- A call of the limiter, beside the window that is meant; or the DELETE of the key. -/
def step (L : Limiter) (s : State) : Event → Option State
  | .call c =>
    let (verdict, slot) := L.run c s.slot
    some ⟨slot, if c.fault = .beforeIncr then s.ledger else some (Ledger.next L.windowSecs c s.ledger),
      verdict⟩
  | .delete => if L = .wsAttempts then some ⟨none, none, none⟩ else none

/-- The first `limit` calls since the key was created are admitted, and the others refused; and the key
    has a time to live. -/
structure Exact (L : Limiter) (e : Event) (s : State) : Prop where
  verdict : ∀ c, e = .call c → c.fault = .none →
    s.verdict = s.ledger.map fun v => decide (v.calls ≤ L.limit)
  expires : ∀ k, s.slot = some k → k.expiresAt.isSome = true

/-- The number a call that is executed has, counted from the creation of the key. -/
def number (s : State) (c : Call) : Nat := ((s.slot.live c.time).map Counter.count).getD 0 + 1

/-- The counter refuses its own limit. -/
def Limiter.Strict : Limiter → Prop
  | .rateLimit .. => True
  | .eventRate | .wsAttempts => False

/-- The call that creates the key comes to its EXPIRE; and a call of `check_rate_limit` that is told
    something is not the one with the number of the limit. -/
structure Sound (L : Limiter) (s : State) (e : Event) : Prop where
  expire : ∀ c, e = .call c → s.slot.live c.time = none → c.fault ≠ .beforeExpire
  limit : ∀ c, e = .call c → c.fault = .none → L.Strict → number s c ≠ L.limit

instance : ∀ L : Limiter, Decidable L.Strict
  | .rateLimit .. => isTrue trivial
  | .eventRate | .wsAttempts => isFalse id

instance (L : Limiter) (s : State) : ∀ e, Decidable (Sound L s e)
  | .call c =>
    decidable_of_iff ((s.slot.live c.time = none → c.fault ≠ .beforeExpire) ∧
        (c.fault = .none → L.Strict → number s c ≠ L.limit))
      ⟨fun h => ⟨fun _ heq => Event.call.inj heq ▸ h.1, fun _ heq => Event.call.inj heq ▸ h.2⟩,
        fun h => ⟨h.expire c rfl, h.limit c rfl⟩⟩
  | .delete => isTrue ⟨nofun, nofun⟩

/-! ## The key and the ledger -/

/-- The key of a ledger. -/
def Ledger.counter (v : Ledger) : Counter := ⟨v.calls, some v.closes⟩

/-- The key counts what it should. -/
structure Agrees (s : State) : Prop where
  slot : s.slot = s.ledger.map Ledger.counter
  pos : ∀ v, s.ledger = some v → 1 ≤ v.calls

variable {L : Limiter} {s s' : State} {c : Call}

/-- The call falls into no window. -/
def Closed (s : State) (c : Call) : Prop := ∀ v, s.ledger = some v → ¬ c.time < v.closes

/-- There is no open window at the call, or there is one. -/
theorem closed_or_open (s : State) (c : Call) :
    Closed s c ∨ ∃ v, s.ledger = some v ∧ c.time < v.closes := by
  cases hv : s.ledger with
  | none => exact .inl fun v h => by rw [hv] at h; cases h
  | some v =>
    by_cases hopen : c.time < v.closes
    · exact .inr ⟨v, rfl, hopen⟩
    · refine .inl fun u hu => ?_
      obtain rfl := Option.some.inj (hv.symm.trans hu)
      exact hopen

/-- Without an open window Redis has no live key. -/
theorem live_closed (h : Agrees s) (hclosed : Closed s c) : s.slot.live c.time = none := by
  rw [h.slot]
  cases hv : s.ledger with
  | none => rfl
  | some v => simp [Slot.live, Option.filter_some, Ledger.counter, hclosed v hv]

/-- With one, Redis has its count. -/
theorem live_open (h : Agrees s) {v : Ledger} (hv : s.ledger = some v) (hopen : c.time < v.closes) :
    s.slot.live c.time = some v.counter := by
  rw [h.slot, hv]
  simp [Slot.live, Option.filter_some, Ledger.counter, hopen]

/-- The first call of a window. -/
theorem next_closed (hclosed : Closed s c) (windowSecs : Nat) :
    Ledger.next windowSecs c s.ledger = ⟨1, c.time + c.delay + windowSecs * second⟩ := by
  unfold Ledger.next
  split
  · next v hv => rw [if_neg (hclosed v hv)]
  · rfl

theorem next_open {v : Ledger} (hv : s.ledger = some v) (hopen : c.time < v.closes)
    (windowSecs : Nat) : Ledger.next windowSecs c s.ledger = ⟨v.calls + 1, v.closes⟩ := by
  unfold Ledger.next
  rw [hv]
  exact if_pos hopen

/-- The number of a call is the one the ledger gives it. -/
theorem number_eq (h : Agrees s) (windowSecs : Nat) :
    number s c = (Ledger.next windowSecs c s.ledger).calls := by
  rw [number]
  rcases closed_or_open s c with hclosed | ⟨v, hv, hopen⟩
  · rw [live_closed h hclosed, next_closed hclosed]
    rfl
  · rw [live_open h hv hopen, next_open hv hopen]
    rfl

/-- **A call**: it is told whether its number is admitted, and the key is the ledger's, unless the call
    created it and did not come to the EXPIRE. -/
theorem counted_run (h : Agrees s) (hexec : c.fault ≠ .beforeIncr) (admits : Nat → Bool)
    (windowSecs : Nat) :
    counted admits windowSecs c s.slot =
      (if c.fault = .none then some (admits (Ledger.next windowSecs c s.ledger).calls) else none,
        if s.slot.live c.time = none ∧ c.fault = .beforeExpire then some ⟨1, none⟩
        else some (Ledger.next windowSecs c s.ledger).counter) := by
  rw [counted, if_neg hexec]
  rcases closed_or_open s c with hclosed | ⟨v, hv, hopen⟩
  · have hlive := live_closed h hclosed
    have hincr : s.slot.incr c.time = (1, some ⟨1, none⟩) := by
      rw [Slot.incr, hlive]
      rfl
    rw [hincr, next_closed hclosed, hlive]
    by_cases hstop : c.fault = .beforeExpire
    · simp [hstop]
    · simp [hstop, Slot.expire, Slot.live, Option.filter_some, Ledger.counter]
  · have hlive := live_open h hv hopen
    have hincr : s.slot.incr c.time = (v.calls + 1, some ⟨v.calls + 1, some v.closes⟩) := by
      rw [Slot.incr, hlive]
      rfl
    have hpos := h.pos v hv
    have hold : v.calls ≠ 0 := by omega
    rw [hincr, next_open hv hopen, hlive]
    simp [hold, Ledger.counter]

/-- Two of the counters admit their limit, and `check_rate_limit` does not. -/
theorem Limiter.run_eq (L : Limiter) : ∃ admits : Nat → Bool,
    (∀ c s, L.run c s = counted admits L.windowSecs c s) ∧
    ∀ n, admits n = decide (n ≤ L.limit) ↔ ¬ (L.Strict ∧ n = L.limit) := by
  cases L with
  | rateLimit limit windowSecs =>
    refine ⟨fun current => decide (current < limit), fun _ _ => rfl, fun n => ?_⟩
    show decide (n < limit) = decide (n ≤ limit) ↔ ¬ (True ∧ n = limit)
    rw [decide_eq_decide, true_and]
    omega
  | eventRate =>
    refine ⟨fun count => !decide (count > 100), fun _ _ => rfl, fun n => ?_⟩
    have hadmits : (!decide (100 < n)) = decide (n ≤ 100) := by
      rw [← decide_not, decide_eq_decide]
      omega
    exact ⟨fun _ hstrict => hstrict.1, fun _ => hadmits⟩
  | wsAttempts =>
    refine ⟨fun attempts => !decide (attempts > 30), fun _ _ => rfl, fun n => ?_⟩
    have hadmits : (!decide (30 < n)) = decide (n ≤ 30) := by
      rw [← decide_not, decide_eq_decide]
      omega
    exact ⟨fun _ hstrict => hstrict.1, fun _ => hadmits⟩

theorem next_pos (h : Agrees s) (windowSecs : Nat) :
    1 ≤ (Ledger.next windowSecs c s.ledger).calls := by
  rw [← number_eq h]
  exact Nat.le_add_left 1 _

theorem Agrees.expires (h : Agrees s) : ∀ k, s.slot = some k → k.expiresAt.isSome = true := by
  intro k hk
  rw [h.slot] at hk
  obtain ⟨v, -, rfl⟩ := Option.map_eq_some_iff.mp hk
  rfl

theorem Agrees.init : Agrees .init := ⟨rfl, fun _ h => nomatch h⟩

/-! ## One step -/

theorem step_call (L : Limiter) (s : State) (c : Call) : step L s (.call c) = some
    ⟨(L.run c s.slot).2, if c.fault = .beforeIncr then s.ledger else
      some (Ledger.next L.windowSecs c s.ledger), (L.run c s.slot).1⟩ := rfl

theorem step_delete (hs : step L s .delete = some s') : s' = .init := by
  have hs : (if L = .wsAttempts then some State.init else none) = some s' := hs
  split at hs
  · cases hs
    rfl
  · cases hs

/-- The state after a call that Redis does not execute. -/
theorem step_unexecuted (L : Limiter) (s : State) (hfault : c.fault = .beforeIncr) :
    step L s (.call c) = some ⟨s.slot, s.ledger, none⟩ := by
  obtain ⟨admits, hrun, -⟩ := L.run_eq
  have hcounted : L.run c s.slot = (none, s.slot) := by
    rw [hrun]
    exact if_pos hfault
  rw [step_call, hcounted, if_pos hfault]

/-- The state after a call that Redis executes. -/
theorem step_executed (h : Agrees s) (hexec : c.fault ≠ .beforeIncr) {admits : Nat → Bool}
    (hrun : ∀ c s, L.run c s = counted admits L.windowSecs c s) :
    step L s (.call c) = some
      ⟨if s.slot.live c.time = none ∧ c.fault = .beforeExpire then some ⟨1, none⟩
        else some (Ledger.next L.windowSecs c s.ledger).counter,
      some (Ledger.next L.windowSecs c s.ledger),
      if c.fault = .none then some (admits (Ledger.next L.windowSecs c s.ledger).calls) else none⟩ := by
  rw [step_call, hrun, counted_run h hexec, if_neg hexec]

/-- **A sound call** is counted exactly. -/
theorem step_good {e : Event} (hsound : Sound L s e) (hs : step L s e = some s') (h : Agrees s) :
    Agrees s' ∧ Exact L e s' := by
  obtain ⟨admits, hrun, hadmits⟩ := L.run_eq
  cases e with
  | delete =>
    rw [step_delete hs]
    refine ⟨.init, ⟨?_, Agrees.init.expires⟩⟩
    rintro _ ⟨⟩
  | call c =>
    by_cases hfault : c.fault = .beforeIncr
    · rw [step_unexecuted L s hfault] at hs
      cases hs
      have hkept : Agrees ⟨s.slot, s.ledger, none⟩ := ⟨h.slot, h.pos⟩
      refine ⟨hkept, ?_, hkept.expires⟩
      rintro _ ⟨⟩ hnone
      rw [hnone] at hfault
      cases hfault
    · rw [step_executed h hfault hrun] at hs
      cases hs
      rw [if_neg fun hstop => hsound.expire c rfl hstop.1 hstop.2]
      have hkept : ∀ verdict, Agrees ⟨some (Ledger.next L.windowSecs c s.ledger).counter,
          some (Ledger.next L.windowSecs c s.ledger), verdict⟩ := by
        refine fun verdict => ⟨rfl, ?_⟩
        rintro _ ⟨⟩
        exact next_pos h L.windowSecs
      refine ⟨hkept _, ?_, (hkept none).expires⟩
      rintro _ ⟨⟩ hnone
      have hlimit : ¬ (L.Strict ∧ (Ledger.next L.windowSecs c s.ledger).calls = L.limit) := by
        rintro ⟨hstrict, hcalls⟩
        exact hsound.limit c rfl hnone hstrict ((number_eq h L.windowSecs).trans hcalls)
      show (if _ then _ else _) = some _
      rw [if_pos hnone, (hadmits _).mpr hlimit]

/-- **Only sound calls** are counted exactly. -/
theorem step_bad {e : Event} (hs : step L s e = some s') (h : Agrees s) (hexact : Exact L e s') :
    Sound L s e := by
  obtain ⟨admits, hrun, hadmits⟩ := L.run_eq
  constructor
  · rintro c rfl hlive hfault
    rw [step_executed h (by rw [hfault]; decide) hrun, if_pos ⟨hlive, hfault⟩] at hs
    cases hs
    have hexpires := hexact.expires _ rfl
    cases hexpires
  · rintro c rfl hnone hstrict hnumber
    rw [step_executed h (by rw [hnone]; decide) hrun] at hs
    cases hs
    have hverdict := hexact.verdict c rfl hnone
    rw [number_eq h L.windowSecs] at hnumber
    have hsame : some (admits (Ledger.next L.windowSecs c s.ledger).calls) =
        some (decide ((Ledger.next L.windowSecs c s.ledger).calls ≤ L.limit)) := by
      rw [if_pos hnone] at hverdict
      exact hverdict
    exact (hadmits _).mp (Option.some.inj hsame) ⟨hstrict, hnumber⟩

/-- **The limit of a counter**: in a sequence of calls, the first `limit` calls since the key was created
    are admitted and the others refused, and the key always has a time to live, if and only if every call
    that creates the key comes to its EXPIRE, and none that `check_rate_limit` answers has the number of
    the limit.

    The key is created by INCR and gets its time to live by an EXPIRE of its own, which may not come.  And
    `check_rate_limit` admits while the number is below the limit, the siblings up to it. -/
theorem counters_exact_iff {t : State} {events : List Event}
    (ht : Run.exec (step L) .init events = some t) :
    Run.After (step L) (Exact L) .init events ↔ Run.Guarded (step L) (Sound L) .init events := by
  refine Run.after_iff_guarded_of_inv (I := Agrees) ?_ ?_ ht .init
  · exact fun s e s' hsound hs h => step_good hsound hs h
  · exact fun s e s' hs h hexact => step_bad hs h hexact

/-- A registration a minute: the fifth is refused. -/
def registrations : List Event :=
  [0, 60, 120, 180, 240].map fun secs => .call ⟨secs * second, 0, .none⟩

/-- Four registrations are within the limit. -/
theorem counters_exact_four :
    Run.After (step (.rateLimit 5 3600)) (Exact (.rateLimit 5 3600)) .init (registrations.take 4) :=
  (counters_exact_iff rfl).mpr (by decide +kernel)

/-- The fifth registration of five is refused; and a socket whose attempt stops behind the INCR leaves a
    counter without an end. -/
theorem limit_refused :
    (¬ Run.After (step (.rateLimit 5 3600)) (Exact (.rateLimit 5 3600)) .init registrations) ∧
      ¬ Run.After (step .wsAttempts) (Exact .wsAttempts) .init [.call ⟨0, 0, .beforeExpire⟩] := by
  constructor
  · intro h
    have hexact := Run.After.last h rfl rfl
    have hverdict := hexact.verdict _ rfl rfl
    exact absurd hverdict (by decide)
  · intro h
    have hexact := (h _ rfl).1
    have hexpires := hexact.expires ⟨1, none⟩ rfl
    cases hexpires

end Counters

end Dtsys
