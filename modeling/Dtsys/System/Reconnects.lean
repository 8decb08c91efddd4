/-
  AGENTS BEHIND ONE ADDRESS: `Client.Run` (`internal/transport/client.go`) against the counter that
  `device_websocket` keeps of the attempts of an address.

  `Run` dials, and sleeps after a failed dial and after the end of a connection: five seconds at first, twice as
  long every time until a dial goes through, five minutes at most.  The server counts an attempt, of an address that
  is not a loopback one, while the agent waits for the answer, and refuses it if it is over the thirtieth of the
  window; an attempt that it admits deletes the counter, so a window is full of attempts that fail.

  An agent whose attempts fail is counted four times in a window at most: the fifth comes 75 seconds after the
  first (`due`).  So seven agents are never refused, whatever fails and whatever is lost, and eight may be
  (`never_refused_iff`).
-/
import Dtsys.Server.Counters
import Mathlib.Algebra.BigOperators.Group.Finset.Piecewise
import Mathlib.Algebra.Group.Action.Defs
import Mathlib.Algebra.Order.BigOperators.Group.Finset

namespace Dtsys

/-! ## `Client.Run` -/

namespace Agent

/-- `backoff`, without its unit. -/
structure Backoff where
  current : Nat
  initial : Nat
  max : Nat

/-- `NewBackoff`. -/
def newBackoff (initial max : Nat) : Backoff := ⟨initial, initial, max⟩

/-- The duration to wait, and what is left for the next time. -/
def Backoff.next (b : Backoff) : Nat × Backoff :=
  (b.current, { b with current := if b.current * 2 > b.max then b.max else b.current * 2 })

/-- `Reset`. -/
def Backoff.reset (b : Backoff) : Backoff := { b with current := b.initial }

end Agent

open Agent (Backoff newBackoff)

/-- Where the loop of `Run` stands. -/
inductive RunPhase
  | ready
  /-- in `connect`: what the server has said of the attempt, if it has counted it -/
  | dialing (verdict : Option Bool)
  /-- still in `connect`, behind `redis.delete` -/
  | accepted
  | reading
  | waiting (deadline : Nat)
  | stopped
  deriving DecidableEq

/-- An agent that keeps its connection up. -/
structure Runner where
  backoff : Backoff
  phase : RunPhase

/-- `newBackoff(5*time.Second, 5*time.Minute)`. -/
def Runner.start : Runner := ⟨newBackoff (5 * second) (300 * second), .ready⟩

/-- `time.After(backoff.next())`. -/
def Runner.wait (r : Runner) (now : Nat) : Runner := ⟨r.backoff.next.2, .waiting (now + r.backoff.next.1)⟩

/-- The agents behind an address, and the key of the address. -/
structure Reconnects where
  clock : Nat
  runners : Nat → Runner
  counter : Counters.State

namespace Reconnects

open Counters

/-- The clock goes on, or an agent or the server does a step. -/
inductive Label
  | elapse (micros : Nat)
  | dial (a : Nat)
  /-- the server counts the attempt; the EXPIRE of a new key comes `delay` after the INCR -/
  | count (a delay : Nat)
  /-- the key of the device is right: the counter is deleted -/
  | accept (a : Nat)
  | opened (a : Nat)
  | failed (a : Nat)
  | lost (a : Nat)
  | wake (a : Nat)
  | cancel (a : Nat)

/-- Nobody has dialed. -/
def init : Reconnects := ⟨0, fun _ => .start, .init⟩

/-- Agent `a` goes on. -/
def set (s : Reconnects) (a : Nat) (r : Runner) : Reconnects :=
  { s with runners := fun b => if b = a then r else s.runners b }

/-- The agent goes on to a phase. -/
def goto (s : Reconnects) (a : Nat) (p : RunPhase) : Reconnects := s.set a { s.runners a with phase := p }

/-- One step. -/
def step (s : Reconnects) : Label → Option Reconnects
  | .elapse micros => some { s with clock := s.clock + micros }
  | .dial a => if (s.runners a).phase = .ready then some (s.goto a (.dialing none)) else none
  | .count a delay =>
    if (s.runners a).phase = .dialing none then
      (Counters.step .wsAttempts s.counter (.call ⟨s.clock, delay, .none⟩)).map fun counter =>
        { s.goto a (.dialing counter.verdict) with counter }
    else none
  | .accept a =>
    if (s.runners a).phase = .dialing (some true) then
      (Counters.step .wsAttempts s.counter .delete).map fun counter => { s.goto a .accepted with counter }
    else none
  | .opened a =>
    if (s.runners a).phase = .accepted then some (s.set a ⟨(s.runners a).backoff.reset, .reading⟩) else none
  | .failed a =>
    match (s.runners a).phase with
    | .dialing _ | .accepted => some (s.set a ((s.runners a).wait s.clock))
    | _ => none
  | .lost a => if (s.runners a).phase = .reading then some (s.set a ((s.runners a).wait s.clock)) else none
  | .wake a =>
    match (s.runners a).phase with
    | .waiting deadline => if deadline ≤ s.clock then some (s.goto a .ready) else none
    | _ => none
  | .cancel a => some (s.goto a .stopped)

/-! ## Four attempts in a window -/

/-- After `k` failed attempts in a row, the next one comes this long after the first. -/
def due (k : Nat) : Nat := 5 * second * (2 ^ k - 1)

/-- The k-th attempt is due after the sum of the waits. -/
theorem due_succ (k : Nat) : due (k + 1) = due k + 5 * second * 2 ^ k := by
  have hpos : 1 ≤ 2 ^ k := Nat.one_le_two_pow
  rw [due, due, ← Nat.mul_add, Nat.pow_succ]
  congr 1
  omega

/-- The next wait is `m` at least, as are all that follow until a reset. -/
structure Waits (m : Nat) (b : Backoff) : Prop where
  current : m ≤ b.current
  max : m ≤ b.max

theorem Waits.next {m : Nat} {b : Backoff} (h : Waits m b) : Waits m b.next.2 := by
  refine ⟨?_, h.max⟩
  show m ≤ if b.current * 2 > b.max then b.max else b.current * 2
  have hcurrent := h.current
  split
  · exact h.max
  · omega

/-- The wait is doubled, as far as the maximum allows. -/
theorem Waits.double {m : Nat} {b : Backoff} (h : Waits m b) (hmax : 2 * m ≤ b.max) : Waits (2 * m) b.next.2 := by
  refine ⟨?_, hmax⟩
  show 2 * m ≤ if b.current * 2 > b.max then b.max else b.current * 2
  have hcurrent := h.current
  split
  · exact hmax
  · omega

/-- An agent that was counted `k + 1` times in a window that opened at `o`: where it may stand. -/
def Paced (clock o k : Nat) (r : Runner) : Prop :=
  match r.phase with
  | .dialing (some _) => o + due k ≤ clock ∧ Waits (5 * second * 2 ^ k) r.backoff
  | .ready | .dialing none => o + due (k + 1) ≤ clock ∧ Waits (5 * second * 2 ^ (k + 1)) r.backoff
  | .waiting deadline => o + due (k + 1) ≤ deadline ∧ Waits (5 * second * 2 ^ (k + 1)) r.backoff
  | .accepted | .reading => False
  | .stopped => True

theorem Paced.mono {clock clock' o k : Nat} {r : Runner} (h : Paced clock o k r) (hle : clock ≤ clock') :
    Paced clock' o k r := by
  unfold Paced at h ⊢
  split at h
  · exact ⟨Nat.le_trans h.1 hle, h.2⟩
  · exact ⟨Nat.le_trans h.1 hle, h.2⟩
  · exact ⟨Nat.le_trans h.1 hle, h.2⟩
  · exact h
  · exact h
  · exact h
  · trivial

/-- A dial that fails, after `k + 1` attempts that were counted. -/
theorem Paced.wait {clock o k : Nat} {r : Runner} {verdict : Option Bool} (h : Paced clock o k r)
    (hphase : r.phase = .dialing verdict) (hmax : 5 * second * 2 ^ (k + 1) ≤ r.backoff.max) :
    Paced clock o k (r.wait clock) := by
  unfold Paced at h
  rw [hphase] at h
  show o + due (k + 1) ≤ clock + r.backoff.current ∧ _
  cases verdict with
  | none => exact ⟨Nat.le_trans h.1 (Nat.le_add_right ..), h.2.next⟩
  | some verdict =>
    obtain ⟨htime, hwaits⟩ := h
    have htwice : 5 * second * 2 ^ (k + 1) = 2 * (5 * second * 2 ^ k) := by
      rw [Nat.pow_succ, ← Nat.mul_assoc, Nat.mul_comm]
    refine ⟨?_, htwice ▸ hwaits.double (htwice ▸ hmax)⟩
    rw [due_succ, ← Nat.add_assoc]
    exact Nat.add_le_add htime hwaits.current

/-! ## The invariant -/

/-- What every backoff of `Run` is. -/
structure Patient (b : Backoff) : Prop where
  initial : b.initial = 5 * second
  max : b.max = 300 * second
  waits : Waits (5 * second) b

/-- Agent `a` has `counts a` attempts in the window that opened at `o`. -/
structure Inv (n : Nat) (s : Reconnects) (counts : Nat → Nat) (o : Nat) : Prop where
  patient : ∀ a, Patient (s.runners a).backoff
  begun : o ≤ s.clock
  few : ∀ a, counts a ≤ 4
  paced : ∀ a k, counts a = k + 1 → Paced s.clock o k (s.runners a)
  agrees : Agrees s.counter
  calls : ∀ v, s.counter.ledger = some v →
    v.calls = ∑ a ∈ Finset.range n, counts a ∧ v.closes ≤ o + 75 * second
  admitted : ∀ a, (s.runners a).phase ≠ .dialing (some false)

variable {n o : Nat} {s s' : Reconnects} {counts : Nat → Nat}

theorem forall_set {P : Nat → Runner → Prop} {a : Nat} {r : Runner} (ha : P a r)
    (hother : ∀ b, b ≠ a → P b (s.runners b)) : ∀ b, P b ((s.set a r).runners b) := by
  intro b
  dsimp only [Reconnects.set]
  split
  · rename_i hb
    rw [hb]
    exact ha
  · rename_i hb
    exact hother b hb

/-- What is left to show when one runner moves. -/
theorem Inv.set (h : Inv n s counts o) {a : Nat} {r : Runner} (hpatient : Patient r.backoff)
    (hpaced : ∀ k, counts a = k + 1 → Paced s.clock o k r) (hadmitted : r.phase ≠ .dialing (some false)) :
    Inv n (s.set a r) counts o where
  patient := forall_set (P := fun _ r => Patient r.backoff) hpatient fun b _ => h.patient b
  begun := h.begun
  few := h.few
  paced := forall_set (P := fun b r => ∀ k, counts b = k + 1 → Paced s.clock o k r) hpaced fun b _ => h.paced b
  agrees := h.agrees
  calls := h.calls
  admitted := forall_set (P := fun _ r => r.phase ≠ .dialing (some false)) hadmitted fun b _ => h.admitted b

theorem Patient.next {b : Backoff} (h : Patient b) : Patient b.next.2 := ⟨h.initial, h.max, h.waits.next⟩

/-- The agent sleeps. -/
theorem Inv.wait (h : Inv n s counts o) {a : Nat}
    (hpaced : ∀ k, counts a = k + 1 → ∃ verdict, (s.runners a).phase = .dialing verdict) :
    Inv n (s.set a ((s.runners a).wait s.clock)) counts o := by
  refine h.set (h.patient a).next (fun k hcount => ?_) (by simp [Runner.wait])
  obtain ⟨verdict, hdialing⟩ := hpaced k hcount
  refine (h.paced a k hcount).wait hdialing ?_
  have hfew := h.few a
  have hpow : 2 ^ (k + 1) ≤ 2 ^ 4 := Nat.pow_le_pow_right (by decide) (by omega)
  rw [(h.patient a).max]
  exact Nat.le_trans (Nat.mul_le_mul_left _ hpow) (by decide)

/-! ## A step -/

/-- `n` agents reach the server, and a new key gets its EXPIRE within fifteen seconds. -/
def Crowd (n : Nat) : Label → Prop
  | .count a delay => a < n ∧ delay ≤ 15 * second
  | _ => True

instance (n : Nat) : ∀ l, Decidable (Crowd n l)
  | .count .. => inferInstanceAs (Decidable (_ ∧ _))
  | .elapse _ | .dial _ | .accept _ | .opened _ | .failed _ | .lost _ | .wake _ | .cancel _ =>
    inferInstanceAs (Decidable True)

/-- The window of a key that has counted an attempt of agent `a`. -/
structure Counted (n : Nat) (s : Reconnects) (a : Nat) (v : Counters.Ledger) (counts : Nat → Nat) (o : Nat) :
    Prop where
  begun : o ≤ s.clock
  few : ∀ b, counts b ≤ 4
  own : ∀ k, counts a = k + 1 → o + due k ≤ s.clock ∧ Waits (5 * second * 2 ^ k) (s.runners a).backoff
  others : ∀ b, b ≠ a → ∀ k, counts b = k + 1 → Paced s.clock o k (s.runners b)
  calls : v.calls = ∑ b ∈ Finset.range n, counts b
  closes : v.closes ≤ o + 75 * second

/-- The attempt opens a window. -/
theorem Inv.counted_closed (h : Inv n s counts o) {a delay : Nat} (ha : a < n) (hdelay : delay ≤ 15 * second) :
    Counted n s a ⟨1, s.clock + delay + 60 * second⟩ (Function.update (fun _ => 0) a 1) s.clock where
  begun := Nat.le_refl _
  few := fun b => by
    rw [Function.update_apply]
    split
    · decide
    · decide
  own := fun k hk => by
    rw [Function.update_self] at hk
    obtain rfl := Nat.succ.inj hk
    exact ⟨Nat.le_refl _, (h.patient a).waits⟩
  others := fun b hb k hk => by
    rw [Function.update_of_ne hb] at hk
    cases hk
  calls := by
    rw [Finset.sum_update_of_mem (Finset.mem_range.mpr ha), Finset.sum_const_zero, Nat.add_zero]
  closes := by
    show s.clock + delay + 60 * second ≤ _
    omega

/-- The attempt falls into a window. -/
theorem Inv.counted_open (h : Inv n s counts o) {a : Nat} (ha : a < n)
    (hphase : (s.runners a).phase = .dialing none)
    {v : Counters.Ledger} (hv : s.counter.ledger = some v) (hopen : s.clock < v.closes) :
    Counted n s a ⟨v.calls + 1, v.closes⟩ (Function.update counts a (counts a + 1)) o := by
  have hmem : a ∈ Finset.range n := Finset.mem_range.mpr ha
  obtain ⟨hcalls, hcloses⟩ := h.calls v hv
  have hpaced : o + due (counts a) ≤ s.clock ∧ Waits (5 * second * 2 ^ counts a) (s.runners a).backoff := by
    cases hcount : counts a with
    | zero => exact ⟨h.begun, (h.patient a).waits⟩
    | succ k =>
      have hpaced := h.paced a k hcount
      unfold Paced at hpaced
      rw [hphase] at hpaced
      exact hpaced
  -- a fifth attempt would come after the end of the window
  have hfour : counts a ≠ 4 := by
    intro hcount
    rw [hcount] at hpaced
    exact absurd (Nat.lt_of_lt_of_le hopen hcloses) (Nat.not_lt.mpr hpaced.1)
  refine ⟨h.begun, fun b => ?_, fun k hk => ?_, fun b hb k hk => ?_, ?_, hcloses⟩
  · have hfew := h.few b
    rw [Function.update_apply]
    split
    · rename_i hb
      rw [hb] at hfew
      omega
    · exact hfew
  · rw [Function.update_self] at hk
    obtain rfl := Nat.succ.inj hk
    exact hpaced
  · rw [Function.update_of_ne hb] at hk
    exact h.paced b k hk
  · show v.calls + 1 = _
    rw [Finset.sum_update_of_mem hmem, hcalls, ← Finset.add_sum_erase _ _ hmem, ← Finset.sdiff_singleton_eq_erase]
    omega

/-- **An attempt is counted**, and admitted if four of every agent are. -/
theorem Inv.count (h : Inv n s counts o) (hn : n ≤ 7) {a delay : Nat} (ha : a < n) (hdelay : delay ≤ 15 * second)
    (hphase : (s.runners a).phase = .dialing none) {counter : Counters.State}
    (hs : Counters.step .wsAttempts s.counter (.call ⟨s.clock, delay, .none⟩) = some counter) :
    ∃ counts o, Inv n { s.goto a (.dialing counter.verdict) with counter } counts o := by
  have hsound : Sound .wsAttempts s.counter (.call ⟨s.clock, delay, .none⟩) :=
    ⟨fun _ heq _ => Event.call.inj heq ▸ nofun, fun _ _ _ hstrict => absurd hstrict id⟩
  obtain ⟨hagrees, hexact⟩ := step_good hsound hs h.agrees
  have hledger : counter.ledger = some (Counters.Ledger.next 60 ⟨s.clock, delay, .none⟩ s.counter.ledger) := by
    rw [step_call] at hs
    rw [← Option.some.inj hs]
    rfl
  obtain ⟨counts, o, hcounted⟩ : ∃ counts o,
      Counted n s a (Counters.Ledger.next 60 ⟨s.clock, delay, .none⟩ s.counter.ledger) counts o := by
    rcases closed_or_open s.counter ⟨s.clock, delay, .none⟩ with hclosed | ⟨v, hv, hopen⟩
    · rw [next_closed hclosed]
      exact ⟨_, _, h.counted_closed ha hdelay⟩
    · rw [next_open hv hopen]
      exact ⟨_, _, h.counted_open ha hphase hv hopen⟩
  have hverdict : counter.verdict = some true := by
    have hsum := Finset.sum_le_card_nsmul (Finset.range n) counts 4 fun b _ => hcounted.few b
    rw [Finset.card_range, smul_eq_mul] at hsum
    rw [hexact.verdict _ rfl rfl, hledger, Option.map_some, decide_eq_true]
    rw [hcounted.calls]
    exact Nat.le_trans hsum (Nat.le_trans (Nat.mul_le_mul_right 4 hn) (by decide))
  rw [hverdict]
  refine ⟨counts, o, ⟨forall_set (P := fun _ r => Patient r.backoff) (h.patient a) fun b _ => h.patient b,
    hcounted.begun, hcounted.few, ?_, hagrees, fun v hv => ?_, ?_⟩⟩
  · exact forall_set (P := fun b r => ∀ k, counts b = k + 1 → Paced s.clock o k r) hcounted.own hcounted.others
  · obtain rfl := Option.some.inj (hledger.symm.trans hv)
    exact ⟨hcounted.calls, hcounted.closes⟩
  · exact forall_set (P := fun _ r => r.phase ≠ .dialing (some false)) (by simp) fun b _ => h.admitted b

theorem inv_init : Inv n init (fun _ => 0) 0 where
  patient := fun _ => ⟨rfl, rfl, Nat.le_refl _, show 5 * second ≤ 300 * second by decide⟩
  begun := Nat.le_refl _
  few := fun _ => Nat.zero_le _
  paced := fun _ k h => nomatch h
  agrees := .init
  calls := nofun
  admitted := nofun

/-- One step, at most seven agents behind an address. -/
theorem inv_step (hn : n ≤ 7) {l : Label} (hcrowd : Crowd n l) (hs : step s l = some s') (h : Inv n s counts o) :
    ∃ counts o, Inv n s' counts o := by
  cases l with
  | elapse micros =>
    obtain rfl := Option.some.inj hs
    have hle : s.clock ≤ s.clock + micros := Nat.le_add_right ..
    exact ⟨counts, o, h.patient, Nat.le_trans h.begun hle, h.few, fun a k hcount => (h.paced a k hcount).mono hle,
      h.agrees, h.calls, h.admitted⟩
  | dial a =>
    rw [step] at hs
    split at hs
    · rename_i hready
      obtain rfl := Option.some.inj hs
      refine ⟨counts, o, h.set (h.patient a) (fun k hcount => ?_) (by simp)⟩
      -- An agent that has been counted is pacing itself; in the phase it is in, this is what `Paced` says.
      have hpaced := h.paced a k hcount
      unfold Paced at hpaced
      rw [hready] at hpaced
      exact hpaced
    · cases hs
  -- The one step at which an agent can be refused: it needs the bound on the agents.
  | count a delay =>
    rw [step] at hs
    split at hs
    · rename_i hdialing
      obtain ⟨counter, hcounter, rfl⟩ := Option.map_eq_some_iff.mp hs
      exact h.count hn hcrowd.1 hcrowd.2 hdialing hcounter
    · cases hs
  -- The handshake deletes the counter, so the counts of all agents start again.
  | accept a =>
    rw [step] at hs
    split at hs
    · obtain ⟨counter, hcounter, rfl⟩ := Option.map_eq_some_iff.mp hs
      obtain rfl := step_delete hcounter
      refine ⟨fun _ => 0, 0, ?_, Nat.zero_le _, fun _ => Nat.zero_le _, fun _ _ hcount => (nomatch hcount), .init,
        nofun, ?_⟩
      · exact forall_set (P := fun _ r => Patient r.backoff) (h.patient a) fun b _ => h.patient b
      · exact forall_set (P := fun _ r => r.phase ≠ .dialing (some false)) (by simp) fun b _ => h.admitted b
    · cases hs
  -- `backoff.reset`: the wait is back at its first value.
  | opened a =>
    rw [step] at hs
    split at hs
    · rename_i haccepted
      obtain rfl := Option.some.inj hs
      refine ⟨counts, o, h.set ?_ (fun k hcount => ?_) (by simp)⟩
      · obtain ⟨hinitial, hmax, hwaits⟩ := h.patient a
        exact ⟨hinitial, hmax, Nat.le_of_eq hinitial.symm, hwaits.max⟩
      · have hpaced := h.paced a k hcount
        unfold Paced at hpaced
        rw [haccepted] at hpaced
        exact hpaced
    · cases hs
  | failed a =>
    rw [step] at hs
    split at hs
    · rename_i verdict hdialing
      obtain rfl := Option.some.inj hs
      exact ⟨counts, o, h.wait fun _ _ => ⟨verdict, hdialing⟩⟩
    · rename_i haccepted
      obtain rfl := Option.some.inj hs
      refine ⟨counts, o, h.wait fun k hcount => ?_⟩
      have hpaced := h.paced a k hcount
      unfold Paced at hpaced
      rw [haccepted] at hpaced
      exact hpaced.elim
    · cases hs
  | lost a =>
    rw [step] at hs
    split at hs
    · rename_i hreading
      obtain rfl := Option.some.inj hs
      refine ⟨counts, o, h.wait fun k hcount => ?_⟩
      have hpaced := h.paced a k hcount
      unfold Paced at hpaced
      rw [hreading] at hpaced
      exact hpaced.elim
    · cases hs
  | wake a =>
    rw [step] at hs
    split at hs
    · rename_i deadline hwaiting
      split at hs
      · rename_i hdeadline
        obtain rfl := Option.some.inj hs
        refine ⟨counts, o, h.set (h.patient a) (fun k hcount => ?_) (by simp)⟩
        have hpaced := h.paced a k hcount
        unfold Paced at hpaced
        rw [hwaiting] at hpaced
        exact ⟨Nat.le_trans hpaced.1 hdeadline, hpaced.2⟩
      · cases hs
    · cases hs
  | cancel a =>
    obtain rfl := Option.some.inj hs
    exact ⟨counts, o, h.set (h.patient a) (fun _ _ => trivial) (by simp)⟩

/-! ## Runs -/

/-- Whatever the agents and the network do, no attempt of the `n` agents is refused. -/
def NeverRefused (n : Nat) : Prop :=
  ∀ ls s, (∀ l ∈ ls, Crowd n l) → Run.exec step init ls = some s → ∀ a, (s.runners a).phase ≠ .dialing (some false)

/-- Eight agents whose devices are revoked, and which dial at the same moments; up to the thirty-first attempt. -/
def refusals : List Label :=
  ([0, 5, 10, 20].flatMap fun secs => .elapse (secs * second) :: (List.range 8).flatMap fun a =>
    let attempt := [Label.dial a, .count a 0, .failed a]
    if secs = 0 then attempt else .wake a :: attempt).take 119

/-- **Seven agents** behind an address are never refused; more may be.

    The attempts of one agent are as far apart as its backoff says, so seven of them stay within the limit for as
    long as a counter lives; with eight there is a run that is refused (`refusals`). -/
theorem never_refused_iff (n : Nat) : NeverRefused n ↔ n ≤ 7 := by
  constructor
  · intro h
    by_contra hmany
    have height : ∀ l ∈ refusals, Crowd 8 l := by decide +kernel
    have hcrowd : ∀ l ∈ refusals, Crowd n l := by
      intro l hl
      have hl := height l hl
      cases l with
      | count a delay => exact ⟨Nat.lt_of_lt_of_le hl.1 (Nat.not_le.mp hmany), hl.2⟩
      | _ => trivial
    have hrun : (Run.exec step init refusals).any
        (fun s => decide ((s.runners 6).phase = .dialing (some false))) = true := by decide +kernel
    obtain ⟨s, hs, hrefused⟩ := (Option.any_eq_true ..).mp hrun
    exact h _ s hcrowd hs 6 (of_decide_eq_true hrefused)
  · intro hn ls s hcrowd hs a
    have hinv : ∃ counts o, Inv n s counts o :=
      @Run.exec_inv _ _ step (fun _ l => Crowd n l) (fun s => ∃ counts o, Inv n s counts o)
        (fun _ _ _ hcrowd hs ⟨_, _, h⟩ => inv_step hn hcrowd hs h) _ _ _
        (Run.guarded_of_forall init hcrowd) hs ⟨_, _, inv_init⟩
    obtain ⟨counts, o, h⟩ := hinv
    exact h.admitted a

end Reconnects

end Dtsys
