/-
  THE TEN SLOTS of `/events/stream`: `_connection_counts` against the streams that are open.

  `stream_alerts` counts a stream when it is requested, and its generator counts it off in a `finally`
  block.  A block that is never entered is never left: a response that is dropped before its generator is
  first advanced keeps its slot, and the queue it is subscribed with, for good.

  Neither `_connection_lock` nor the lock of the stream is held over an `await`, so taking one never
  suspends: the endpoint runs from its check to the response in one go, and the `finally` block from
  `unsubscribe` to the count.  What interleaves are the other suspension points: before the generator is
  first advanced, inside its loop, and at a `yield`.

  1. `step` — requests, the iterations of a stream, and its end;
  2. `Inv` — the count of a user is the number of their streams that have not run the block;
  3. `accounted_iff` — it is the number of their open streams exactly in the runs that drop no response.
-/
import Dtsys.Server.Values
import Dtsys.Lib.Run
import Mathlib.Logic.Function.Basic

namespace Dtsys

/-- Where a stream is. -/
inductive StreamPhase where
  /-- The response is made, its generator has not been advanced. -/
  | responded
  /-- In the loop, at `is_disconnected()` or at `queue.get()`. -/
  | waiting
  /-- At a `yield`. -/
  | yielded
  /-- The `finally` block has run. -/
  | ended
  /-- The response was dropped before its generator was first advanced. -/
  | dropped
  deriving DecidableEq

/-- A stream that was admitted. -/
structure AlertStream where
  user : Uuid
  phase : StreamPhase
  subscribed : Bool
  deriving DecidableEq

/-- `_connection_counts`, and the streams in the order of their requests. -/
structure StreamSlots where
  counts : Uuid → Option Nat
  streams : List AlertStream

namespace StreamSlots

/-- `MAX_SSE_CONNECTIONS`. -/
def maxSseConnections : Nat := 10

/-- Nobody has a slot. -/
def start : StreamSlots := ⟨fun _ => none, []⟩

/-- `_connection_counts.get(user_key, 0)`. -/
def current (s : StreamSlots) (u : Uuid) : Nat := (s.counts u).getD 0

/-- `stream_alerts`; a refused request gets the answer 429. -/
def streamAlerts (s : StreamSlots) (u : Uuid) : StreamSlots :=
  if maxSseConnections ≤ s.current u then s
  else
    { counts := Function.update s.counts u (some (s.current u + 1))
      streams := s.streams ++ [⟨u, .responded, true⟩] }

/-- The `finally` block of the stream `n`. -/
def finish (s : StreamSlots) (n : Nat) (st : AlertStream) : StreamSlots :=
  let remaining := s.current st.user - 1
  { counts := Function.update s.counts st.user (if remaining ≤ 0 then none else some remaining)
    streams := s.streams.set n { st with phase := .ended, subscribed := false } }

/-- What ends a generator that has been advanced. -/
inductive Ending where
  /-- `is_disconnected()` is true. -/
  | disconnected
  /-- Something in the loop raises. -/
  | raised
  | cancelled
  /-- `aclose()`, of a generator left at a `yield`. -/
  | closed
  deriving DecidableEq

/-- Where a generator can meet it. -/
def Ending.meets : Ending → StreamPhase → Bool
  | .disconnected, .waiting => true
  | .raised, .waiting => true
  | .cancelled, .waiting => true
  | .cancelled, .yielded => true
  | .closed, .yielded => true
  | _, _ => false

/-- What becomes of the responses. -/
inductive Label where
  | request (u : Uuid)
  /-- The generator is first advanced. -/
  | advance (n : Nat)
  /-- A payload of another organization: `continue`. -/
  | skip (n : Nat)
  /-- A payload or a keep-alive is yielded. -/
  | emit (n : Nat)
  | resume (n : Nat)
  | finish (n : Nat) (ending : Ending)
  /-- The response is dropped before its generator is first advanced. -/
  | drop (n : Nat)
  deriving DecidableEq

/-- The stream `n` goes from one phase to another. -/
def move (s : StreamSlots) (n : Nat) (a b : StreamPhase) : Option StreamSlots :=
  match s.streams[n]? with
  | some st =>
    if st.phase = a then some { s with streams := s.streams.set n { st with phase := b } } else none
  | none => none

/-- One step. -/
def step (s : StreamSlots) : Label → Option StreamSlots
  | .request u => some (s.streamAlerts u)
  | .advance n => s.move n .responded .waiting
  | .skip n => s.move n .waiting .waiting
  | .emit n => s.move n .waiting .yielded
  | .resume n => s.move n .yielded .waiting
  | .drop n => s.move n .responded .dropped
  | .finish n ending =>
    match s.streams[n]? with
    | some st => if ending.meets st.phase then some (s.finish n st) else none
    | none => none

/-! ## Streams of a user -/

/-- Admitted, and the `finally` block has not run. -/
def holds (u : Uuid) (st : AlertStream) : Bool := st.user == u && st.phase != .ended

/-- Admitted, and not yet ended; a dropped stream has ended. -/
def openStream (u : Uuid) (st : AlertStream) : Bool :=
  st.user == u && st.phase != .ended && st.phase != .dropped

/-- The open streams of a user. -/
def live (s : StreamSlots) (u : Uuid) : Nat := s.streams.countP (openStream u)

/-- The dropped ones. -/
def leaked (s : StreamSlots) (u : Uuid) : Nat :=
  s.streams.countP fun st => st.user == u && st.phase == .dropped

/-- The slots a user holds: live streams, and leaked ones. -/
theorem countP_holds (s : StreamSlots) (u : Uuid) :
    s.streams.countP (holds u) = s.live u + s.leaked u := by
  rw [live, leaked]
  induction s.streams with
  | nil => rfl
  | cons st streams ih =>
    rw [List.countP_cons, List.countP_cons, List.countP_cons, ih]
    rw [holds, openStream]
    cases st.user == u with
    | false => simp
    | true =>
      cases st.phase with
      | dropped => simp; omega
      | ended => simp
      | _ => simp; omega

/-! ## The invariant -/

/-- The count of a user is the number of their streams that have not run the block. -/
structure Inv (s : StreamSlots) : Prop where
  counted : ∀ u, s.current u = s.streams.countP (holds u)
  bounded : ∀ u, s.current u ≤ maxSseConnections
  subscribed : ∀ st ∈ s.streams, st.subscribed = (st.phase != .ended)

variable {s s' : StreamSlots} {n : Nat}

theorem inv_start : Inv start :=
  ⟨fun _ => rfl, fun _ => Nat.zero_le _, fun _ h => nomatch h⟩

/-- **A step between two phases**, said once. -/
theorem move_cases {a b : StreamPhase} (h : s.move n a b = some s') :
    ∃ st, s.streams[n]? = some st ∧ st.phase = a ∧
      s' = { s with streams := s.streams.set n { st with phase := b } } := by
  rw [move] at h
  split at h
  · rename_i st hst
    split at h
    · exact ⟨st, hst, ‹_›, (Option.some.inj h).symm⟩
    · cases h
  · cases h

theorem finish_cases {ending : Ending} (h : step s (.finish n ending) = some s') :
    ∃ st, s.streams[n]? = some st ∧ st.phase ≠ .ended ∧ st.phase ≠ .dropped ∧ s' = s.finish n st := by
  unfold step at h
  dsimp only at h
  split at h
  · rename_i st hst
    split at h
    · rename_i hmeets
      refine ⟨st, hst, fun hend => ?_, fun hend => ?_, (Option.some.inj h).symm⟩
      · rw [hend] at hmeets
        cases ending <;> cases hmeets
      · rw [hend] at hmeets
        cases ending <;> cases hmeets
    · cases h
  · cases h

/-- One stream changes. -/
theorem countP_set_stream {st t : AlertStream} (hst : s.streams[n]? = some st)
    (p : AlertStream → Bool) :
    (s.streams.set n t).countP p + (if p st then 1 else 0) =
      s.streams.countP p + (if p t then 1 else 0) := by
  obtain ⟨hn, rfl⟩ := List.getElem?_eq_some_iff.mp hst
  have hle := List.boole_getElem_le_countP (p := p) hn
  rw [List.countP_set hn]
  omega

/-- A stream moves on without ending. -/
theorem Inv.move {a b : StreamPhase} (h : Inv s) (ha : a ≠ .ended) (hb : b ≠ .ended)
    (hmove : s.move n a b = some s') : Inv s' := by
  obtain ⟨st, hst, hphase, rfl⟩ := move_cases hmove
  have hold : (st.phase != .ended) = true := by rw [hphase]; simpa using ha
  have hnew : (b != StreamPhase.ended) = true := by simpa using hb
  refine ⟨fun u => ?_, h.bounded, fun x hx => ?_⟩
  · have hset := countP_set_stream (t := { st with phase := b }) hst (holds u)
    have hsame : holds u { st with phase := b } = holds u st := by
      unfold holds
      rw [hold, hnew]
    rw [hsame, Nat.add_right_cancel_iff] at hset
    exact (h.counted u).trans hset.symm
  · rcases List.mem_or_eq_of_mem_set hx with hx | rfl
    · exact h.subscribed x hx
    · have hmem := List.mem_of_getElem? hst
      show st.subscribed = (b != StreamPhase.ended)
      rw [h.subscribed st hmem, hold, hnew]

/-- The counts after one entry is written. -/
theorem current_update (s : StreamSlots) (streams : List AlertStream) (u : Uuid) (c : Option Nat)
    (v : Uuid) : (⟨Function.update s.counts u c, streams⟩ : StreamSlots).current v =
      if v = u then c.getD 0 else s.current v := by
  rw [current]
  by_cases hv : v = u
  · subst hv
    rw [if_pos rfl]
    exact congrArg (Option.getD · 0) (Function.update_self ..)
  · rw [if_neg hv]
    exact congrArg (Option.getD · 0) (Function.update_of_ne hv ..)

theorem current_finish (s : StreamSlots) (n : Nat) (st : AlertStream) (v : Uuid) :
    (s.finish n st).current v = if v = st.user then s.current st.user - 1 else s.current v := by
  refine (current_update s _ st.user _ v).trans (ite_congr rfl (fun _ => ?_) fun _ => rfl)
  split
  · rename_i hle
    exact (Nat.le_zero.mp hle).symm
  · rfl

/-- A stream that ends gives its slot back. -/
theorem Inv.finish {st : AlertStream} (h : Inv s) (hst : s.streams[n]? = some st)
    (hphase : st.phase ≠ .ended) : Inv (s.finish n st) := by
  have hset : ∀ u, (s.finish n st).streams.countP (holds u) + (if holds u st then 1 else 0) =
      s.streams.countP (holds u) := by
    intro u
    have hended : holds u { st with phase := .ended, subscribed := false } = false := by simp [holds]
    have hone := countP_set_stream (t := { st with phase := .ended, subscribed := false }) hst (holds u)
    rw [hended] at hone
    exact hone
  have hholds : ∀ u, holds u st = decide (st.user = u) := by
    intro u
    have hnot : (st.phase != .ended) = true := by simpa using hphase
    rw [holds, hnot, Bool.and_true]
    rfl
  have hcounted : ∀ u, (s.finish n st).current u = (s.finish n st).streams.countP (holds u) := by
    intro u
    have hu := hset u
    rw [hholds, ← h.counted u] at hu
    rw [current_finish]
    by_cases hown : u = st.user
    · subst hown
      rw [if_pos (by simp)] at hu
      rw [if_pos rfl]
      omega
    · rw [if_neg (by simpa using Ne.symm hown)] at hu
      rw [if_neg hown]
      exact hu.symm
  refine ⟨hcounted, fun u => ?_, fun x hx => ?_⟩
  · have hu := hset u
    rw [← h.counted u] at hu
    rw [hcounted u]
    have hle := h.bounded u
    omega
  · rcases List.mem_or_eq_of_mem_set hx with hx | rfl
    · exact h.subscribed x hx
    · rfl

theorem Inv.request (h : Inv s) (u : Uuid) : Inv (s.streamAlerts u) := by
  rw [streamAlerts]
  split
  · exact h
  · rename_i hfree
    refine ⟨fun v => ?_, fun v => ?_, fun x hx => ?_⟩
    · rw [List.countP_append, ← h.counted v, current_update]
      by_cases hv : v = u
      · subst hv
        simp [holds]
      · simp [holds, hv, Ne.symm hv]
    · rw [current_update]
      split
      · exact Nat.lt_of_not_le hfree
      · exact h.bounded v
    · rcases List.mem_append.mp hx with hx | hx
      · exact h.subscribed x hx
      · obtain rfl := List.mem_singleton.mp hx
        rfl

theorem inv_step {l : Label} (hs : step s l = some s') (h : Inv s) : Inv s' := by
  cases l with
  | request u =>
    obtain rfl := Option.some.inj hs
    exact h.request u
  | advance n => exact h.move (by decide) (by decide) hs
  | skip n => exact h.move (by decide) (by decide) hs
  | emit n => exact h.move (by decide) (by decide) hs
  | resume n => exact h.move (by decide) (by decide) hs
  | drop n => exact h.move (by decide) (by decide) hs
  | finish n ending =>
    obtain ⟨st, hst, hphase, -, rfl⟩ := finish_cases hs
    exact h.finish hst hphase

/-! ## Runs -/

/-- The accounting is right: every count is the number of open streams, it is at most ten, and a user
    without an open stream is admitted. -/
structure Accounted (s : StreamSlots) : Prop where
  counted : ∀ u, s.current u = s.live u
  bounded : ∀ u, s.current u ≤ maxSseConnections
  admits : ∀ u, s.live u = 0 → (s.streamAlerts u).live u = 1

/-- A response is dropped before its generator has started. -/
def Label.drops : Label → Bool
  | .drop _ => true
  | _ => false

/-- Some response has been dropped. -/
def Dropped (s : StreamSlots) : Prop := ∃ st ∈ s.streams, st.phase = .dropped

/-- What a step does to the streams that were dropped. -/
theorem dropped_set {st : AlertStream} (hst : s.streams[n]? = some st)
    (hphase : st.phase ≠ .dropped) (t : AlertStream) :
    (∃ x ∈ s.streams.set n t, x.phase = .dropped) ↔ t.phase = .dropped ∨ Dropped s := by
  have hset := countP_set_stream (t := t) hst fun x => x.phase == .dropped
  have hpos : ∀ l : List AlertStream,
      (∃ x ∈ l, x.phase = .dropped) ↔ 0 < l.countP fun x => x.phase == .dropped := by
    simp [List.countP_pos_iff]
  rw [if_neg (by simpa using hphase)] at hset
  rw [Dropped, hpos, hpos]
  by_cases ht : t.phase = .dropped
  · rw [if_pos (by simpa using ht)] at hset
    exact iff_of_true (by omega) (.inl ht)
  · rw [if_neg (by simpa using ht)] at hset
    rw [or_iff_right ht]
    omega

theorem dropped_move {a b : StreamPhase} (ha : a ≠ .dropped) (hmove : s.move n a b = some s') :
    Dropped s' ↔ b = .dropped ∨ Dropped s := by
  obtain ⟨st, hst, hphase, rfl⟩ := move_cases hmove
  exact dropped_set hst (by rw [hphase]; exact ha) _

theorem dropped_step {l : Label} (hs : step s l = some s') :
    Dropped s' ↔ (l.drops = true ∨ Dropped s) := by
  cases l with
  | request u =>
    obtain rfl := Option.some.inj hs
    rw [streamAlerts]
    split
    · simp [Label.drops]
    · simp [Label.drops, Dropped]
  | advance n => simpa [Label.drops] using dropped_move (by decide) hs
  | skip n => simpa [Label.drops] using dropped_move (by decide) hs
  | emit n => simpa [Label.drops] using dropped_move (by decide) hs
  | resume n => simpa [Label.drops] using dropped_move (by decide) hs
  | drop n => simpa [Label.drops] using dropped_move (by decide) hs
  | finish n ending =>
    obtain ⟨st, hst, -, hphase, rfl⟩ := finish_cases hs
    exact (dropped_set hst hphase { st with phase := .ended, subscribed := false }).trans
      (or_congr_left (iff_of_false (fun h => (nomatch h)) fun h => (nomatch h)))

theorem foldl_drops : ∀ (ls : List Label) (o : Bool),
    ls.foldl (fun o l => o || l.drops) o = (o || ls.any Label.drops) := by
  intro ls
  induction ls with
  | nil => exact fun o => (Bool.or_false o).symm
  | cons l ls ih =>
    intro o
    rw [List.foldl_cons, ih, List.any_cons, Bool.or_assoc]

/-- What is known after a run. -/
theorem inv_run {ls : List Label} (hrun : Run.exec step start ls = some s) :
    Inv s ∧ (Dropped s ↔ ls.any Label.drops = true) := by
  have hobserved : Inv s ∧ (Dropped s ↔ ls.foldl (fun o l => o || l.drops) false = true) :=
    Run.exec_observed (g := fun o l => o || l.drops) (C := fun _ _ => True)
      (I := fun s o => Inv s ∧ (Dropped s ↔ o = true))
      (fun s o l s' _ hs hI => ⟨inv_step hs hI.1, by
        rw [dropped_step hs, hI.2, Bool.or_eq_true, or_comm]⟩)
      (Run.guarded_true ls start) hrun ⟨inv_start, by simp [Dropped, start]⟩
  rw [foldl_drops, Bool.false_or] at hobserved
  exact hobserved

/-- **The count** of a user. -/
theorem Inv.current_eq (h : Inv s) (u : Uuid) : s.current u = s.live u + s.leaked u :=
  (h.counted u).trans (countP_holds s u)

/-- A dropped stream keeps its queue as well. -/
theorem dropped_subscribed {ls : List Label} (hrun : Run.exec step start ls = some s)
    {st : AlertStream} (hst : st ∈ s.streams) (hphase : st.phase = .dropped) :
    st.subscribed = true := by
  rw [(inv_run hrun).1.subscribed st hst, hphase]
  rfl

/-- A user without an open or a dropped stream gets one. -/
theorem live_streamAlerts {u : Uuid} (hlive : s.live u = 0) (hcurrent : s.current u = 0) :
    (s.streamAlerts u).live u = 1 := by
  rw [streamAlerts, if_neg (by rw [hcurrent]; decide)]
  unfold live at hlive ⊢
  rw [List.countP_append, hlive]
  simp [openStream]

/-- **The accounting is right** exactly in the runs in which no response is dropped before its generator
    is first advanced.

    The count goes up in the endpoint and down in the `finally` of the generator, which never runs if the generator
    was not started.  The invariant is `current = live + leaked`. -/
theorem accounted_iff {ls : List Label} (hrun : Run.exec step start ls = some s) :
    Accounted s ↔ ∀ l ∈ ls, l.drops = false := by
  obtain ⟨hinv, hdropped⟩ := inv_run hrun
  have hnone : (∀ l ∈ ls, l.drops = false) ↔ ¬ Dropped s := by
    rw [hdropped]
    simp
  rw [hnone]
  constructor
  · rintro hacc ⟨st, hst, hphase⟩
    have hleaked : 0 < s.leaked st.user :=
      List.countP_pos_iff.mpr ⟨st, hst, by simp [hphase]⟩
    have hcount := hacc.counted st.user
    rw [hinv.current_eq] at hcount
    omega
  · intro hclean
    have hleaked : ∀ u, s.leaked u = 0 := by
      intro u
      refine List.countP_eq_zero.mpr fun st hst hin => hclean ⟨st, hst, ?_⟩
      exact (by simpa using hin : st.user = u ∧ st.phase = .dropped).2
    have hcurrent : ∀ u, s.current u = s.live u := by
      intro u
      rw [hinv.current_eq, hleaked, Nat.add_zero]
    exact ⟨hcurrent, hinv.bounded, fun u hu => live_streamAlerts hu ((hcurrent u).trans hu)⟩

/-- A stream that is read once and closed. -/
theorem accounted_closed :
    ∃ s, Run.exec step start [.request 1, .advance 0, .emit 0, .finish 0 .closed] = some s ∧
      Accounted s := by
  obtain ⟨s, hrun⟩ := Option.isSome_iff_exists.mp (show (Run.exec step start
    [.request 1, .advance 0, .emit 0, .finish 0 .closed]).isSome = true from rfl)
  exact ⟨s, hrun, (accounted_iff hrun).mpr (by decide)⟩

/-- Ten responses to clients that are gone: the user has no stream open, and is refused. -/
theorem slots_used_up :
    ∃ s, Run.exec step start ((List.range 10).flatMap fun n => [.request 1, .drop n]) = some s ∧
      ¬ Accounted s := by
  refine ⟨_, rfl, fun hacc => ?_⟩
  have hadmitted := hacc.admits 1 (by decide)
  revert hadmitted
  decide

end StreamSlots

end Dtsys
